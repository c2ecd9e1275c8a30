import StylusSurvey.Contract.Signature
import StylusSurvey.Proofs.Texts

/-!
# How far a signature is read

A signature ends with a closing parenthesis and a result, which reaches to the next
opening brace. Where such an end stands in a text, no reader of a signature looks past it,
so what is appended makes no difference (`Signature.at?_append_of_end`). Hence the
signature of a block is the first one that is read anywhere in it
(`Signature.find?_eq_search`), and once it is there it stays (`Signature.find?_append`).
A text in which no signature begins is passed over (`Signature.find?_append_of_barren`).
-/

namespace StylusSurvey

open Text Declaration

variable {c : Char} {key name s t r w : Text}

namespace Text

/-! ## Readers that stop before a character -/

/-- The rest is what remains of the text after a part without the character. -/
def Passes (c : Char) (s r : Text) : Prop :=
  ∃ a, s = a ++ r ∧ c ∉ a

theorem Passes.trans {r' : Text} (h : Passes c s r) (h' : Passes c r r') : Passes c s r' := by
  obtain ⟨a, rfl, ha⟩ := h
  obtain ⟨a', rfl, ha'⟩ := h'
  exact ⟨a ++ a', (List.append_assoc a a' r').symm, List.not_mem_append ha ha'⟩

theorem Passes.isSuffix (h : Passes c s r) : r <:+ s := by
  obtain ⟨a, rfl, -⟩ := h
  exact List.suffix_append a r

/-- What begins with the character is not passed over. -/
theorem Passes.keep (h : Passes c s r) (hw : c :: w <:+ s) : c :: w <:+ r := by
  obtain ⟨a, rfl, ha⟩ := h
  induction a with
  | nil => exact hw
  | cons d a ih =>
    rw [List.mem_cons, not_or] at ha
    rcases List.suffix_cons_iff.1 hw with heq | hw
    · exact absurd (List.cons.inj heq).1 ha.1
    · exact ih ha.2 hw

theorem passes_trimStart (hc : isBlank c = false) (s : Text) : Passes c s (trimStart s) := by
  obtain ⟨b, hb, hs⟩ := exists_blanks_append_trimStart s
  exact ⟨b, hs, not_mem_of_blanks hb hc⟩

/-- The reader passes over a part of the text without the character, and where that stands it does
not look at what follows. -/
structure Reads (c : Char) (m : Text → Option Text) : Prop where
  passes : ∀ {s r : Text}, m s = some r → Passes c s r
  append : ∀ {s : Text} (t : Text), c ∈ s → m (s ++ t) = (m s).map (· ++ t)

/-- A character that is not passed over remains. -/
theorem Passes.mem (h : Passes c s r) (hc : c ∈ s) : c ∈ r := by
  obtain ⟨a, rfl, ha⟩ := h
  exact (List.mem_append.1 hc).resolve_left ha

/-- Readers that stop before a character do so one after the other. -/
theorem Reads.bind {m k : Text → Option Text} (hm : Reads c m) (hk : Reads c k) :
    Reads c fun s => (m s).bind k where
  passes := by
    intro s r h
    obtain ⟨u, hu, h⟩ := Option.bind_eq_some_iff.1 h
    exact (hm.passes hu).trans (hk.passes h)
  append := by
    intro s t hc
    simp only [hm.append t hc]
    cases hu : m s with
    | none => rfl
    | some u => exact hk.append t ((hm.passes hu).mem hc)

theorem reads_after? (hc : c ∉ key) : Reads c (after? key) where
  passes h := ⟨key, after?_eq_some_iff.1 h, hc⟩
  append := by
    intro s t h
    induction key generalizing s with
    | nil => rfl
    | cons k key ih =>
      rw [List.mem_cons, not_or] at hc
      cases s with
      | nil => exact absurd h List.not_mem_nil
      | cons d s =>
        rw [List.cons_append, after?, after?]
        split_ifs with hk
        · exact ih hc.2 ((List.mem_cons.1 h).resolve_left (hk ▸ hc.1))
        · rfl

theorem reads_blanks? (hc : isBlank c = false) : Reads c blanks? where
  passes := by
    intro s r h
    cases s with
    | nil => cases h
    | cons d s =>
      rw [blanks?] at h
      split_ifs at h with hd
      obtain rfl := Option.some.inj h
      have hne : c ∉ [d] := not_mem_of_blanks (List.forall_mem_singleton.2 hd) hc
      exact Passes.trans ⟨[d], rfl, hne⟩ (passes_trimStart hc s)
  append := by
    intro s t h
    cases s with
    | nil => exact absurd h List.not_mem_nil
    | cons d s =>
      rw [List.cons_append, blanks?, blanks?]
      split_ifs with hd
      · have hmem : c ∈ s := by
          refine (List.mem_cons.1 h).resolve_left ?_
          rintro rfl
          rw [hd] at hc
          cases hc
        rw [trimStart_append_of_exists ⟨c, hmem, hc⟩, Option.map_some]
      · rfl

/-- A word ends ahead of a character that is none of a word. -/
theorem passes_word? (hc : isWord c = false) (h : word? s = some (name, r)) : Passes c s r := by
  rw [word?] at h
  split at h
  · cases h
  · obtain rfl := (Prod.mk.inj (Option.some.inj h)).2
    refine ⟨s.takeWhile isWord, (List.takeWhile_append_dropWhile).symm, fun hmem => ?_⟩
    rw [List.mem_takeWhile_imp hmem] at hc
    cases hc

theorem word?_append_of_mem (h : c ∈ s) (hc : isWord c = false) :
    word? (s ++ t) = (word? s).map fun p => (p.1, p.2 ++ t) := by
  obtain ⟨u, v, rfl⟩ := List.append_of_mem h
  have htake (x : Text) : (u ++ c :: x).takeWhile isWord = u.takeWhile isWord := by
    rw [List.takeWhile_append]
    split_ifs with hlen
    · rw [List.takeWhile_cons_of_neg (by simp [hc]), List.append_nil]
      exact ((List.takeWhile_prefix _).eq_of_length hlen).symm
    · rfl
  rw [List.append_assoc, List.cons_append, word?, word?, htake, htake,
    dropWhile_append_cons hc, dropWhile_append_cons hc]
  cases u.takeWhile isWord with
  | nil => rfl
  | cons d u => simp

theorem cutAt?_append_of_mem (h : c ∈ s) :
    cutAt? c (s ++ t) = (cutAt? c s).map fun p => (p.1, p.2 ++ t) := by
  obtain ⟨u, v, rfl, hu⟩ := List.eq_append_cons_of_mem h
  rw [List.append_assoc, List.cons_append, cutAt?_append hu, cutAt?_append hu, Option.map_some]

theorem mem_of_cutAt? {p : Text × Text} (h : cutAt? c s = some p) : c ∈ s := by
  induction s generalizing p with
  | nil => cases h
  | cons d s ih =>
    rw [cutAt?] at h
    split_ifs at h with hd
    · exact hd ▸ List.mem_cons_self
    · obtain ⟨q, hq, -⟩ := Option.map_eq_some_iff.1 h
      exact List.mem_cons_of_mem d (ih hq)

end Text

namespace Declaration

/-- The front of a signature stops ahead of its closing parenthesis. -/
theorem reads_afterPublic? : Reads ')' (afterPublic? "fn") :=
  (reads_after? (by decide)).bind ((reads_blanks? (by decide)).bind
    ((reads_after? (by decide)).bind (reads_blanks? (by decide))))

end Declaration

namespace Signature

/-! ## The end of a signature -/

/-- The receiver stands ahead of the closing parenthesis. -/
theorem passes_receiver? {mutates : Bool} (h : receiver? s = some (mutates, r)) :
    Passes ')' s r := by
  obtain ⟨u, hu, h⟩ := Option.bind_eq_some_iff.1 h
  have hand : Passes ')' s u := (reads_after? (by decide)).passes hu
  split at h
  case h_1 v hv =>
    have hmut : Passes ')' u v := (reads_after? (by decide)).passes hv
    obtain ⟨x, hx, h⟩ := Option.bind_eq_some_iff.1 h
    obtain ⟨y, hy, h⟩ := Option.bind_eq_some_iff.1 h
    obtain rfl := (Prod.mk.inj (Option.some.inj h)).2
    have hblanks : Passes ')' v x := (reads_blanks? (by decide)).passes hx
    exact ((hand.trans hmut).trans hblanks).trans ((reads_after? (by decide)).passes hy)
  case h_2 =>
    obtain ⟨y, hy, h⟩ := Option.bind_eq_some_iff.1 h
    obtain rfl := (Prod.mk.inj (Option.some.inj h)).2
    exact hand.trans ((reads_after? (by decide)).passes hy)

/-- The receiver does not depend on what stands behind the closing parenthesis. -/
theorem receiver?_append_of_mem (h : ')' ∈ s) :
    receiver? (s ++ t) = (receiver? s).map fun p => (p.1, p.2 ++ t) := by
  have hand : Reads ')' (after? ['&']) := reads_after? (by decide)
  have hmut : Reads ')' (after? "mut") := reads_after? (by decide)
  have hblanks : Reads ')' blanks? := reads_blanks? (by decide)
  have hself : Reads ')' (after? "self") := reads_after? (by decide)
  simp only [receiver?, Option.bind_eq_bind, hand.append t h]
  cases hu : after? ['&'] s with
  | none => rfl
  | some u =>
    have hmem : ')' ∈ u := (hand.passes hu).mem h
    simp only [Option.map_some, Option.bind_some, hmut.append t hmem]
    cases hv : after? "mut" u with
    | none =>
      simp only [Option.map_none, hself.append t hmem]
      cases after? "self" u <;> rfl
    | some v =>
      have hmem : ')' ∈ v := (hmut.passes hv).mem hmem
      simp only [Option.map_some, hblanks.append t hmem]
      cases hx : blanks? v with
      | none => rfl
      | some x =>
        simp only [Option.map_some, Option.bind_some, hself.append t ((hblanks.passes hx).mem hmem)]
        cases after? "self" x <;> rfl

/-- The text begins with the end of a signature: a closing parenthesis and a result. -/
def IsEnd (w : Text) : Prop :=
  ∃ t, w = ')' :: t ∧ (result? t).isSome = true

/-- A result ends with an opening brace. -/
theorem brace_mem_of_result? (h : (result? s).isSome = true) : '{' ∈ s := by
  rw [result?] at h
  split at h
  case h_1 t heq =>
    exact mem_of_mem_trimStart (heq ▸ List.mem_cons_self)
  case h_2 t heq =>
    rw [Option.isSome_map] at h
    obtain ⟨p, hp⟩ := Option.isSome_iff_exists.1 h
    have hmem : '{' ∈ t := mem_of_cutAt? hp
    exact mem_of_mem_trimStart (heq ▸ List.mem_cons_of_mem _ (List.mem_cons_of_mem _ hmem))
  case h_3 => cases h

/-- Ahead of a result there is a brace or an arrow. -/
theorem result?_eq_none (hbrace : ¬∃ u, trimStart s = '{' :: u)
    (harrow : ¬∃ u, trimStart s = '-' :: '>' :: u) : result? s = none := by
  rw [result?]
  split
  case h_1 u heq => exact absurd ⟨u, heq⟩ hbrace
  case h_2 u heq => exact absurd ⟨u, heq⟩ harrow
  case h_3 => rfl

/-- A result is not read past an opening brace. -/
theorem result?_append_of_mem (h : '{' ∈ s) : result? (s ++ t) = result? s := by
  have htrim : trimStart (s ++ t) = trimStart s ++ t :=
    trimStart_append_of_exists ⟨'{', h, by decide⟩
  have hmem : '{' ∈ trimStart s := (passes_trimStart (by decide) s).mem h
  by_cases hbrace : ∃ u, trimStart s = '{' :: u
  · obtain ⟨u, hu⟩ := hbrace
    rw [result?, result?, htrim, hu]
    rfl
  by_cases harrow : ∃ u, trimStart s = '-' :: '>' :: u
  · obtain ⟨u, hu⟩ := harrow
    have hu' : '{' ∈ u := by simpa [hu] using hmem
    rw [result?, result?, htrim, hu]
    simp only [List.cons_append, cutAt?_append_of_mem hu', Option.map_map]
    rfl
  · obtain ⟨d, u, hu⟩ := List.exists_cons_of_ne_nil (List.ne_nil_of_mem hmem)
    rw [result?_eq_none hbrace harrow]
    refine result?_eq_none ?_ ?_
    · rintro ⟨x, hx⟩
      rw [htrim, hu] at hx
      exact hbrace ⟨u, by rw [hu, (List.cons.inj hx).1]⟩
    · rintro ⟨x, hx⟩
      rw [htrim, hu] at hx
      obtain ⟨rfl, htail⟩ := List.cons.inj hx
      cases u with
      | nil => exact absurd (hu ▸ hmem) (by decide)
      | cons e u => exact harrow ⟨u, by rw [hu, (List.cons.inj htail).1]⟩

variable {sig : Signature}

theorem IsEnd.brace_mem (h : IsEnd w) : '{' ∈ w := by
  obtain ⟨u, rfl, hu⟩ := h
  exact List.mem_cons_of_mem _ (brace_mem_of_result? hu)

/-- The end of a signature does not reach into a text without an opening brace. -/
theorem IsEnd.of_append (h : IsEnd (w ++ t)) (ht : '{' ∉ t) : IsEnd w := by
  obtain ⟨u, hu, hresult⟩ := h
  cases w with
  | nil =>
    rw [List.nil_append] at hu
    exact absurd (hu ▸ List.mem_cons_of_mem _ (brace_mem_of_result? hresult)) ht
  | cons c w =>
    rw [List.cons_append, List.cons.injEq] at hu
    obtain ⟨rfl, rfl⟩ := hu
    have hmem : '{' ∈ w :=
      (List.mem_append.1 (brace_mem_of_result? hresult)).resolve_right ht
    rw [result?_append_of_mem hmem] at hresult
    exact ⟨w, rfl, hresult⟩

theorem IsEnd.exists_cons (h : IsEnd w) : ∃ u, w = ')' :: u := by
  obtain ⟨u, rfl, -⟩ := h
  exact ⟨u, rfl⟩

/-- The parameters end where a signature ends, at the latest. -/
theorem paramsAndResult?_append_of_end (hw : IsEnd w) (h : w <:+ s) :
    paramsAndResult? (s ++ t) = paramsAndResult? s := by
  induction s with
  | nil =>
    obtain ⟨u, rfl⟩ := hw.exists_cons
    exact absurd (List.suffix_nil.1 h) (List.cons_ne_nil _ _)
  | cons c s ih =>
    rw [List.cons_append, paramsAndResult?, paramsAndResult?]
    rcases List.suffix_cons_iff.1 h with heq | h
    · obtain ⟨u, rfl, hu⟩ := hw
      obtain ⟨rfl, rfl⟩ := List.cons.inj heq
      obtain ⟨result, hresult⟩ := Option.isSome_iff_exists.1 hu
      rw [result?_append_of_mem (brace_mem_of_result? hu), if_pos rfl, hresult]
    · rw [result?_append_of_mem (h.subset hw.brace_mem), ih h]

/-- Parameters are read up to the end of a signature. -/
theorem exists_end_of_paramsAndResult? {p : Text × Option Text}
    (h : paramsAndResult? s = some p) : ∃ w, IsEnd w ∧ w <:+ s := by
  induction s generalizing p with
  | nil => cases h
  | cons c s ih =>
    rw [paramsAndResult?] at h
    split at h
    case h_1 result hresult =>
      split_ifs at hresult with hc
      exact ⟨c :: s, ⟨s, by rw [hc], by rw [hresult]; rfl⟩, List.suffix_rfl⟩
    case h_2 =>
      obtain ⟨q, hq, -⟩ := Option.map_eq_some_iff.1 h
      obtain ⟨w, hw, hws⟩ := ih hq
      exact ⟨w, hw, hws.trans (List.suffix_cons c s)⟩

/-- Without a comma behind the receiver there are no parameters. -/
theorem afterReceiver?_of_not_comma (h : ¬∃ u, trimStart s = ',' :: u) :
    afterReceiver? s =
      (after? [')'] s).bind fun r => (result? r).map fun result => ([], result) := by
  rw [afterReceiver?]
  split
  case h_1 u heq => exact absurd ⟨u, heq⟩ h
  case h_2 =>
    cases after? [')'] s with
    | none => rfl
    | some r => cases hr : result? r <;> simp [hr]

/-- What stands behind the end of a signature does not matter. -/
theorem afterReceiver?_append_of_end (hw : IsEnd w) (h : w <:+ s) :
    afterReceiver? (s ++ t) = afterReceiver? s := by
  obtain ⟨v, rfl⟩ := hw.exists_cons
  have hmem : ')' ∈ s := h.subset List.mem_cons_self
  have htrim : trimStart (s ++ t) = trimStart s ++ t :=
    trimStart_append_of_exists ⟨')', hmem, by decide⟩
  by_cases hcomma : ∃ u, trimStart s = ',' :: u
  · obtain ⟨u, hu⟩ := hcomma
    have hkeep : ')' :: v <:+ u := by
      have hstart := (passes_trimStart (by decide) s).keep h
      rw [hu] at hstart
      exact Passes.keep ⟨[','], rfl, by decide⟩ hstart
    have htrimu : trimStart (u ++ t) = trimStart u ++ t :=
      trimStart_append_of_exists ⟨')', hkeep.subset List.mem_cons_self, by decide⟩
    rw [afterReceiver?, afterReceiver?, htrim, hu]
    simp only [List.cons_append, htrimu]
    exact paramsAndResult?_append_of_end hw ((passes_trimStart (by decide) u).keep hkeep)
  · have hcomma' : ¬∃ u, trimStart (s ++ t) = ',' :: u := by
      rintro ⟨u, hu⟩
      obtain ⟨d, x, hx⟩ :=
        List.exists_cons_of_ne_nil (List.ne_nil_of_mem ((passes_trimStart (by decide) s).mem hmem))
      rw [htrim, hx] at hu
      exact hcomma ⟨x, by rw [hx, (List.cons.inj hu).1]⟩
    rw [afterReceiver?_of_not_comma hcomma, afterReceiver?_of_not_comma hcomma']
    obtain ⟨d, x, rfl⟩ := List.exists_cons_of_ne_nil (List.ne_nil_of_mem hmem)
    have hbrace : '{' ∈ x := by
      have hv : '{' ∈ v := by simpa using hw.brace_mem
      rcases List.suffix_cons_iff.1 h with heq | h
      · rwa [← (List.cons.inj heq).2]
      · exact h.subset (List.mem_cons_of_mem _ hv)
    rw [List.cons_append]
    by_cases hd : d = ')'
    · have hafter (y : Text) : after? [')'] (d :: y) = some y := by
        rw [hd]
        exact after?_append [')'] y
      rw [hafter, hafter, Option.bind_some, Option.bind_some, result?_append_of_mem hbrace]
    · have hafter (y : Text) : after? [')'] (d :: y) = none := if_neg (Ne.symm hd)
      rw [hafter, hafter]

theorem exists_end_of_afterReceiver? {p : Text × Option Text}
    (h : afterReceiver? s = some p) : ∃ w, IsEnd w ∧ w <:+ s := by
  rw [afterReceiver?] at h
  split at h
  case h_1 u heq =>
    obtain ⟨w, hw, hwu⟩ := exists_end_of_paramsAndResult? h
    have hu : ',' :: u <:+ s := heq ▸ List.dropWhile_suffix isBlank
    exact ⟨w, hw, (hwu.trans (List.dropWhile_suffix isBlank)).trans
      ((List.suffix_cons _ u).trans hu)⟩
  case h_2 =>
    obtain ⟨u, hu, h⟩ := Option.bind_eq_some_iff.1 h
    obtain ⟨result, hresult, -⟩ := Option.bind_eq_some_iff.1 h
    rw [after?_eq_some_iff] at hu
    exact ⟨s, ⟨u, hu, by rw [hresult]; rfl⟩, List.suffix_rfl⟩

/-- Where a signature ends, no reader of a signature looks past the end. -/
theorem at?_append_of_end (hw : IsEnd w) (h : w <:+ s) : at? (s ++ t) = at? s := by
  obtain ⟨v, rfl⟩ := hw.exists_cons
  have hmem {u : Text} (hu : ')' :: v <:+ u) : ')' ∈ u := hu.subset List.mem_cons_self
  have htrim {u : Text} (hu : ')' :: v <:+ u) : trimStart (u ++ t) = trimStart u ++ t :=
    trimStart_append_of_exists ⟨')', hmem hu, by decide⟩
  have hopen : Reads ')' (after? ['(']) := reads_after? (by decide)
  -- Each reader stops ahead of the end, so what it leaves still has the end in it.
  simp only [at?, Option.bind_eq_bind, reads_afterPublic?.append t (hmem h)]
  cases hpublic : afterPublic? "fn" s with
  | none => rfl
  | some s₁ =>
    have h₁ := (reads_afterPublic?.passes hpublic).keep h
    simp only [Option.map_some, Option.bind_some,
      word?_append_of_mem (hmem h₁) (show isWord ')' = false by decide)]
    cases hname : word? s₁ with
    | none => rfl
    | some p =>
      obtain ⟨name, s₂⟩ := p
      have h₂ := (passes_trimStart (by decide) s₂).keep
        ((passes_word? (by decide) hname).keep h₁)
      have htrim₂ := htrim ((passes_word? (by decide) hname).keep h₁)
      simp only [Option.map_some, Option.bind_some, htrim₂, hopen.append t (hmem h₂)]
      cases hparen : after? ['('] (trimStart s₂) with
      | none => rfl
      | some s₃ =>
        have h₃ := (hopen.passes hparen).keep h₂
        have h₃' := (passes_trimStart (by decide) s₃).keep h₃
        simp only [Option.map_some, Option.bind_some, htrim h₃, receiver?_append_of_mem (hmem h₃')]
        cases hreceiver : receiver? (trimStart s₃) with
        | none => rfl
        | some q =>
          obtain ⟨mutates, s₄⟩ := q
          have h₄ := (passes_receiver? hreceiver).keep h₃'
          simp only [Option.map_some, Option.bind_some, afterReceiver?_append_of_end hw h₄]

/-- A signature is read up to an end. -/
theorem exists_end_of_at? (h : at? s = some sig) : ∃ w, IsEnd w ∧ w <:+ s := by
  obtain ⟨s₁, h₁, h⟩ := Option.bind_eq_some_iff.1 h
  obtain ⟨⟨name, s₂⟩, h₂, h⟩ := Option.bind_eq_some_iff.1 h
  obtain ⟨s₃, h₃, h⟩ := Option.bind_eq_some_iff.1 h
  obtain ⟨⟨mutates, s₄⟩, h₄, h⟩ := Option.bind_eq_some_iff.1 h
  obtain ⟨p, h₅, -⟩ := Option.bind_eq_some_iff.1 h
  obtain ⟨w, hw, hws⟩ := exists_end_of_afterReceiver? h₅
  have hopen : Reads ')' (after? ['(']) := reads_after? (by decide)
  have hname : Passes ')' s₁ (trimStart s₂) :=
    (passes_word? (by decide) h₂).trans (passes_trimStart (by decide) s₂)
  have hparen : Passes ')' (trimStart s₂) (trimStart s₃) :=
    (hopen.passes h₃).trans (passes_trimStart (by decide) s₃)
  have hfront : Passes ')' s s₄ :=
    (((reads_afterPublic?.passes h₁).trans hname).trans hparen).trans (passes_receiver? h₄)
  exact ⟨w, hw, hws.trans hfront.isSuffix⟩

/-- What is appended without a brace is not read. -/
theorem at?_append_of_not_mem (ht : '{' ∉ t) : at? (s ++ t) = at? s := by
  cases h : at? (s ++ t) with
  | none =>
    cases hs : at? s with
    | none => rfl
    | some sig =>
      obtain ⟨w, hw, hws⟩ := exists_end_of_at? hs
      rw [at?_append_of_end hw hws, hs] at h
      cases h
  | some sig =>
    obtain ⟨w, hw, a, ha⟩ := exists_end_of_at? h
    -- The end has a brace, so it does not begin in the appended text.
    rcases List.append_eq_append_iff.1 ha with ⟨b, rfl, rfl⟩ | ⟨b, -, rfl⟩
    · rw [← h, at?_append_of_end (hw.of_append ht) (List.suffix_append a b)]
    · exact absurd (List.mem_append_right b hw.brace_mem) ht

/-! ## The first signature -/

theorem exists_end_of_search (h : search at? s = some sig) : ∃ w, IsEnd w ∧ w <:+ s := by
  induction s with
  | nil => cases h
  | cons c s ih =>
    rw [search] at h
    split at h
    case h_1 sig' hsig => exact exists_end_of_at? hsig
    case h_2 =>
      obtain ⟨w, hw, hws⟩ := ih h
      exact ⟨w, hw, hws.trans (List.suffix_cons c s)⟩

/-- A signature that is found is found with any text behind it. -/
theorem search_append (h : search at? s = some sig) : search at? (s ++ t) = some sig := by
  induction s with
  | nil => cases h
  | cons c s ih =>
    obtain ⟨w, hw, hws⟩ := exists_end_of_search h
    have hat : at? (c :: (s ++ t)) = at? (c :: s) := at?_append_of_end hw hws
    rw [List.cons_append, search, hat]
    rw [search] at h
    cases hsig : at? (c :: s) with
    | some sig' => rwa [hsig] at h
    | none =>
      rw [hsig] at h
      exact ih h

/-- A text without an opening brace behind another ends no signature. -/
theorem search_append_of_not_mem (ht : '{' ∉ t) : search at? (s ++ t) = search at? s := by
  induction s with
  | nil =>
    induction t with
    | nil => rfl
    | cons c t ih =>
      have hat : at? ([] ++ c :: t) = none := at?_append_of_not_mem ht
      have hnone : search at? t = none := ih (List.not_mem_of_not_mem_cons ht)
      rw [List.nil_append] at hat
      show search at? (c :: t) = none
      rw [search, hat, hnone]
  | cons c s ih =>
    have hat : at? ((c :: s) ++ t) = at? (c :: s) := at?_append_of_not_mem ht
    rw [List.cons_append] at hat ⊢
    rw [search, hat, ih, search]

/-- The signature of a block is the first that is read in it. -/
theorem find?_eq_search (s : Text) : find? s = search at? s := by
  have hsplit : s = throughBrace s ++ (s.reverse.takeWhile (· ≠ '{')).reverse := by
    rw [throughBrace, ← List.reverse_append, List.takeWhile_append_dropWhile, List.reverse_reverse]
  have hrest : '{' ∉ (s.reverse.takeWhile (· ≠ '{')).reverse := by
    rw [List.mem_reverse]
    intro hmem
    simpa using List.mem_takeWhile_imp hmem
  conv_rhs => rw [hsplit, search_append_of_not_mem hrest]
  rfl

/-- A signature that is there stays, whatever follows it. -/
theorem find?_append (h : find? s = some sig) : find? (s ++ t) = some sig := by
  rw [find?_eq_search] at h ⊢
  exact search_append h

theorem find?_append_of_not_mem (ht : '{' ∉ t) : find? (s ++ t) = find? s := by
  rw [find?_eq_search, find?_eq_search, search_append_of_not_mem ht]

/-! ## Where no signature begins -/

/-- No signature begins in the text, whatever follows it. -/
def Barren (s : Text) : Prop :=
  ∀ u, u ≠ [] → u <:+ s → ∀ t, at? (u ++ t) = none

theorem barren_nil : Barren [] :=
  fun _ hne hu => absurd (List.suffix_nil.1 hu) hne

/-- No signature begins in the rest of a text in which none begins. -/
theorem Barren.of_suffix (h : Barren s) (ht : t <:+ s) : Barren t :=
  fun u hne hu => h u hne (hu.trans ht)

/-- No signature begins in two texts in neither of which one begins. -/
theorem Barren.append (hs : Barren s) (ht : Barren t) : Barren (s ++ t) := by
  intro u hne ⟨a, ha⟩ x
  rcases List.append_eq_append_iff.1 ha with ⟨b, rfl, rfl⟩ | ⟨b, -, rfl⟩
  · rcases eq_or_ne b [] with rfl | hb
    · exact ht t hne List.suffix_rfl x
    · rw [List.append_assoc]
      exact hs b hb (List.suffix_append a b) (t ++ x)
  · exact ht u hne (List.suffix_append b u) x

/-- A character at which no signature begins may be put in front. -/
theorem Barren.cons (hc : ∀ t, at? (c :: (s ++ t)) = none) (hs : Barren s) : Barren (c :: s) := by
  intro u hne hu
  rcases List.suffix_cons_iff.1 hu with rfl | hu
  · exact hc
  · exact hs u hne hu

/-- No signature begins in a text without its first letter. -/
theorem barren_of_not_mem (h : 'p' ∉ s) : Barren s := by
  intro u hne hu t
  obtain ⟨c, v, rfl⟩ := List.exists_cons_of_ne_nil hne
  have hc : 'p' ≠ c := fun heq => h (heq ▸ hu.subset List.mem_cons_self)
  have hpub : after? "pub" (c :: v ++ t) = none := if_neg hc
  simp only [at?, afterPublic?, hpub, Option.bind_eq_bind, Option.bind_none]

theorem barren_blanks (h : ∀ c ∈ s, isBlank c = true) : Barren s :=
  barren_of_not_mem (not_mem_of_blanks h rfl)

/-- Where a word stands ahead of a parenthesis no signature begins: if the word is the first
keyword, the parenthesis has the place of the second. -/
theorem at?_word_paren {b : Text} (hw : ∀ c ∈ w, isWord c = true)
    (hb : ∀ c ∈ b, isBlank c = true) (t : Text) : at? (w ++ (b ++ '(' :: t)) = none := by
  rw [Option.eq_none_iff_forall_ne_some]
  intro sig hsig
  obtain ⟨_, hpublic, -⟩ := Option.bind_eq_some_iff.1 hsig
  obtain ⟨r, hr, hpublic⟩ := Option.bind_eq_some_iff.1 hpublic
  obtain ⟨r', hr', hpublic⟩ := Option.bind_eq_some_iff.1 hpublic
  obtain ⟨_, hfn, -⟩ := Option.bind_eq_some_iff.1 hpublic
  rw [after?_eq_some_iff] at hr
  cases r with
  | nil => cases hr'
  | cons d r =>
    rw [blanks?] at hr'
    split_ifs at hr' with hd
    obtain rfl := Option.some.inj hr'
    -- Behind its word characters the text is the same whichever way it is written.
    have hpub : ("pub" ++ d :: r : Text).dropWhile isWord = d :: r := by
      rw [List.dropWhile_append_of_pos (List.all_eq_true.1 (by decide +kernel)),
        List.dropWhile_cons_of_neg (by simp [isWord_eq_false_of_isBlank hd])]
    have hword : (w ++ (b ++ '(' :: t)).dropWhile isWord = b ++ '(' :: t := by
      rw [List.dropWhile_append_of_pos hw]
      cases b with
      | nil =>
        have hparen := isWord_eq_false_of_mem_punctuation (c := '(') (by simp [punctuation])
        rw [List.nil_append, List.dropWhile_cons_of_neg (by simp [hparen])]
      | cons e b =>
        have he := isWord_eq_false_of_isBlank (hb e List.mem_cons_self)
        rw [List.cons_append, List.dropWhile_cons_of_neg (by simp [he])]
    have hrest : trimStart r = '(' :: t := by
      have hstart : trimStart (d :: r) = trimStart r := List.dropWhile_cons_of_pos hd
      rw [← hstart, ← hpub, ← hr, hword, trimStart_blanks_append hb]
      rfl
    rw [hrest] at hfn
    cases hfn

/-- A word with a parenthesis behind it begins no signature. -/
theorem barren_word_paren {b : Text} (hw : ∀ c ∈ w, isWord c = true)
    (hb : ∀ c ∈ b, isBlank c = true) : Barren (w ++ (b ++ ['('])) := by
  induction w with
  | nil =>
    have hblanks : Barren b := barren_blanks hb
    exact hblanks.append (barren_of_not_mem (by decide))
  | cons c w ih =>
    refine .cons (fun t => ?_) (ih fun d hd => hw d (List.mem_cons_of_mem c hd))
    simpa using at?_word_paren hw hb t

/-- No signature begins on a line without its first word. -/
theorem barren_line (h : ¬("pub" : Text) <:+: s) : Barren (s ++ ['\n']) := by
  intro u hne ⟨a, ha⟩ x
  rw [Option.eq_none_iff_forall_ne_some]
  intro sig hsig
  obtain ⟨r, hr, -⟩ := Option.bind_eq_some_iff.1 hsig
  obtain ⟨y, hy, -⟩ := Option.bind_eq_some_iff.1 hr
  rw [after?_eq_some_iff] at hy
  obtain ⟨v, d, rfl⟩ := (List.eq_nil_or_concat' u).resolve_left hne
  rw [← List.append_assoc] at ha
  obtain ⟨rfl, hd⟩ := List.append_inj' ha rfl
  obtain rfl := (List.cons.inj hd).1
  rw [List.append_assoc, List.singleton_append] at hy
  -- The word does not reach over the end of the line.
  rcases List.append_eq_append_iff.1 hy with ⟨b, hpub, hrest⟩ | ⟨b, hv, hrest⟩
  · cases b with
    | nil =>
      rw [List.append_nil] at hpub
      exact h ⟨a, [], by rw [hpub, List.append_nil]⟩
    | cons e b =>
      obtain ⟨rfl, -⟩ := List.cons.inj hrest
      have hmem : '\n' ∈ ("pub" : Text) := hpub ▸ List.mem_append_right v List.mem_cons_self
      exact absurd hmem (by decide)
  · exact h ⟨a, b, by rw [hv, List.append_assoc]⟩

/-- A text in which no signature begins is passed over in a search. -/
theorem search_append_of_barren (h : Barren s) : search at? (s ++ t) = search at? t := by
  induction s with
  | nil => rfl
  | cons c s ih =>
    have hnone : at? (c :: s ++ t) = none := h (c :: s) (List.cons_ne_nil c s) List.suffix_rfl t
    rw [List.cons_append] at hnone ⊢
    rw [search, hnone]
    exact ih (h.of_suffix (List.suffix_cons c s))

/-- The signature is looked for behind a text in which none begins. -/
theorem find?_append_of_barren (h : Barren s) : find? (s ++ t) = find? t := by
  rw [find?_eq_search, find?_eq_search, search_append_of_barren h]

end Signature

end StylusSurvey
