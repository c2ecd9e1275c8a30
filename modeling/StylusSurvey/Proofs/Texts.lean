import Mathlib.Data.List.DropRight
import Mathlib.Data.List.Infix
import Mathlib.Data.List.TakeWhile
import StylusSurvey.Proofs.Characters
import StylusSurvey.Text.Basic

/-!
# Reading from the front of a text

A recogniser of this library looks at the front of a text and returns what follows.
`after?` is cutting off a prefix (`after?_eq_some_iff`), and `trimStart` leaves a text
that differs from the old one by blanks (`exists_blanks_append_trimStart`). A word ends
where the first other character stands (`word?_append`), a cut is made at the first
separator (`cutAt?_append`), a key occurs where it is an infix (`occurs_iff_infix`), and a
search goes past spaces that it finds nothing at (`search_spaces_append`). Blanks around a
trimmed text are trimmed away (`trim_blanks_append`).
-/

namespace StylusSurvey

namespace Text

variable {key s t : Text} {c : Char}

@[simp] theorem after?_append (key t : Text) : after? key (key ++ t) = some t := by
  induction key with
  | nil => rfl
  | cons k key ih => simpa [after?] using ih

/-- What follows a key is the rest of a text that begins with it. -/
theorem after?_eq_some_iff : after? key s = some t ↔ s = key ++ t := by
  constructor
  · intro h
    induction key generalizing s with
    | nil => simpa [after?] using h
    | cons k key ih =>
      cases s with
      | nil => simp [after?] at h
      | cons c s =>
        rw [after?] at h
        split_ifs at h with hk
        rw [hk, List.cons_append, ih h]
  · rintro rfl
    exact after?_append key t

/-- A text is some blanks and then what is left without them. -/
theorem exists_blanks_append_trimStart (s : Text) :
    ∃ b, (∀ c ∈ b, isBlank c = true) ∧ s = b ++ trimStart s :=
  ⟨s.takeWhile isBlank, fun _ hc => List.mem_takeWhile_imp hc, by simp [trimStart]⟩

/-! ## Words, cuts and searches -/

theorem word?_append {w : Text} (hne : w ≠ []) (hw : ∀ c ∈ w, isWord c = true)
    (hs : endsWord s = true) : word? (w ++ s) = some (w, s) := by
  have htake : s.takeWhile isWord = [] := by
    cases s with
    | nil => rfl
    | cons c s => exact List.takeWhile_cons_of_neg (by simpa [endsWord] using hs)
  have hdrop : s.dropWhile isWord = s := by
    cases s with
    | nil => rfl
    | cons c s => exact List.dropWhile_cons_of_neg (by simpa [endsWord] using hs)
  have hword : (w ++ s).takeWhile isWord = w := by
    rw [List.takeWhile_append_of_pos hw, htake, List.append_nil]
  obtain ⟨d, w, rfl⟩ := List.exists_cons_of_ne_nil hne
  rw [word?, hword, List.dropWhile_append_of_pos hw, hdrop]

/-- The first word of a text is the longest one in front of it. -/
theorem word?_eq_some_iff {w : Text} : word? s = some (w, t) ↔
    s = w ++ t ∧ w ≠ [] ∧ (∀ c ∈ w, isWord c = true) ∧ endsWord t = true := by
  constructor
  · intro h
    have hend : endsWord (s.dropWhile isWord) = true := by
      cases hdrop : s.dropWhile isWord with
      | nil => rfl
      | cons c u =>
        have hc := List.head?_dropWhile_not isWord s
        rw [hdrop] at hc
        simpa [endsWord] using hc
    rw [word?] at h
    split at h
    case h_1 => cases h
    case h_2 hne =>
      obtain ⟨rfl, rfl⟩ := Prod.mk.inj (Option.some.inj h)
      exact ⟨List.takeWhile_append_dropWhile.symm, hne, fun c hc => List.mem_takeWhile_imp hc, hend⟩
  · rintro ⟨rfl, hne, hw, hend⟩
    exact word?_append hne hw hend

/-- A text is cut at the first character of the kind. -/
theorem cutAt?_append {sep : Char} (h : sep ∉ s) :
    cutAt? sep (s ++ sep :: t) = some (s, t) := by
  induction s with
  | nil => simp [cutAt?]
  | cons c s ih =>
    rw [List.mem_cons, not_or] at h
    rw [List.cons_append, cutAt?, if_neg (Ne.symm h.1), ih h.2]
    rfl

/-- A key occurs in a text exactly if it stands in it. -/
theorem occurs_iff_infix : occurs key s = true ↔ key <:+: s := by
  induction s with
  | nil => rw [occurs, List.isEmpty_iff, List.infix_nil]
  | cons c s ih =>
    rw [occurs, Bool.or_eq_true, ih, startsWith, List.isPrefixOf_iff_prefix, List.infix_cons_iff]

theorem search_eq_some {α : Type} {m : Text → Option α} {a : α} (h : m s = some a) :
    search m s = some a := by
  cases s with
  | nil => exact h
  | cons c s => rw [search, h]

/-- A search gives what is found at the leftmost place where something is found. -/
theorem search_eq_some_iff {α : Type} {m : Text → Option α} {a : α} :
    search m s = some a ↔ ∃ before rest, s = before ++ rest ∧ m rest = some a ∧
      ∀ before' rest', s = before' ++ rest' → before'.length < before.length → m rest' = none := by
  induction s with
  | nil =>
    constructor
    · intro h
      exact ⟨[], [], rfl, h, fun _ _ _ hlt => absurd hlt (Nat.not_lt_zero _)⟩
    · rintro ⟨before, rest, hs, h, -⟩
      obtain ⟨rfl, rfl⟩ := List.append_eq_nil_iff.1 hs.symm
      exact h
  | cons c s ih =>
    cases hm : m (c :: s) with
    | some b =>
      rw [search, hm]
      constructor
      · intro h
        exact ⟨[], c :: s, rfl, hm.trans h, fun _ _ _ hlt => absurd hlt (Nat.not_lt_zero _)⟩
      · rintro ⟨before, rest, hs, h, hfirst⟩
        cases before with
        | nil =>
          obtain rfl : c :: s = rest := hs
          exact hm.symm.trans h
        | cons d before =>
          have hnone := hfirst [] (c :: s) rfl (Nat.succ_pos _)
          rw [hm] at hnone
          cases hnone
    | none =>
      rw [search, hm]
      refine ih.trans ⟨?_, ?_⟩
      · rintro ⟨before, rest, rfl, h, hfirst⟩
        refine ⟨c :: before, rest, rfl, h, fun before' rest' hs hlt => ?_⟩
        cases before' with
        | nil =>
          obtain rfl : c :: (before ++ rest) = rest' := hs
          exact hm
        | cons d before' =>
          exact hfirst before' rest' (List.cons.inj hs).2 (Nat.lt_of_succ_lt_succ hlt)
      · rintro ⟨before, rest, hs, h, hfirst⟩
        cases before with
        | nil =>
          obtain rfl : c :: s = rest := hs
          cases hm.symm.trans h
        | cons d before =>
          obtain ⟨rfl, rfl⟩ := List.cons.inj hs
          exact ⟨before, rest, rfl, h, fun before' rest' hs' hlt =>
            hfirst (c :: before') rest' (congrArg (c :: ·) hs') (Nat.succ_lt_succ hlt)⟩

/-- The text has a part that `P` relates to the value, and such a part begins nowhere further to the
left. -/
def Leftmost {α : Type} (P : Text → α → Prop) (s : Text) (a : α) : Prop :=
  ∃ before rest : Text, s = before ++ rest ∧ P rest a ∧
    ∀ (before' rest' : Text) (a' : α), s = before' ++ rest' → P rest' a' →
      before.length ≤ before'.length

/-- A search finds the leftmost of what is recognised. -/
theorem search_eq_some_iff_leftmost {α : Type} {m : Text → Option α} {P : Text → α → Prop}
    (hm : ∀ t a, m t = some a ↔ P t a) {a : α} : search m s = some a ↔ Leftmost P s a := by
  rw [search_eq_some_iff]
  constructor
  · rintro ⟨before, rest, rfl, hat, hfirst⟩
    refine ⟨before, rest, rfl, (hm _ _).1 hat, ?_⟩
    intro before' rest' a' hs hat'
    by_contra hlt
    rw [← hm, hfirst before' rest' hs (Nat.lt_of_not_le hlt)] at hat'
    cases hat'
  · rintro ⟨before, rest, rfl, hat, hfirst⟩
    refine ⟨before, rest, rfl, (hm _ _).2 hat, ?_⟩
    intro before' rest' hs hlt
    rw [Option.eq_none_iff_forall_ne_some]
    intro a' hat'
    have hle := hfirst before' rest' a' hs ((hm _ _).1 hat')
    omega

/-- A search finds something if there is a place where something is recognised. -/
theorem isSome_search_iff {α : Type} {m : Text → Option α} :
    (search m s).isSome = true ↔ ∃ before rest, s = before ++ rest ∧ (m rest).isSome = true := by
  constructor
  · intro h
    obtain ⟨a, ha⟩ := Option.isSome_iff_exists.1 h
    obtain ⟨before, rest, hs, hat, -⟩ := search_eq_some_iff.1 ha
    exact ⟨before, rest, hs, by rw [hat]; rfl⟩
  · rintro ⟨before, rest, rfl, hat⟩
    induction before with
    | nil =>
      obtain ⟨a, ha⟩ := Option.isSome_iff_exists.1 hat
      rw [List.nil_append, search_eq_some ha]
      rfl
    | cons c before ih =>
      rw [List.cons_append, search]
      cases m (c :: (before ++ rest)) with
      | some a => rfl
      | none => exact ih

/-- Spaces at which nothing matches are passed over in a search. -/
theorem search_spaces_append {α : Type} {m : Text → Option α} (h : ∀ t, m (' ' :: t) = none)
    (s : Text) : ∀ count : Nat, search m (List.replicate count ' ' ++ s) = search m s
  | 0 => rfl
  | count + 1 => by
    rw [List.replicate_succ, List.cons_append, search, h]
    exact search_spaces_append h s count

/-! ## Replacing -/

theorem replace_append (c : Char) (new s t : Text) :
    replace c new (s ++ t) = replace c new s ++ replace c new t :=
  List.flatMap_append

theorem replace_of_not_mem (h : c ∉ s) (new : Text) : replace c new s = s := by
  induction s with
  | nil => rfl
  | cons d s ih =>
    rw [List.mem_cons, not_or] at h
    rw [replace, List.flatMap_cons, if_neg (Ne.symm h.1), ← replace, ih h.2, List.singleton_append]

/-! ## Trimming -/

variable {b b' : Text}

/-- A space, the blank between two printed words. -/
theorem isBlank_of_mem_space : ∀ c ∈ [' '], isBlank c = true :=
  List.all_eq_true.1 (by decide)

theorem isBlank_of_mem_spaces {count : Nat} : ∀ c ∈ List.replicate count ' ', isBlank c = true :=
  fun _ hc => List.eq_of_mem_replicate hc ▸ isBlank_of_mem_space ' ' (List.mem_singleton_self _)

theorem not_mem_of_blanks (hb : ∀ c ∈ b, isBlank c = true) (hc : isBlank c = false) : c ∉ b := by
  intro hmem
  rw [hb c hmem] at hc
  cases hc

theorem trimStart_cons (h : isBlank c = false) : trimStart (c :: s) = c :: s :=
  List.dropWhile_cons_of_neg (by simp [h])

/-- No blanks stand before a word. -/
theorem trimStart_word_append {w : Text} (hne : w ≠ []) (hw : ∀ c ∈ w, isWord c = true) :
    trimStart (w ++ s) = w ++ s := by
  obtain ⟨c, w, rfl⟩ := List.exists_cons_of_ne_nil hne
  exact trimStart_cons (isBlank_eq_false_of_isWord (hw c List.mem_cons_self))

theorem dropWhile_append_cons {p : Char → Bool} (h : p c = false) :
    (s ++ c :: t).dropWhile p = s.dropWhile p ++ c :: t := by
  rw [List.dropWhile_append]
  split
  · rename_i hnil
    rw [List.isEmpty_iff.1 hnil, List.dropWhile_cons_of_neg (by simp [h]), List.nil_append]
  · rfl

/-- Blanks are trimmed in front of the first character that is none. -/
theorem trimStart_append_cons (h : isBlank c = false) :
    trimStart (s ++ c :: t) = trimStart s ++ c :: t :=
  dropWhile_append_cons h

theorem trimStart_append_of_exists (h : ∃ c ∈ s, isBlank c = false) :
    trimStart (s ++ t) = trimStart s ++ t := by
  obtain ⟨c, hc, hblank⟩ := h
  obtain ⟨u, v, rfl⟩ := List.append_of_mem hc
  rw [List.append_assoc, List.cons_append, trimStart_append_cons hblank,
    trimStart_append_cons hblank, List.append_assoc, List.cons_append]

/-- Blanks in front of a text are trimmed with those of the text. -/
theorem trimStart_blanks_append (h : ∀ c ∈ b, isBlank c = true) :
    trimStart (b ++ s) = trimStart s :=
  List.dropWhile_append_of_pos h

/-- A key is found behind blanks, if it does not begin with one. -/
theorem after?_trimStart_eq_some_iff (hc : isBlank c = false) :
    after? (c :: key) (trimStart s) = some t ↔
      ∃ blanks : Text, s = blanks ++ c :: (key ++ t) ∧ ∀ d ∈ blanks, isBlank d = true := by
  rw [after?_eq_some_iff]
  constructor
  · intro h
    obtain ⟨blanks, hblanks, hs⟩ := exists_blanks_append_trimStart s
    rw [h] at hs
    exact ⟨blanks, hs, hblanks⟩
  · rintro ⟨blanks, rfl, hblanks⟩
    rw [trimStart_blanks_append hblanks, trimStart_cons hc, List.cons_append]

theorem mem_of_mem_trimStart (h : c ∈ trimStart s) : c ∈ s :=
  (List.dropWhile_suffix isBlank).subset h

theorem mem_of_mem_trim (h : c ∈ trim s) : c ∈ s := by
  rw [trim, trimEnd, List.mem_reverse] at h
  exact mem_of_mem_trimStart (List.mem_reverse.1 ((List.dropWhile_suffix _).subset h))

theorem blanks?_append (hne : b ≠ []) (h : ∀ c ∈ b, isBlank c = true) :
    blanks? (b ++ s) = some (trimStart s) := by
  obtain ⟨c, b, rfl⟩ := List.exists_cons_of_ne_nil hne
  rw [List.cons_append, blanks?, if_pos (h c List.mem_cons_self),
    trimStart_blanks_append fun d hd => h d (List.mem_cons_of_mem c hd)]

/-- What follows blanks does not begin with one. -/
theorem blanks?_eq_some_iff : blanks? s = some t ↔
    ∃ b, s = b ++ t ∧ b ≠ [] ∧ (∀ c ∈ b, isBlank c = true) ∧ trimStart t = t := by
  constructor
  · intro h
    cases s with
    | nil => cases h
    | cons c s =>
      rw [blanks?] at h
      split_ifs at h with hc
      obtain rfl := Option.some.inj h
      obtain ⟨b, hb, hs⟩ := exists_blanks_append_trimStart s
      refine ⟨c :: b, congrArg (c :: ·) hs, List.cons_ne_nil c b,
        List.forall_mem_cons.2 ⟨hc, hb⟩, List.dropWhile_idempotent isBlank s⟩
  · rintro ⟨b, rfl, hne, hb, ht⟩
    rw [blanks?_append hne hb, ht]

theorem trimEnd_append_blanks (h : ∀ c ∈ b, isBlank c = true) :
    trimEnd (s ++ b) = trimEnd s := by
  have hreverse : ∀ c ∈ b.reverse, isBlank c = true := by simpa using h
  rw [trimEnd, List.reverse_append, List.dropWhile_append_of_pos hreverse, trimEnd]

theorem trimStart_of_trim (h : trim s = s) : trimStart s = s := by
  have hstart : trimStart s <:+ s := List.dropWhile_suffix isBlank
  have hend : (trim s).length ≤ (trimStart s).length := by
    have hlen := (List.dropWhile_suffix isBlank (l := (trimStart s).reverse)).length_le
    rw [List.length_reverse] at hlen
    rwa [trim, trimEnd, List.length_reverse]
  rw [h] at hend
  exact hstart.eq_of_length (Nat.le_antisymm hstart.length_le hend)

theorem trimEnd_of_trim (h : trim s = s) : trimEnd s = s := by
  rwa [trim, trimStart_of_trim h] at h

/-- A text without blanks is trimmed already. -/
theorem trim_of_forall_not_blank (h : ∀ c ∈ s, isBlank c = false) : trim s = s := by
  have hdrop {t : Text} (ht : ∀ c ∈ t, isBlank c = false) : t.dropWhile isBlank = t := by
    cases t with
    | nil => rfl
    | cons c t => exact trimStart_cons (ht c List.mem_cons_self)
  have hreverse : ∀ c ∈ s.reverse, isBlank c = false := by simpa using h
  rw [trim, trimStart, hdrop h, trimEnd, hdrop hreverse, List.reverse_reverse]

theorem isBlank_head_of_trimStart (h : trimStart (c :: s) = c :: s) : isBlank c = false := by
  rw [Bool.eq_false_iff]
  intro hc
  have hlen : (trimStart s).length ≤ s.length := (List.dropWhile_suffix isBlank).length_le
  rw [trimStart, List.dropWhile_cons_of_pos hc] at h
  rw [trimStart, h, List.length_cons] at hlen
  omega

theorem isBlank_head_of_trim (h : trim (c :: s) = c :: s) : isBlank c = false :=
  isBlank_head_of_trimStart (trimStart_of_trim h)

theorem trim_trimStart (s : Text) : trim (trimStart s) = trim s := by
  rw [trim, trim, trimStart, trimStart, List.dropWhile_idempotent]

/-- Leading blanks make no difference to a trimmed text. -/
theorem trim_of_blanks_append (hb : ∀ c ∈ b, isBlank c = true) : trim (b ++ s) = trim s := by
  rw [trim, trim, trimStart_blanks_append hb]

/-- Trailing blanks make no difference to a trimmed text. -/
theorem trim_of_append_blanks (hb : ∀ c ∈ b, isBlank c = true) : trim (s ++ b) = trim s := by
  by_cases hs : ∃ c ∈ s, isBlank c = false
  · rw [trim, trim, trimStart_append_of_exists hs, trimEnd_append_blanks hb]
  · have hblank : ∀ c ∈ s, isBlank c = true := by simpa using hs
    rw [← List.append_nil s, List.append_assoc, trim_of_blanks_append hblank,
      trim_of_blanks_append hblank, List.nil_append, ← List.append_nil b, trim_of_blanks_append hb]

/-- Blanks around a trimmed text are trimmed away. -/
theorem trim_blanks_append (hb : ∀ c ∈ b, isBlank c = true) (hb' : ∀ c ∈ b', isBlank c = true)
    (h : trim s = s) : trim (b ++ (s ++ b')) = s := by
  rw [trim_of_blanks_append hb, trim_of_append_blanks hb', h]

/-- A text is its trimmed form with blanks around it. -/
theorem exists_blanks_append_trim (s : Text) :
    ∃ b b', (∀ c ∈ b, isBlank c = true) ∧ (∀ c ∈ b', isBlank c = true) ∧
      s = b ++ (trim s ++ b') := by
  obtain ⟨b, hb, hs⟩ := exists_blanks_append_trimStart s
  refine ⟨b, (trimStart s).rtakeWhile isBlank, hb, fun c hc => List.mem_rtakeWhile_imp hc, ?_⟩
  have hend : trim s ++ (trimStart s).rtakeWhile isBlank = trimStart s :=
    List.rdropWhile_append_rtakeWhile
  rw [hend]
  exact hs

@[simp] theorem trim_trim (s : Text) : trim (trim s) = trim s := by
  obtain ⟨b, b', hb, hb', hs⟩ := exists_blanks_append_trim s
  conv_rhs => rw [hs, trim_of_blanks_append hb, trim_of_append_blanks hb']

/-- Nothing is left of a text exactly if all of it is blank. -/
theorem trim_eq_nil_iff : trim s = [] ↔ ∀ c ∈ s, isBlank c = true := by
  constructor
  · intro h
    obtain ⟨b, b', hb, hb', hs⟩ := exists_blanks_append_trim s
    rw [h, List.nil_append] at hs
    rw [hs]
    exact List.forall_mem_append.2 ⟨hb, hb'⟩
  · intro h
    rw [← List.append_nil s, trim_of_blanks_append h]
    rfl

theorem isBlank_last_of_trim (h : trim (s ++ [c]) = s ++ [c]) : isBlank c = false := by
  apply isBlank_head_of_trimStart (s := s.reverse)
  rw [← List.reverse_inj]
  simpa [trimEnd, trimStart] using trimEnd_of_trim h

theorem trimEnd_append_singleton (h : isBlank c = false) : trimEnd (s ++ [c]) = s ++ [c] := by
  rw [trimEnd, List.reverse_append, List.reverse_singleton, List.singleton_append,
    List.dropWhile_cons_of_neg (by simp [h]), List.reverse_cons, List.reverse_reverse]

/-- A text between two trimmed ones is trimmed with them. -/
theorem trim_append_append {u : Text} (hs : trim s = s) (hsne : s ≠ []) (hu : trim u = u)
    (hune : u ≠ []) : trim (s ++ t ++ u) = s ++ t ++ u := by
  have hstart : trimStart (s ++ t ++ u) = s ++ t ++ u := by
    obtain ⟨c, s, rfl⟩ := List.exists_cons_of_ne_nil hsne
    exact trimStart_cons (isBlank_head_of_trim hs)
  obtain ⟨v, c, rfl⟩ := (List.eq_nil_or_concat' u).resolve_left hune
  rw [trim, hstart, ← List.append_assoc, trimEnd_append_singleton (isBlank_last_of_trim hu)]

end Text

end StylusSurvey
