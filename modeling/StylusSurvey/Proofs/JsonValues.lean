import StylusSurvey.Proofs.PrintedDocuments

/-!
# JSON values read back

A printed value is read as that value with the members of its objects in the order of their keys
(`Json.read_text`), if it is not nested too deeply and its numbers are natural ones of at most 64
bits (`Json.Fits`). Sorting puts members in the strict order of their keys
(`Json.isOrdered_ofEntries`) and leaves members in that order where they are
(`Json.ofEntries_eq_self`), so a sorted value is read back as it is (`Json.read_text_sorted`).
-/

namespace StylusSurvey

open Json Text

namespace Json

variable {key : Text} {v : Json} {ms : List (Text × Json)} {depth : Nat}

/-- Arrays and objects are nested in the value at most to the depth, and its numbers are natural
ones of at most 64 bits. -/
inductive Fits : Nat → Json → Prop
  | null (depth : Nat) : Fits depth .null
  | bool (depth : Nat) (flag : Bool) : Fits depth (.bool flag)
  | natural (depth : Nat) {n : Nat} (h : n ≤ maxSize) : Fits depth (.number (.natural n))
  | string (depth : Nat) (s : Text) : Fits depth (.string s)
  | array {depth : Nat} {vs : List Json} (h : ∀ v ∈ vs, Fits depth v) :
      Fits (depth + 1) (.array vs)
  | object {depth : Nat} {ms : List (Text × Json)} (h : ∀ m ∈ ms, Fits depth m.2) :
      Fits (depth + 1) (.object ms)

/-! ## Members in the order of their keys -/

/-- The members are in the strict order of their keys. -/
def IsOrdered (ms : List (Text × Json)) : Prop :=
  ms.Pairwise fun m n => m.1 < n.1

theorem mem_insertMember {m : Text × Json} (h : m ∈ insertMember key v ms) :
    m = (key, v) ∨ m ∈ ms := by
  induction ms with
  | nil => exact .inl (List.mem_singleton.1 h)
  | cons n ms ih =>
    obtain ⟨k, w⟩ := n
    rw [insertMember] at h
    split at h
    · exact List.mem_cons.1 h
    · split at h
      · exact (List.mem_cons.1 h).imp_right (List.mem_cons_of_mem _)
      · rcases List.mem_cons.1 h with rfl | h
        · exact .inr List.mem_cons_self
        · exact (ih h).imp_right (List.mem_cons_of_mem _)

/-- A member is put where its key belongs. -/
theorem isOrdered_insertMember (h : IsOrdered ms) : IsOrdered (insertMember key v ms) := by
  induction ms with
  | nil => exact List.pairwise_singleton _ _
  | cons n ms ih =>
    obtain ⟨k, w⟩ := n
    obtain ⟨hfirst, hms⟩ := List.pairwise_cons.1 h
    rw [insertMember]
    split
    case isTrue hlt =>
      refine List.pairwise_cons.2 ⟨fun m hm => ?_, h⟩
      rcases List.mem_cons.1 hm with rfl | hm
      · exact hlt
      · exact List.lt_trans hlt (hfirst m hm)
    case isFalse hlt =>
      split
      case isTrue heq => exact List.pairwise_cons.2 ⟨heq ▸ hfirst, hms⟩
      case isFalse hne =>
        have hgt : k < key :=
          (List.le_iff_lt_or_eq.1 (List.not_lt.1 hlt)).resolve_right (Ne.symm hne)
        refine List.pairwise_cons.2 ⟨fun m hm => ?_, ih hms⟩
        rcases mem_insertMember hm with rfl | hm
        · exact hgt
        · exact hfirst m hm

theorem isOrdered_ofEntries (ms : List (Text × Json)) : IsOrdered (ofEntries ms) := by
  rw [ofEntries]
  exact List.foldlRecOn ms _ List.Pairwise.nil fun _ hknown _ _ => isOrdered_insertMember hknown

/-- Sorting makes no members up. -/
theorem mem_of_mem_ofEntries {m : Text × Json} (h : m ∈ ofEntries ms) : m ∈ ms := by
  have hsub : ∀ n ∈ ofEntries ms, n ∈ ms := by
    rw [ofEntries]
    refine List.foldlRecOn (motive := fun known => ∀ n ∈ known, n ∈ ms) ms _
      (fun n hn => absurd hn List.not_mem_nil) fun known hknown m hm n hn => ?_
    rcases mem_insertMember hn with rfl | hn
    · exact hm
    · exact hknown n hn
  exact hsub m h

/-- A member whose key comes after all others is put at the end. -/
theorem insertMember_of_lt (h : ∀ m ∈ ms, m.1 < key) :
    insertMember key v ms = ms ++ [(key, v)] := by
  induction ms with
  | nil => rfl
  | cons n ms ih =>
    obtain ⟨k, w⟩ := n
    obtain ⟨hk, hms⟩ := List.forall_mem_cons.1 h
    have hne : key ≠ k := fun heq => List.lt_irrefl key (by rw [heq] at hk ⊢; exact hk)
    rw [insertMember, if_neg (List.lt_asymm hk), if_neg hne, ih hms, List.cons_append]

/-- Members in the order of their keys stay as they are. -/
theorem ofEntries_eq_self (h : IsOrdered ms) : ofEntries ms = ms := by
  have hfold : ∀ known : List (Text × Json), IsOrdered (known ++ ms) →
      ms.foldl (fun members entry => insertMember entry.1 entry.2 members) known = known ++ ms := by
    clear h
    induction ms with
    | nil => exact fun known _ => (List.append_nil known).symm
    | cons m ms ih =>
      intro known h
      have hlast : ∀ n ∈ known, n.1 < m.1 := fun n hn =>
        (List.pairwise_append.1 h).2.2 n hn m List.mem_cons_self
      rw [List.append_cons] at h ⊢
      rw [List.foldl_cons, insertMember_of_lt hlast, ih _ h]
  exact hfold [] h

/-! ## Sorted values -/

/-- A value fits when it is sorted, and is then as sorted as it can be. -/
theorem Fits.sorted (h : v.Fits depth) : v.sorted.Fits depth ∧ v.sorted.sorted = v.sorted := by
  induction h with
  | null depth => exact ⟨.null depth, rfl⟩
  | bool depth flag => exact ⟨.bool depth flag, rfl⟩
  | natural depth h => exact ⟨.natural depth h, rfl⟩
  | string depth s => exact ⟨.string depth s, rfl⟩
  | @array depth vs _ ih =>
    have hsame : (vs.map Json.sorted).map Json.sorted = vs.map Json.sorted := by
      rw [List.map_map]
      exact List.map_congr_left fun v hv => (ih v hv).2
    rw [Json.sorted, sortedItems_eq_map, Json.sorted, sortedItems_eq_map, hsame]
    exact ⟨.array (List.forall_mem_map.2 fun v hv => (ih v hv).1), rfl⟩
  | @object depth ms _ ih =>
    have hmem : ∀ m ∈ ofEntries (sortedMembers ms), m.2.Fits depth ∧ m.2.sorted = m.2 := by
      intro m hm
      have hsorted := mem_of_mem_ofEntries hm
      rw [sortedMembers_eq_map] at hsorted
      obtain ⟨n, hn, rfl⟩ := List.mem_map.1 hsorted
      exact ih n hn
    have hsame : sortedMembers (ofEntries (sortedMembers ms)) = ofEntries (sortedMembers ms) := by
      have hmap : (ofEntries (sortedMembers ms)).map (fun m => (m.1, m.2.sorted)) =
          (ofEntries (sortedMembers ms)).map id :=
        List.map_congr_left fun m hm => Prod.ext rfl (hmem m hm).2
      rw [sortedMembers_eq_map (ofEntries _), hmap, List.map_id]
    rw [Json.sorted, Json.sorted, hsame, ofEntries_eq_self (isOrdered_ofEntries _)]
    exact ⟨.object fun m hm => (hmem m hm).1, rfl⟩

/-! ## Reading -/

/-- A printed value begins with a character that begins a value. -/
theorem Fits.begins (h : v.Fits depth) (level : Nat) : Reader.Begins (v.textAt level) := by
  cases h with
  | null => exact ⟨'n', "ull", rfl, rfl, by decide, by decide⟩
  | bool _ flag =>
    cases flag with
    | true => exact ⟨'t', "rue", rfl, rfl, by decide, by decide⟩
    | false => exact ⟨'f', "alse", rfl, rfl, by decide, by decide⟩
  | @natural _ n =>
    obtain ⟨c, t, hc, hnumeral⟩ := exists_digit_cons_eq_numeral n
    rw [textAt, Number.text, hnumeral]
    exact (Reader.beginsValue_of_isDigit hc t).begins
  | string _ s => exact (Reader.beginsValue_stringText s).begins
  | @array _ vs => cases vs <;> exact ⟨'[', _, rfl, rfl, by decide, by decide⟩
  | @object _ ms => cases ms <;> exact ⟨'{', _, rfl, rfl, by decide, by decide⟩

/-- The reader of a member takes what is printed behind its key. -/
theorem takes_member {r : Reader Json} {t : Text} {w : Json} (h : Reader.Takes r t w)
    (ht : Reader.Begins t) (known : List (Text × Json)) (name : Text) :
    Reader.Takes (Reader.value.member r known name) ([':', ' '] ++ t)
      (insertMember name w known) := by
  intro source rest hrest hsource
  have hspace : (' ' :: (t ++ rest)).dropWhile Reader.isSpace = t ++ rest := by
    rw [List.dropWhile_cons_of_pos rfl, ht.dropWhile_append]
  rw [Reader.value.member, Reader.colon_bind hsource]
  exact Reader.bind_apply (h _ _ hrest hspace)

/-- The members of a printed object are taken one after another, each with its value sorted. -/
theorem takesMembers_value {level : Nat}
    (h : ∀ m ∈ ms, Reader.Begins (m.2.textAt level) ∧
      Reader.Takes (Reader.value depth) (m.2.textAt level) m.2.sorted)
    (known : List (Text × Json)) :
    Reader.TakesMembers (Reader.value.member (Reader.value depth)) level known ms
      ((sortedMembers ms).foldl (fun members entry => insertMember entry.1 entry.2 members)
        known) := by
  induction ms generalizing known with
  | nil => exact .nil known
  | cons m ms ih =>
    obtain ⟨⟨hbegins, htakes⟩, hms⟩ := List.forall_mem_cons.1 h
    exact .cons (takes_member htakes hbegins known m.1) (ih hms _)

/-- The reader takes a printed value, and puts the members of objects in order. -/
theorem Fits.takes_value (h : v.Fits depth) (level : Nat) :
    Reader.Takes (Reader.value depth) (v.textAt level) v.sorted := by
  induction h generalizing level with
  | null depth =>
    intro source rest _ hsource
    have hword : source.dropWhile Reader.isSpace = 'n' :: ("ull" ++ rest) := hsource
    rw [Reader.value.eq_def, Reader.peekToken_bind hword]
    exact Reader.word_bind "ull"
  | bool depth flag =>
    intro source rest _ hsource
    cases flag with
    | true =>
      have hword : source.dropWhile Reader.isSpace = 't' :: ("rue" ++ rest) := hsource
      rw [Reader.value.eq_def, Reader.peekToken_bind hword]
      exact Reader.word_bind "rue"
    | false =>
      have hword : source.dropWhile Reader.isSpace = 'f' :: ("alse" ++ rest) := hsource
      rw [Reader.value.eq_def, Reader.peekToken_bind hword]
      exact Reader.word_bind "alse"
  | @natural depth n hn =>
    intro source rest hrest hsource
    have hnumber := number_numeral hn hrest
    obtain ⟨c, t, hc, hnumeral⟩ := exists_digit_cons_eq_numeral n
    have hne {d : Char} (hd : d.isDigit = false) : c ≠ d := by
      rintro rfl
      exact absurd hc (by rw [hd]; exact Bool.false_ne_true)
    have hdigits : source.dropWhile Reader.isSpace = c :: (t ++ rest) := by
      rw [hsource, textAt, Number.text, hnumeral, List.cons_append]
    rw [hnumeral, List.cons_append] at hnumber
    rw [Reader.value.eq_def, Reader.peekToken_bind hdigits]
    simp only [if_neg (hne (d := 'n') rfl), if_neg (hne (d := 't') rfl),
      if_neg (hne (d := 'f') rfl), hc, or_true, if_true]
    rw [Reader.bind_apply hnumber]
    rfl
  | string depth s =>
    intro source rest _ hsource
    have hquote : source.dropWhile Reader.isSpace = '"' :: (s.flatMap escapeChar ++ '"' :: rest) :=
      hsource.trans (stringText_append s rest)
    rw [Reader.value.eq_def, Reader.peekToken_bind hquote]
    show (Reader.skip >>= fun _ => Reader.literal >>= fun s => pure (Json.string s)) _ = _
    have hliteral : Reader.literal (s.flatMap escapeChar ++ '"' :: rest) = .ok (s, rest) :=
      literalBody_flatMap_escapeChar s rest
    rw [Reader.skip_bind, Reader.bind_apply hliteral]
    rfl
  | @array depth vs h ih =>
    intro source rest _ hsource
    have hitems : Reader.TakesItems (Reader.value depth) (level + 1) vs (vs.map Json.sorted) := by
      rw [Reader.TakesItems, List.forall₂_map_right_iff, List.forall₂_same]
      exact fun v hv => ⟨(h v hv).begins _, ih v hv _⟩
    obtain ⟨t, u, htext, hread, hclose⟩ := Reader.exists_itemsToEnd hitems rest
    rw [Reader.value.eq_def, Reader.peekToken_bind (hsource.trans htext)]
    show (Reader.skip >>= fun _ => Reader.itemsToEnd (Reader.value depth) >>= fun vs =>
      Reader.closeArray >>= fun _ => pure (Json.array vs)) _ = _
    rw [Reader.skip_bind, Reader.bind_apply hread, Reader.bind_apply hclose, Json.sorted,
      sortedItems_eq_map]
    rfl
  | @object depth ms h ih =>
    intro source rest _ hsource
    have hparts : ∀ m ∈ ms, Reader.Begins (m.2.textAt (level + 1)) ∧
        Reader.Takes (Reader.value depth) (m.2.textAt (level + 1)) m.2.sorted :=
      fun m hm => ⟨(h m hm).begins _, ih m hm _⟩
    have hmembers := takesMembers_value hparts []
    obtain ⟨t, u, htext, hread, hclose⟩ := Reader.exists_membersToEnd hmembers rest
    rw [Reader.value.eq_def, Reader.peekToken_bind (hsource.trans htext)]
    show (Reader.skip >>= fun _ =>
      Reader.membersToEnd (Reader.value.member (Reader.value depth)) [] >>= fun ms =>
      Reader.closeObject >>= fun _ => pure (Json.object ms)) _ = _
    rw [Reader.skip_bind, Reader.bind_apply hread, Reader.bind_apply hclose]
    rfl

/-- A printed value is read, with the members of its objects in the order of their keys. -/
theorem read_text (h : v.Fits maxDepth) : Json.read v.text = .ok v.sorted := by
  have hspace : (v.text).dropWhile Reader.isSpace = v.textAt 0 ++ [] := by
    rw [text, List.append_nil, ← List.append_nil (v.textAt 0), (h.begins 0).dropWhile_append]
  have hread := h.takes_value 0 v.text [] nofun hspace
  rw [Json.read, Reader.run, StateT.run', Reader.bind_apply hread]
  rfl

/-- A value whose members are in the order of their keys is read back from its text. -/
theorem read_text_sorted (h : v.Fits maxDepth) : Json.read v.sorted.text = .ok v.sorted := by
  obtain ⟨hfits, hsame⟩ := h.sorted
  rw [read_text hfits, hsame]

end Json

end StylusSurvey
