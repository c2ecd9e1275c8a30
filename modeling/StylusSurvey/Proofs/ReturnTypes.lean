import StylusSurvey.Abi.TypeMap
import StylusSurvey.Proofs.Texts

/-!
# Outputs of results

A result `Result<T, E>` has no output or one, and the map goes by what stands in the text. If a
result without a value begins anywhere in it (`HasUnitResult`), be it inside of `T` or of `E`, there
is no output. Else there is one, and its type is that of `T` up to the first comma (`firstItem`), be
it inside of a tuple or not. So the output is the one of `T` exactly in the cases of
`outputsOf_result_iff`.
-/

namespace StylusSurvey

namespace Abi

open Text

variable {s t success error : Text} {c : Char}

/-- The result type with the given types of success and error. -/
def resultOf (success error : Text) : Text :=
  "Result<" ++ (success ++ (", " ++ (error ++ ">")))

/-- The outputs of a function that succeeds with a value of the type. -/
def outputsOfSuccess (success : Text) : List Param :=
  if success = "()" then [] else valueOutput success

/-! ## Results without a value -/

/-- A result without a value begins the text, up to the comma behind the unit. -/
def UnitResultAt (s : Text) : Prop :=
  ∃ gap gap' gap'' rest : Text,
    s = "Result" ++ (gap ++ '<' :: (gap' ++ '(' :: ')' :: (gap'' ++ ',' :: rest))) ∧
      ∀ c ∈ gap ++ (gap' ++ gap''), isBlank c = true

/-- A result without a value begins somewhere in the text. -/
def HasUnitResult (s : Text) : Prop :=
  ∃ before rest : Text, s = before ++ rest ∧ UnitResultAt rest

theorem isSome_unitResultAt?_iff : (unitResultAt? s).isSome = true ↔ UnitResultAt s := by
  have hangle : isBlank '<' = false := rfl
  have hparen : isBlank '(' = false := rfl
  have hcomma : isBlank ',' = false := rfl
  have hunit : ("()" : Text) = ['(', ')'] := rfl
  simp only [unitResultAt?, afterResult?, hunit, Option.isSome_iff_exists, Option.bind_eq_bind,
    Option.bind_eq_some_iff, @after?_eq_some_iff "Result", after?_trimStart_eq_some_iff hangle,
    after?_trimStart_eq_some_iff hparen, after?_trimStart_eq_some_iff hcomma]
  constructor
  · rintro ⟨_, _, ⟨_, rfl, gap, rfl, hgap⟩, _, ⟨gap', rfl, hgap'⟩, rest, ⟨gap'', rfl, hgap''⟩, -⟩
    exact ⟨gap, gap', gap'', rest, rfl,
      List.forall_mem_append.2 ⟨hgap, List.forall_mem_append.2 ⟨hgap', hgap''⟩⟩⟩
  · rintro ⟨gap, gap', gap'', rest, rfl, hgaps⟩
    obtain ⟨hgap, hgaps⟩ := List.forall_mem_append.1 hgaps
    obtain ⟨hgap', hgap''⟩ := List.forall_mem_append.1 hgaps
    exact ⟨(), _, ⟨_, rfl, gap, rfl, hgap⟩, _, ⟨gap', rfl, hgap'⟩, rest, ⟨gap'', rfl, hgap''⟩, rfl⟩

/-- The search for a result without a value finds one anywhere in the text. -/
theorem isSome_search_unitResultAt?_iff :
    (search unitResultAt? s).isSome = true ↔ HasUnitResult s := by
  simp only [isSome_search_iff, isSome_unitResultAt?_iff, HasUnitResult]

theorem hasUnitResult_resultOf_unit : HasUnitResult (resultOf "()" error) :=
  ⟨[], _, rfl, [], [], [], ' ' :: (error ++ ">"), rfl, by simp⟩

/-! ## Up to the first comma -/

/-- The text up to the first comma behind its first character, without the blanks ahead of it. -/
def firstItem : Text → Text
  | [] => []
  | c :: s => c :: trimEnd (s.takeWhile (· ≠ ','))

/-- Blanks at the end are trimmed behind the first character that is none. -/
theorem trimEnd_cons (h : ∃ d ∈ c :: s, isBlank d = false) :
    trimEnd (c :: s) = c :: trimEnd s := by
  rw [trimEnd, trimEnd, List.reverse_cons, List.dropWhile_append]
  split
  case isTrue hnil =>
    -- Behind the first character there are blanks only, so it is the one that stays.
    have hs : ∀ d ∈ s, isBlank d = true := by
      simpa [List.dropWhile_eq_nil_iff] using hnil
    have hc : isBlank c = false := by
      obtain ⟨d, hd, hblank⟩ := h
      rcases List.mem_cons.1 hd with rfl | hd
      · exact hblank
      · rw [hs d hd] at hblank
        cases hblank
    rw [List.isEmpty_iff.1 hnil, List.dropWhile_cons_of_neg (by simp [hc])]
    rfl
  case isFalse => rw [List.reverse_append, List.reverse_singleton, List.singleton_append]

/-- Ahead of a comma, blanks are all that may stand before it. -/
theorem startsWith_comma_trimStart (hcomma : ',' ∉ s) :
    startsWith [','] (trimStart (s ++ ',' :: t)) = true ↔ ∀ d ∈ s, isBlank d = true := by
  rw [trimStart_append_cons rfl, startsWith, List.isPrefixOf_iff_prefix]
  constructor
  · intro h d hd
    by_contra hblank
    obtain ⟨c, u, hu⟩ : ∃ c u, trimStart s = c :: u := by
      refine List.exists_cons_of_ne_nil fun hnil => hblank ?_
      exact List.dropWhile_eq_nil_iff.1 hnil d hd
    rw [hu, List.cons_append, List.cons_prefix_cons] at h
    exact hcomma (h.1 ▸ mem_of_mem_trimStart (hu ▸ List.mem_cons_self))
  · intro h
    have hnil : trimStart s = [] := List.dropWhile_eq_nil_iff.2 h
    rw [hnil, List.nil_append]
    exact List.prefix_append [','] t

/-- What stands before a comma ends ahead of the blanks that the comma follows. -/
theorem beforeComma?_append (hcomma : ',' ∉ s) (hline : '\n' ∉ c :: s) :
    beforeComma? (c :: (s ++ ',' :: t)) = some (c :: trimEnd s) := by
  induction s generalizing c with
  | nil =>
    have hstart := (startsWith_comma_trimStart (t := t) hcomma).2 (by simp)
    rw [beforeComma?, if_neg (List.ne_of_not_mem_cons hline).symm, if_pos hstart]
    rfl
  | cons d s ih =>
    rw [beforeComma?, if_neg (List.ne_of_not_mem_cons hline).symm]
    split
    case isTrue hstart =>
      have hblank := (startsWith_comma_trimStart hcomma).1 hstart
      rw [← List.nil_append (d :: s), trimEnd_append_blanks hblank]
      rfl
    case isFalse hstart =>
      have hblank : ∃ e ∈ d :: s, isBlank e = false := by
        by_contra hall
        exact hstart ((startsWith_comma_trimStart hcomma).2 (by simpa using hall))
      have hs := ih (List.not_mem_of_not_mem_cons hcomma) (List.not_mem_of_not_mem_cons hline)
      rw [List.cons_append, hs, trimEnd_cons hblank, Option.map_some]

/-- Whatever stands behind a comma, the first one is at the end of the first item. -/
theorem exists_takeWhile_append_comma (s t : Text) :
    ∃ u : Text, s ++ ',' :: t = s.takeWhile (· ≠ ',') ++ ',' :: u := by
  induction s with
  | nil => exact ⟨t, rfl⟩
  | cons c s ih =>
    obtain ⟨u, hu⟩ := ih
    by_cases hc : c = ','
    · exact ⟨s ++ ',' :: t, by simp [hc]⟩
    · exact ⟨u, by simp [hc, hu]⟩

/-- The success type of a result is read up to its first comma. -/
theorem successTypeAt?_resultOf (htrim : trim success = success) (hne : success ≠ [])
    (hline : '\n' ∉ success) :
    successTypeAt? (resultOf success error) = some (firstItem success) := by
  obtain ⟨c, s, rfl⟩ := List.exists_cons_of_ne_nil hne
  obtain ⟨u, hu⟩ := exists_takeWhile_append_comma s (' ' :: (error ++ ">"))
  have hstart : afterResult? (resultOf (c :: s) error) =
      some (c :: (s.takeWhile (· ≠ ',') ++ ',' :: u)) := by
    rw [← hu]
    rfl
  have hcomma : ',' ∉ s.takeWhile (· ≠ ',') := fun hmem => by
    simpa using List.mem_takeWhile_imp hmem
  have hline' : '\n' ∉ c :: s.takeWhile (· ≠ ',') := fun hmem =>
    hline (List.cons_subset_cons c (List.takeWhile_subset _) hmem)
  rw [successTypeAt?, hstart]
  simp only [Option.bind_eq_bind, Option.bind_some, trimStart_cons (isBlank_head_of_trim htrim),
    beforeComma?_append hcomma hline', firstItem]

theorem trim_resultOf : trim (resultOf success error) = resultOf success error := by
  have hregroup : resultOf success error = "Result<" ++ (success ++ (", " ++ error)) ++ ">" := by
    unfold resultOf
    rw [List.append_assoc, List.append_assoc, List.append_assoc]
  have hopen : trim "Result<" = "Result<" := rfl
  have hclose : trim ">" = ">" := rfl
  rw [hregroup]
  exact trim_append_append hopen (List.cons_ne_nil _ _) hclose (List.cons_ne_nil _ _)

/-- A result has no output if one without a value stands in it, and else the one of its first item.
-/
theorem outputsOf_resultOf (htrim : trim success = success) (hne : success ≠ [])
    (hline : '\n' ∉ success) :
    (HasUnitResult (resultOf success error) → outputsOf (resultOf success error) = []) ∧
    (¬ HasUnitResult (resultOf success error) →
      outputsOf (resultOf success error) = valueOutput (firstItem success)) := by
  have hsuccess := search_eq_some (@successTypeAt?_resultOf success error htrim hne hline)
  rw [← isSome_search_unitResultAt?_iff]
  simp only [outputsOf, trim_resultOf]
  exact ⟨fun hunit => if_pos hunit, fun hunit => by rw [if_neg hunit, hsuccess]⟩

/-- The outputs of a result are those of its success type exactly if that is the unit, or if no
result without a value stands in the text and the success type goes by what stands ahead of its
first comma. -/
theorem outputsOf_result_iff (htrim : trim success = success) (hne : success ≠ [])
    (hline : '\n' ∉ success) :
    ((HasUnitResult (resultOf success error) → outputsOf (resultOf success error) = []) ∧
      (¬ HasUnitResult (resultOf success error) →
        outputsOf (resultOf success error) = valueOutput (firstItem success))) ∧
    (outputsOf (resultOf success error) = outputsOfSuccess success ↔
      success = "()" ∨ (¬ HasUnitResult (resultOf success error) ∧
        typeOf (firstItem success) = typeOf success)) := by
  have houtputs := @outputsOf_resultOf success error htrim hne hline
  refine ⟨houtputs, ?_⟩
  by_cases hunit : HasUnitResult (resultOf success error)
  · rw [houtputs.1 hunit, outputsOfSuccess, or_iff_left fun h => h.1 hunit]
    split
    case isTrue hsuccess => exact iff_of_true rfl hsuccess
    case isFalse hsuccess => exact iff_of_false (by simp [valueOutput]) hsuccess
  · have hsuccess : success ≠ "()" := by
      rintro rfl
      exact hunit hasUnitResult_resultOf_unit
    rw [houtputs.2 hunit, outputsOfSuccess, if_neg hsuccess]
    simp only [valueOutput, List.cons.injEq, Param.mk.injEq, hunit, hsuccess, not_false_eq_true,
      true_and, and_true, false_or]

/-- A pair goes by its first part, and that is where its type comes from as a whole, too. -/
theorem outputsOf_result_iff_pair :
    ¬ HasUnitResult (resultOf "(U256, bool)" "Vec<u8>") ∧
      firstItem "(U256, bool)" = "(U256" ∧
      outputsOf (resultOf "(U256, bool)" "Vec<u8>") = outputsOfSuccess "(U256, bool)" := by
  have hunit : ¬ HasUnitResult (resultOf "(U256, bool)" "Vec<u8>") := by
    rw [← isSome_search_unitResultAt?_iff]
    decide +kernel
  have htypes : typeOf (firstItem "(U256, bool)") = typeOf "(U256, bool)" := by decide +kernel
  have houtputs := @outputsOf_result_iff "(U256, bool)" "Vec<u8>" (by decide +kernel)
    (List.cons_ne_nil _ _) (by decide +kernel)
  exact ⟨hunit, by decide +kernel, houtputs.2.2 (.inr ⟨hunit, htypes⟩)⟩

/-- A pair with an address has the type of its number, and a number has no output if the error is a
result without a value. -/
theorem outputsOf_result_differs :
    (outputsOf (resultOf "(U256, Address)" "Vec<u8>") = [⟨"value", "uint256"⟩] ∧
      outputsOfSuccess "(U256, Address)" = [⟨"value", "address"⟩]) ∧
    (outputsOf (resultOf "U256" "Result<(), Vec<u8>>") = [] ∧
      outputsOfSuccess "U256" = [⟨"value", "uint256"⟩]) := by
  decide +kernel

end Abi

end StylusSurvey
