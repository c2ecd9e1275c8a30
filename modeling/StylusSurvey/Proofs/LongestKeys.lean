import StylusSurvey.Proofs.Literals

/-!
# The longest key in a type

A type without a byte array goes by the longest of the keys that occur in it, and by the first of
these in the table if there are several. The map finds it by comparing each row with the best one
so far (`bestRow?_eq_find?_isLongest`). Only keys of one length compete for being the first, so the
table may be put into any order that keeps theirs (`bestRow?_of_sameOrder`).
-/

namespace StylusSurvey

namespace Abi

open Text

variable {s type digits key : Text} {row found : Text × Text}
  {rows table table' : List (Text × Text)}

/-! ## The longest of the keys that occur -/

/-- The key occurs in the type, and no key of the table that occurs in it is longer. -/
def IsLongest (table : List (Text × Text)) (type key : Text) : Prop :=
  key <:+: type ∧ ∀ row ∈ table, row.1 <:+: type → row.1.length ≤ key.length

instance (table : List (Text × Text)) (type key : Text) : Decidable (IsLongest table type key) :=
  inferInstanceAs (Decidable (_ ∧ _))

/-- The row is the first one of the table that has a longest key. -/
def FirstLongest (table : List (Text × Text)) (type : Text) (row : Text × Text) : Prop :=
  table.find? (fun row => IsLongest table type row.1) = some row

theorem IsLongest.tail (h : IsLongest (row :: rows) type key) : IsLongest rows type key :=
  ⟨h.1, fun r hr => h.2 r (List.mem_cons_of_mem row hr)⟩

/-- A row ahead of a table leaves the longest keys as they are if its key is shorter than one of
them or does not occur. -/
theorem isLongest_cons_iff (h : row.1 <:+: type → ∃ found, IsLongest rows type found.1 ∧
    found ∈ rows ∧ ¬KeyAtLeast row found) :
    IsLongest (row :: rows) type key ↔ IsLongest rows type key := by
  refine ⟨IsLongest.tail, fun hkey => ⟨hkey.1, List.forall_mem_cons.2 ⟨fun hrow => ?_, hkey.2⟩⟩⟩
  obtain ⟨found, hlongest, hfound, hshorter⟩ := h hrow
  have hle := hkey.2 found hfound hlongest.1
  unfold KeyAtLeast at hshorter
  omega

/-- Such a row is passed over. -/
theorem find?_isLongest_cons (h : row.1 <:+: type → ∃ found, IsLongest rows type found.1 ∧
    found ∈ rows ∧ ¬KeyAtLeast row found) :
    (row :: rows).find? (fun r => IsLongest (row :: rows) type r.1) =
      rows.find? fun r => IsLongest rows type r.1 := by
  have hnot : ¬IsLongest rows type row.1 := by
    intro hlongest
    obtain ⟨found, hfound, hmem, hshorter⟩ := h hlongest.1
    exact hshorter (hlongest.2 found hmem hfound.1)
  simp only [isLongest_cons_iff h]
  exact List.find?_cons_of_neg (by simpa using hnot)

/-- A row with a longest key at the head of the table is the first one. -/
theorem find?_isLongest_self (h : IsLongest (row :: rows) type row.1) :
    (row :: rows).find? (fun r => IsLongest (row :: rows) type r.1) = some row :=
  List.find?_cons_of_pos (by simpa using h)

/-! ## Comparing the rows -/

/-- A row in front of others is compared with the best of them if its key occurs. -/
theorem bestRow?_cons (row : Text × Text) (rows : List (Text × Text)) (type : Text) :
    bestRow? (row :: rows) type =
      if occurs row.1 type then betterOf row (bestRow? rows type) else bestRow? rows type := by
  unfold bestRow?
  rw [List.filter_cons]
  split
  · exact foldl_longerKey_some row _
  · rfl

/-- There is no best row exactly if no key occurs. -/
theorem bestRow?_eq_none_iff :
    bestRow? table type = none ↔ ∀ row ∈ table, ¬row.1 <:+: type := by
  induction table with
  | nil => exact iff_of_true rfl (by simp)
  | cons row rows ih =>
    rw [bestRow?_cons, List.forall_mem_cons, ← ih, ← occurs_iff_infix]
    split
    case isTrue hrow =>
      refine iff_of_false ?_ fun h => h.1 hrow
      cases bestRow? rows type with
      | none => nofun
      | some found =>
        by_cases hle : KeyAtLeast row found
        · simp [betterOf, longerKey_of_keyAtLeast hle]
        · simp [betterOf, longerKey_of_not_keyAtLeast hle]
    case isFalse hrow => exact (and_iff_right hrow).symm

/-- The best row is the first one with a longest key. -/
theorem bestRow?_eq_find?_isLongest (table : List (Text × Text)) (type : Text) :
    bestRow? table type = table.find? fun row => IsLongest table type row.1 := by
  induction table with
  | nil => rfl
  | cons row rows ih =>
    rw [bestRow?_cons]
    split
    case isFalse hrow =>
      have hnot := mt occurs_iff_infix.2 hrow
      rw [find?_isLongest_cons fun h => absurd h hnot, ih]
    case isTrue hrow =>
      replace hrow := occurs_iff_infix.1 hrow
      cases hbest : bestRow? rows type with
      | none =>
        have hnone := bestRow?_eq_none_iff.1 hbest
        rw [find?_isLongest_self ⟨hrow, List.forall_mem_cons.2 ⟨fun _ => le_rfl, fun r hr h =>
          absurd h (hnone r hr)⟩⟩]
        rfl
      | some found =>
        rw [ih] at hbest
        have hmem := List.mem_of_find?_eq_some hbest
        have hlongest : IsLongest rows type found.1 := by simpa using List.find?_some hbest
        by_cases hle : KeyAtLeast row found
        · rw [find?_isLongest_self ⟨hrow, List.forall_mem_cons.2 ⟨fun _ => le_rfl, fun r hr h =>
            (hlongest.2 r hr h).trans hle⟩⟩]
          exact longerKey_of_keyAtLeast hle
        · rw [find?_isLongest_cons fun _ => ⟨found, hlongest, hmem, hle⟩, hbest]
          exact longerKey_of_not_keyAtLeast hle

/-- The best row is the first one with a longest key. -/
theorem firstLongest_iff : FirstLongest table type row ↔ bestRow? table type = some row := by
  rw [FirstLongest, bestRow?_eq_find?_isLongest]

/-- There is a first row with a longest key exactly if some key occurs. -/
theorem exists_firstLongest_iff :
    (∃ row, FirstLongest table type row) ↔ ∃ row ∈ table, row.1 <:+: type := by
  simp only [firstLongest_iff, ← Option.isSome_iff_exists, Option.isSome_iff_ne_none, ne_eq,
    bestRow?_eq_none_iff]
  simp

/-! ## The order of the table -/

/-- The tables have the same rows, and those with keys of one length in the same order. -/
def SameOrder (table table' : List (Text × Text)) : Prop :=
  ∀ n, table.filter (·.1.length = n) = table'.filter (·.1.length = n)

/-- The one table is a permutation of the other. -/
theorem SameOrder.perm (h : SameOrder table table') : table.Perm table' := by
  refine List.perm_iff_count.2 fun row => ?_
  rw [← List.count_filter (p := (·.1.length = row.1.length)) (by simp), h,
    List.count_filter (by simp)]

/-- Tables with the same rows have the same longest keys. -/
theorem SameOrder.isLongest_iff (h : SameOrder table table') :
    IsLongest table type key ↔ IsLongest table' type key := by
  simp only [IsLongest, h.perm.mem_iff]

/-- All longest keys are of one length, so only rows with keys of this length matter. -/
theorem find?_isLongest_filter (hrow : row ∈ table) (h : IsLongest table type row.1) :
    (table.filter (·.1.length = row.1.length)).find? (fun r => IsLongest table type r.1) =
      table.find? fun r => IsLongest table type r.1 := by
  refine find?_filter_of_imp fun r hr hlongest => ?_
  rw [decide_eq_true_eq] at hlongest ⊢
  exact Nat.le_antisymm (h.2 r hr hlongest.1) (hlongest.2 row hrow h.1)

/-- A table has the same best row in every order that keeps the order of the keys of one
length. -/
theorem bestRow?_of_sameOrder (h : SameOrder table table') :
    bestRow? table type = bestRow? table' type := by
  by_cases hsome : ∃ row, FirstLongest table type row
  · obtain ⟨row, hrow⟩ := hsome
    have hmem := List.mem_of_find?_eq_some hrow
    have hlongest : IsLongest table type row.1 := by simpa using List.find?_some hrow
    rw [bestRow?_eq_find?_isLongest, bestRow?_eq_find?_isLongest,
      ← find?_isLongest_filter hmem hlongest, h,
      ← find?_isLongest_filter (h.perm.mem_iff.1 hmem) (h.isLongest_iff.1 hlongest)]
    simp only [h.isLongest_iff]
  · have hnone : ∀ row ∈ table, ¬row.1 <:+: type := fun row hrow hoccurs =>
      hsome (exists_firstLongest_iff.2 ⟨row, hrow, hoccurs⟩)
    rw [bestRow?_eq_none_iff.2 hnone,
      bestRow?_eq_none_iff.2 fun row hrow => hnone row (h.perm.mem_iff.2 hrow)]

/-- Sorting a table by the length of the keys keeps the order of those of one length. -/
theorem sameOrder_byKeyLength (table : List (Text × Text)) :
    SameOrder (byKeyLength table) table := by
  intro n
  have hinsert (row : Text × Text) (rows : List (Text × Text)) :
      (rows.orderedInsert KeyAtLeast row).filter (·.1.length = n) =
        (row :: rows).filter (·.1.length = n) := by
    induction rows with
    | nil => rfl
    | cons r rows ih =>
      rw [List.orderedInsert_cons]
      split
      case isTrue => rfl
      case isFalse hshorter =>
        -- the row goes behind a longer key, so the filter does not keep both
        unfold KeyAtLeast at hshorter
        rw [List.filter_cons, ih]
        simp only [List.filter_cons, decide_eq_true_eq]
        split_ifs <;> first | rfl | omega
  induction table with
  | nil => rfl
  | cons row rows ih =>
    rw [byKeyLength, List.insertionSort_cons, hinsert, List.filter_cons, List.filter_cons]
    rw [byKeyLength] at ih
    rw [ih]

/-- The interface type of a type by another table of keys. -/
def typeIn (table : List (Text × Text)) (type : Text) : Text :=
  match arrayLength? (trim type) with
  | some digits => arrayType digits
  | none => ((bestRow? table (trim type)).map (·.2)).getD fallbackType

theorem typeIn_typeTable (type : Text) : typeIn typeTable type = typeOf type := by
  rw [typeIn, typeOf]
  cases bestRow? typeTable (trim type) <;> rfl

/-! ## The map of types -/

/-- The type of a byte array has its length, if this is written in ASCII digits and is at most
32. -/
theorem arrayType_eq (hne : digits ≠ []) (hdigits : ∀ c ∈ digits, isDecimal c = true) :
    arrayType digits =
      if digits.all Char.isDigit = true ∧ valueOfDigits digits ≤ 32 then
        "bytes" ++ numeral (valueOfDigits digits)
      else "bytes" := by
  rw [arrayType, size?_eq_filter_of_isDecimal hdigits, ofNumeral?]
  split_ifs with hnumeral h h
  · have hmax : valueOfDigits digits ≤ maxSize := h.2.trans (by decide)
    rw [Option.filter_some, if_pos (by simpa using hmax)]
    exact if_pos h.2
  · have hgt : ¬valueOfDigits digits ≤ 32 := fun hle =>
      h ⟨List.all_eq_true.2 (isNumeral_iff.1 hnumeral).2, hle⟩
    split
    case h_1 n hn =>
      obtain ⟨hval, -⟩ := Option.filter_eq_some_iff.1 hn
      exact if_neg (Option.some.inj hval ▸ hgt)
    case h_2 => rfl
  · exact absurd (isNumeral_iff.2 ⟨hne, List.all_eq_true.1 h.1⟩) hnumeral
  · rfl

/-- A type has a byte array anywhere exactly if it has a leftmost one. -/
theorem exists_firstArray_iff :
    (∃ digits, FirstArray s digits) ↔
      ∃ before rest digits : Text, s = before ++ rest ∧ ArrayAt rest digits := by
  simp only [← arrayLength?_eq_some_iff, ← Option.isSome_iff_exists, arrayLength?,
    isSome_search_iff]
  simp only [Option.isSome_iff_exists, arrayLengthAt?_eq_some_iff, exists_and_left]

/-- A type without a byte array has the type of the first row with a longest key. -/
theorem typeOf_of_firstLongest (h : ∀ digits, ¬FirstArray (trim type) digits)
    (hrow : FirstLongest typeTable (trim type) row) : typeOf type = row.2 := by
  rw [firstLongest_iff] at hrow
  simp only [typeOf, arrayLength?_eq_none_iff.2 h, hrow]

theorem typeOf_of_no_key (h : ∀ digits, ¬FirstArray (trim type) digits)
    (hnone : ∀ row ∈ typeTable, ¬row.1 <:+: trim type) : typeOf type = "bytes" := by
  simp only [typeOf, arrayLength?_eq_none_iff.2 h, bestRow?_eq_none_iff.2 hnone]
  rfl

/-- The type of byte strings is that of one row, and of a type without a key. -/
theorem typeOf_eq_bytes_iff (h : ∀ digits, ¬FirstArray (trim type) digits) :
    typeOf type = "bytes" ↔ (∀ row ∈ typeTable, ¬row.1 <:+: trim type) ∨
      FirstLongest typeTable (trim type) ("Vec<u8>", "bytes") := by
  have hbytes : ∀ row ∈ typeTable, row.2 = "bytes" → row.1 = "Vec<u8>" := by decide
  constructor
  · intro htype
    by_cases hsome : ∃ row, FirstLongest typeTable (trim type) row
    · obtain ⟨row, hrow⟩ := hsome
      have hmem := List.mem_of_find?_eq_some hrow
      rw [typeOf_of_firstLongest h hrow] at htype
      obtain ⟨key, _⟩ := row
      obtain rfl : key = "Vec<u8>" := hbytes _ hmem htype
      exact .inr (htype ▸ hrow)
    · exact .inl fun row hrow hoccurs => hsome (exists_firstLongest_iff.2 ⟨row, hrow, hoccurs⟩)
  · rintro (hnone | hrow)
    · exact typeOf_of_no_key h hnone
    · exact typeOf_of_firstLongest h hrow

/-- A byte array goes before all keys, and the leftmost one counts: its type is `bytesN`, where
`N` is its length, if this is written in ASCII digits and is at most 32. Else a type has the
type of the first row with a longest key. The order of the rows matters only among those with
keys of one length. -/
theorem typeOf_longest (type : Text) :
    ((∃ digits, FirstArray (trim type) digits) ↔
      ∃ before rest digits : Text, trim type = before ++ rest ∧ ArrayAt rest digits) ∧
    (∀ digits, FirstArray (trim type) digits → typeOf type =
      if digits.all Char.isDigit = true ∧ valueOfDigits digits ≤ 32 then
        "bytes" ++ numeral (valueOfDigits digits)
      else "bytes") ∧
    ((∀ digits, ¬FirstArray (trim type) digits) →
      (∀ row, FirstLongest typeTable (trim type) row → typeOf type = row.2) ∧
      ((∃ row, FirstLongest typeTable (trim type) row) ↔
        ∃ row ∈ typeTable, row.1 <:+: trim type) ∧
      (typeOf type = "bytes" ↔ (∀ row ∈ typeTable, ¬row.1 <:+: trim type) ∨
        FirstLongest typeTable (trim type) ("Vec<u8>", "bytes"))) ∧
    ∀ table, SameOrder table typeTable → typeIn table type = typeOf type := by
  refine ⟨exists_firstArray_iff, fun digits hdigits => ?_, fun h => ⟨fun row hrow => ?_,
    exists_firstLongest_iff, typeOf_eq_bytes_iff h⟩, fun table htable => ?_⟩
  · obtain ⟨-, -, -, ⟨-, -, -, -, hne, hdecimal⟩, -⟩ := id hdigits
    rw [typeOf_of_array hdigits, arrayType_eq hne hdecimal]
  · exact typeOf_of_firstLongest h hrow
  · rw [← typeIn_typeTable, typeIn, typeIn, bestRow?_of_sameOrder htable]

/-- Zeros in front of a length do not count, of two keys of one length the first in the table
counts, and sorting the table by the lengths of the keys changes nothing. -/
theorem typeOf_longest_pairs :
    typeOf "([u8; 004], U256)" = "bytes4" ∧
      typeIn (byKeyLength typeTable) "(bool, U128)" = "uint128" := by
  have harray : FirstArray (trim "([u8; 004], U256)") "004" :=
    arrayLength?_eq_some_iff.1 (by decide)
  have hnone : ∀ digits, ¬FirstArray (trim "(bool, U128)") digits :=
    arrayLength?_eq_none_iff.1 (by decide)
  obtain ⟨-, -, hkeys, horder⟩ := typeOf_longest "(bool, U128)"
  have hrow : FirstLongest typeTable (trim "(bool, U128)") ("U128", "uint128") := by
    rw [firstLongest_iff]
    decide
  constructor
  · have hvalue : valueOfDigits "004" = 4 := by decide
    rw [(typeOf_longest "([u8; 004], U256)").2.1 "004" harray, hvalue,
      if_pos ⟨by decide, by decide⟩]
    decide
  · rw [horder _ (sameOrder_byKeyLength typeTable)]
    exact (hkeys hnone).1 _ hrow

end Abi

end StylusSurvey
