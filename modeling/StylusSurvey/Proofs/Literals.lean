import Mathlib.Data.List.Find
import Mathlib.Data.List.Sort
import StylusSurvey.Proofs.InterfaceTypes
import StylusSurvey.TestModule

/-!
# Literals and interface types

A parameter gets its literal from one table and its interface type from another. The literal
is that of the first row one of whose keys occurs in the type; the interface type is that of
the longest key that occurs, and a byte array `[u8; N]` goes before all of them. Both tables
look for keys in the text, so a type in which several keys occur can be an integer to the one
and an address to the other.

The longest key is the first one in the table sorted by the length of the keys
(`bestRow?_eq_find?`), and the literal says that the keys of the rows above it are absent
(`occurs_of_ofType`). What is left of the sorted table splits into the keys that overrule the
literal and its own. So a literal fits its interface type exactly if no overruling key occurs
(`LiteralClass.typeOf_mem_types_iff`). A type with a byte array is that of bytes or of a number of
bytes, which only the literal of bytes can fit (`typeOf_mem_types_iff_of_array`).
-/

namespace StylusSurvey

open Text

variable {type literal : Text} {best row : Text × Text} {rows : List (Text × Text)}
  {p : Text × Text → Bool}

/-! ## The longest key is the first one -/

namespace Abi

/-- The key of the first row is at least as long as that of the second. -/
def KeyAtLeast (row row' : Text × Text) : Prop :=
  row'.1.length ≤ row.1.length

instance : DecidableRel KeyAtLeast := fun row row' => Nat.decLe row'.1.length row.1.length

instance : Std.Total KeyAtLeast := ⟨fun row row' => Nat.le_total row'.1.length row.1.length⟩

theorem KeyAtLeast.trans {last : Text × Text} (h : KeyAtLeast best row)
    (h' : KeyAtLeast row last) : KeyAtLeast best last :=
  Nat.le_trans h' h

instance : IsTrans (Text × Text) KeyAtLeast := ⟨fun _ _ _ => KeyAtLeast.trans⟩

/-- The rows by the length of their keys, longest first, and in order where the lengths agree. -/
def byKeyLength (table : List (Text × Text)) : List (Text × Text) :=
  table.insertionSort KeyAtLeast

/-- The better of a row and what is found behind it. -/
def betterOf (row : Text × Text) (later : Option (Text × Text)) : Option (Text × Text) :=
  later.elim (some row) (longerKey (some row))

theorem longerKey_of_keyAtLeast (h : KeyAtLeast best row) :
    longerKey (some best) row = some best :=
  if_neg (Nat.not_lt.2 h)

theorem longerKey_of_not_keyAtLeast (h : ¬KeyAtLeast best row) :
    longerKey (some best) row = some row :=
  if_pos (Nat.lt_of_not_le h)

/-- It does not matter which two of three rows are compared first. -/
theorem longerKey_assoc (best row found : Text × Text) :
    longerKey (longerKey (some best) row) found =
      betterOf best (longerKey (some row) found) := by
  by_cases hbest : KeyAtLeast best row
  · rw [longerKey_of_keyAtLeast hbest]
    by_cases hfound : KeyAtLeast row found
    · rw [longerKey_of_keyAtLeast hfound, longerKey_of_keyAtLeast (hbest.trans hfound)]
      exact (longerKey_of_keyAtLeast hbest).symm
    · rw [longerKey_of_not_keyAtLeast hfound]
      rfl
  · rw [longerKey_of_not_keyAtLeast hbest]
    by_cases hfound : KeyAtLeast row found
    · rw [longerKey_of_keyAtLeast hfound]
      exact (longerKey_of_not_keyAtLeast hbest).symm
    · have hlonger : ¬KeyAtLeast best found := by
        unfold KeyAtLeast at *
        omega
      rw [longerKey_of_not_keyAtLeast hfound]
      exact (longerKey_of_not_keyAtLeast hlonger).symm

/-- A row that is passed on is compared with the best of the rows behind it. -/
theorem foldl_longerKey_some (best : Text × Text) (rows : List (Text × Text)) :
    rows.foldl longerKey (some best) = betterOf best (rows.foldl longerKey none) := by
  induction rows generalizing best with
  | nil => rfl
  | cons row rows ih =>
    have hrow : (row :: rows).foldl longerKey none = betterOf row (rows.foldl longerKey none) :=
      ih row
    obtain ⟨better, hbetter⟩ : ∃ better, longerKey (some best) row = some better := by
      by_cases hbest : KeyAtLeast best row
      · exact ⟨best, longerKey_of_keyAtLeast hbest⟩
      · exact ⟨row, longerKey_of_not_keyAtLeast hbest⟩
    rw [hrow, List.foldl_cons, hbetter, ih better]
    cases rows.foldl longerKey none with
    | none => exact hbetter.symm
    | some found =>
      have hassoc := longerKey_assoc best row found
      rw [hbetter] at hassoc
      exact hassoc

/-- A row in its place is found where no longer key is. -/
theorem find?_orderedInsert (h : rows.Pairwise KeyAtLeast) :
    (rows.orderedInsert KeyAtLeast row).find? p =
      if p row then betterOf row (rows.find? p) else rows.find? p := by
  induction rows with
  | nil =>
    rw [List.orderedInsert_nil, List.find?_singleton]
    rfl
  | cons r rows ih =>
    obtain ⟨hr, hrows⟩ := List.pairwise_cons.1 h
    rw [List.orderedInsert_cons]
    split
    case isTrue hle =>
      rw [List.find?_cons]
      split
      case h_1 hp =>
        have hfound : ∀ found, (r :: rows).find? p = some found → KeyAtLeast row found := by
          intro found hfound
          rcases List.mem_cons.1 (List.mem_of_find?_eq_some hfound) with rfl | hmem
          · exact hle
          · exact KeyAtLeast.trans hle (hr found hmem)
        rw [if_pos hp]
        cases hfind : (r :: rows).find? p with
        | none => rfl
        | some found => exact (longerKey_of_keyAtLeast (hfound found hfind)).symm
      case h_2 hp => rw [if_neg (by simp [hp])]
    case isFalse hgt =>
      by_cases hp : p r = true
      · rw [List.find?_cons_of_pos hp, List.find?_cons_of_pos hp, betterOf, Option.elim_some,
          longerKey_of_not_keyAtLeast hgt, ite_self]
      · rw [List.find?_cons_of_neg hp, List.find?_cons_of_neg hp, ih hrows]

/-- The row with the longest key is the first one in the order of the lengths. -/
theorem bestRow?_eq_find? (table : List (Text × Text)) (type : Text) :
    bestRow? table type = (byKeyLength table).find? fun row => occurs row.1 type := by
  unfold bestRow? byKeyLength
  induction table with
  | nil => rfl
  | cons row table ih =>
    have hsorted := List.pairwise_insertionSort KeyAtLeast table
    rw [List.insertionSort_cons, find?_orderedInsert hsorted, ← ih, List.filter_cons]
    split
    · exact foldl_longerKey_some row _
    · rfl

/-- Rows that cannot be found may be left out of a search. -/
theorem find?_filter_of_imp {q : Text × Text → Bool}
    (h : ∀ row ∈ rows, q row = true → p row = true) : (rows.filter p).find? q = rows.find? q := by
  rw [List.find?_filter]
  refine List.find?_congr fun row hrow => ?_
  by_cases hq : q row = true
  · simp [hq, h row hrow hq]
  · simp [hq]

/-- The type without a byte array goes by the first key in the order of the lengths. -/
theorem typeOf_eq_find? (h : ∀ digits, ¬FirstArray (trim type) digits) :
    typeOf type = ((byKeyLength typeTable).find? fun row => occurs row.1 (trim type)).elim
      fallbackType (·.2) := by
  simp only [typeOf, arrayLength?_eq_none_iff.2 h, bestRow?_eq_find?]
  cases (byKeyLength typeTable).find? fun row => occurs row.1 (trim type) <;> rfl

end Abi

/-! ## What a literal says about the keys -/

namespace DefaultValue

open Abi

/-- The keys of a literal. -/
def keysOf (literal : Text) : List Text :=
  (table.filter (·.literal = literal)).flatMap (·.keys)

/-- The keys that are tried before those of a literal. -/
def earlierKeys (literal : Text) : List Text :=
  (table.takeWhile (·.literal ≠ literal)).flatMap (·.keys)

/-- The rows of the table of types that a type with the literal can have, longest key first. -/
def rowsLeft (literal : Text) : List (Text × Text) :=
  (byKeyLength typeTable).filter fun row => !(earlierKeys literal).contains row.1

/-- Where the first row that is found has the literal, one of the literal's rows is found and
none before them. -/
theorem find?_map_literal {rows : List DefaultValue} {p : DefaultValue → Bool}
    (h : (rows.find? p).map (·.literal) = some literal) :
    (∃ row ∈ rows.filter (·.literal = literal), p row = true) ∧
      ∀ row ∈ rows.takeWhile (·.literal ≠ literal), p row = false := by
  induction rows with
  | nil => cases h
  | cons row rows ih =>
    rw [List.find?_cons] at h
    split at h
    case h_1 hp =>
      have hrow : row.literal = literal := Option.some.inj h
      refine ⟨⟨row, by simp [hrow], hp⟩, ?_⟩
      simp [hrow]
    case h_2 hp =>
      obtain ⟨⟨found, hfound, hpfound⟩, hbefore⟩ := ih h
      refine ⟨⟨found, ?_, hpfound⟩, fun r hr => ?_⟩
      · rw [List.filter_cons]
        split
        · exact List.mem_cons_of_mem _ hfound
        · exact hfound
      · rw [List.takeWhile_cons] at hr
        split at hr
        · rcases List.mem_cons.1 hr with rfl | hr
          · exact hp
          · exact hbefore r hr
        · cases hr

/-- A literal other than the default is given for one of its keys, in the absence of all keys
that are tried before. -/
theorem occurs_of_ofType (h : ofType type = literal) (hne : literal ≠ fallback) :
    (∃ key ∈ keysOf literal, occurs key (trim type) = true) ∧
      ∀ key ∈ earlierKeys literal, occurs key (trim type) = false := by
  have hmap : (table.find? fun row => row.keys.any fun key => occurs key (trim type)).map
      (·.literal) = some literal := by
    simp only [ofType] at h
    split at h
    case h_1 row hrow => rw [hrow, Option.map_some, h]
    case h_2 => exact absurd h.symm hne
  obtain ⟨⟨row, hrow, hany⟩, hbefore⟩ := find?_map_literal hmap
  obtain ⟨key, hkey, hoccurs⟩ := List.any_eq_true.1 hany
  refine ⟨⟨key, List.mem_flatMap.2 ⟨row, hrow, hkey⟩, hoccurs⟩, fun key hkey => ?_⟩
  obtain ⟨row, hrow, hkey⟩ := List.mem_flatMap.1 hkey
  have hnone := List.any_eq_false.1 (hbefore row hrow) key hkey
  exact Bool.eq_false_iff.2 hnone

/-- The interface type of a type with the literal comes from the rows that are left. -/
theorem typeOf_of_ofType (harray : ∀ digits, ¬FirstArray (trim type) digits)
    (h : ofType type = literal) (hne : literal ≠ fallback) :
    typeOf type = ((rowsLeft literal).find? fun row => occurs row.1 (trim type)).elim
      fallbackType (·.2) := by
  obtain ⟨-, hbefore⟩ := occurs_of_ofType h hne
  rw [typeOf_eq_find? harray, rowsLeft, find?_filter_of_imp fun row _ hrow => ?_]
  rw [Bool.not_eq_true', Bool.eq_false_iff, ne_eq, List.contains_iff_mem]
  intro hmem
  rw [hbefore _ hmem] at hrow
  cases hrow

/-! ## The classes of types -/

/-- A literal with the interface types that it fits, and the keys that overrule its own in the
map of types. -/
structure LiteralClass where
  literal : Text
  types : List Text
  overruling : List Text
deriving DecidableEq

/-- The literals that stand for one kind of type. -/
def literalClasses : List LiteralClass :=
  [{ literal := "vec![1, 2, 3]", types := ["bytes"], overruling := ["Address"] },
    { literal := "U256::from(42)", types := ["uint256"], overruling := ["Address", "String"] },
    { literal := "U128::from(42)", types := ["uint128"], overruling := ["Address", "String"] },
    { literal := "U64::from(42)", types := ["uint64"],
      overruling := ["Address", "String", "bool"] },
    { literal := "Address::ZERO", types := ["address"], overruling := [] },
    { literal := "true", types := ["bool"], overruling := ["String"] },
    { literal := "42", types := ["uint8", "uint16", "uint32", "uint64"],
      overruling := ["String"] }]

namespace LiteralClass

variable (c : LiteralClass)

/-- The literal fits the interface type of the row. -/
def fits (row : Text × Text) : Bool :=
  c.types.contains row.2

/-- The rows in front of the first one that fits. -/
def rowsAbove : List (Text × Text) :=
  (rowsLeft c.literal).takeWhile fun row => !c.fits row

/-- The rows from the first one that fits to the last one before another that does not. -/
def ownRows : List (Text × Text) :=
  ((rowsLeft c.literal).dropWhile fun row => !c.fits row).takeWhile c.fits

/-- In each class the rows above are those of the overruling keys, and the own rows hold all
keys of the literal. -/
theorem rows_of_mem {c : LiteralClass} (hc : c ∈ literalClasses) :
    c.literal ≠ fallback ∧ c.rowsAbove.map (·.1) = c.overruling ∧
      ∀ key ∈ keysOf c.literal, key ∈ c.ownRows.map (·.1) := by
  have hall : ∀ c ∈ literalClasses, c.literal ≠ fallback ∧
      c.rowsAbove.map (·.1) = c.overruling ∧
        ∀ key ∈ keysOf c.literal, key ∈ c.ownRows.map (·.1) := by decide
  exact hall c hc

/-- The own rows are found after the rows above them, if one of their keys occurs. -/
theorem find?_rowsLeft (hown : ∃ row ∈ c.ownRows, p row = true) :
    ∃ found, (rowsLeft c.literal).find? p = some found ∧
      (c.fits found = true ↔ ∀ row ∈ c.rowsAbove, p row = false) := by
  have hsplit : c.rowsAbove ++ (c.ownRows ++
      ((rowsLeft c.literal).dropWhile fun row => !c.fits row).dropWhile c.fits) =
        rowsLeft c.literal := by
    rw [rowsAbove, ownRows, List.takeWhile_append_dropWhile, List.takeWhile_append_dropWhile]
  rw [← hsplit, List.find?_append, List.find?_append]
  cases habove : c.rowsAbove.find? p with
  | some found =>
    have hmem := List.mem_of_find?_eq_some habove
    have hout : c.fits found = false := by simpa using List.mem_takeWhile_imp hmem
    refine ⟨found, rfl, iff_of_false (Bool.eq_false_iff.1 hout) fun hall => ?_⟩
    exact absurd (List.find?_some habove) (Bool.eq_false_iff.1 (hall found hmem))
  | none =>
    obtain ⟨row, hrow, hp⟩ := hown
    cases hfind : c.ownRows.find? p with
    | none => exact absurd hp (List.find?_eq_none.1 hfind row hrow)
    | some found =>
      have hfits := List.mem_takeWhile_imp (List.mem_of_find?_eq_some hfind)
      refine ⟨found, rfl, iff_of_true hfits fun row hrow => ?_⟩
      exact Bool.eq_false_iff.2 (List.find?_eq_none.1 habove row hrow)

/-- In each class a literal fits the interface type exactly if no overruling key occurs. -/
theorem typeOf_mem_types_iff {c : LiteralClass} (hc : c ∈ literalClasses)
    (harray : ∀ digits, ¬FirstArray (trim type) digits) (h : ofType type = c.literal) :
    typeOf type ∈ c.types ↔ ∀ key ∈ c.overruling, occurs key (trim type) = false := by
  obtain ⟨hne, habove, hkeys⟩ := rows_of_mem hc
  obtain ⟨⟨key, hkey, hoccurs⟩, -⟩ := occurs_of_ofType h hne
  obtain ⟨row, hrow, rfl⟩ := List.mem_map.1 (hkeys key hkey)
  obtain ⟨found, hfound, hfits⟩ :=
    c.find?_rowsLeft (p := fun row => occurs row.1 (trim type)) ⟨row, hrow, hoccurs⟩
  rw [typeOf_of_ofType harray h hne, hfound, Option.elim_some, ← List.contains_iff_mem, ← habove,
    List.forall_mem_map]
  exact hfits

end LiteralClass

/-- The literal of a string. -/
def stringLiteral : Text := "\"hello\".to_string()"

/-- A type with the literal of a string is that of strings if it is one of owned strings, and else
that of bytes. -/
theorem typeOf_of_stringLiteral (harray : ∀ digits, ¬FirstArray (trim type) digits)
    (h : ofType type = stringLiteral) :
    typeOf type = if occurs "String" (trim type) then "string" else "bytes" := by
  have hne : stringLiteral ≠ fallback := by decide
  have hleft : rowsLeft stringLiteral = ([("String", "string")] : List (Text × Text)) := by
    decide
  rw [typeOf_of_ofType harray h hne, hleft, List.find?_singleton]
  cases occurs "String" (trim type) <;> rfl

/-! ## Types with a byte array -/

/-- A byte array holds the key of an integer, so its type never has the literal of a string. -/
theorem ofType_ne_stringLiteral {digits : Text} (h : FirstArray (trim type) digits) :
    ofType type ≠ stringLiteral := by
  intro hliteral
  obtain ⟨-, hbefore⟩ := occurs_of_ofType hliteral (by decide)
  have habsent : occurs "u8" (trim type) = false := hbefore "u8" (by decide)
  obtain ⟨before, rest, htype, ⟨blanks, after, hrest, -⟩, -⟩ := h
  have hpresent : occurs "u8" (trim type) = true :=
    occurs_iff_infix.2 ⟨before ++ ['['], ';' :: (blanks ++ (digits ++ ']' :: after)), by
      rw [htype, hrest, List.append_assoc, List.append_assoc]
      rfl⟩
  rw [habsent] at hpresent
  cases hpresent

/-- A type with a byte array is that of bytes or of a number of bytes, so the only literal that
fits it is that of bytes, unless the array has at most 32 bytes. -/
theorem typeOf_mem_types_iff_of_array {c : LiteralClass} (hc : c ∈ literalClasses) {digits : Text}
    (h : FirstArray (trim type) digits) :
    typeOf type ∈ c.types ↔
      c.literal = "vec![1, 2, 3]" ∧ ∀ n, size? digits = some n → 32 < n := by
  have hsized : ∀ c ∈ literalClasses, ∀ n : Fin 33, ("bytes" ++ numeral n : Text) ∉ c.types := by
    decide
  have hbytes : ∀ c ∈ literalClasses, fallbackType ∈ c.types ↔ c.literal = "vec![1, 2, 3]" := by
    decide
  rw [typeOf_of_array h, arrayType]
  cases hsize : size? digits with
  | none => simpa using hbytes c hc
  | some n =>
    simp only
    split
    case isTrue hn =>
      refine iff_of_false (hsized c hc ⟨n, Nat.lt_succ_of_le hn⟩) fun hlong => ?_
      exact absurd (hlong.2 n rfl) (Nat.not_lt.2 hn)
    case isFalse hn => simpa [Nat.lt_of_not_le hn] using hbytes c hc

/-! ## Which literals fit -/

/-- In a type without a byte array, a literal that stands for one kind of type fits the interface
type exactly if no overruling key occurs in the type, and the literal of a string fits exactly if
the type is that of owned strings. In a type with a byte array only the literal of bytes can fit,
and does so exactly if the length of the first array is not read as a number of at most 32. -/
theorem literal_fits_iff (type : Text) :
    ((∀ digits, ¬FirstArray (trim type) digits) →
      (∀ c ∈ literalClasses, ofType type = c.literal →
        (typeOf type ∈ c.types ↔ ∀ key ∈ c.overruling, occurs key (trim type) = false)) ∧
      (ofType type = stringLiteral →
        typeOf type = if occurs "String" (trim type) then "string" else "bytes")) ∧
    ∀ digits, FirstArray (trim type) digits →
      (∀ c ∈ literalClasses, ofType type = c.literal →
        (typeOf type ∈ c.types ↔
          c.literal = "vec![1, 2, 3]" ∧ ∀ n, size? digits = some n → 32 < n)) ∧
      ofType type ≠ stringLiteral :=
  ⟨fun harray => ⟨fun _ hc h => LiteralClass.typeOf_mem_types_iff hc harray h,
      typeOf_of_stringLiteral harray⟩,
    fun _ harray => ⟨fun _ hc _ => typeOf_mem_types_iff_of_array hc harray,
      ofType_ne_stringLiteral harray⟩⟩

/-- A vector of integers, and a byte array that is too long for a type of its own. -/
theorem literal_fits_iff_vector :
    ((∀ digits, ¬FirstArray (trim "Vec<U256>") digits) ∧ ofType "Vec<U256>" = "U256::from(42)" ∧
      typeOf "Vec<U256>" ∈ (["uint256"] : List Text)) ∧
    FirstArray (trim "(Vec<u8>, [u8; 33])") "33" ∧
      ofType "(Vec<u8>, [u8; 33])" = "vec![1, 2, 3]" ∧
      typeOf "(Vec<u8>, [u8; 33])" ∈ (["bytes"] : List Text) := by
  have hnone : ∀ digits, ¬FirstArray (trim "Vec<U256>") digits :=
    arrayLength?_eq_none_iff.1 (by decide +kernel)
  have hinteger : ofType "Vec<U256>" = "U256::from(42)" := by decide +kernel
  have harray : FirstArray (trim "(Vec<u8>, [u8; 33])") "33" :=
    arrayLength?_eq_some_iff.1 (by decide +kernel)
  have hbytes : ofType "(Vec<u8>, [u8; 33])" = "vec![1, 2, 3]" := by decide +kernel
  have hsize : size? "33" = some 33 := by decide +kernel
  refine ⟨⟨hnone, hinteger, ?_⟩, harray, hbytes, ?_⟩
  · exact (((literal_fits_iff "Vec<U256>").1 hnone).1
      ⟨"U256::from(42)", ["uint256"], ["Address", "String"]⟩ (by decide) hinteger).2
        (by decide +kernel)
  · refine (((literal_fits_iff "(Vec<u8>, [u8; 33])").2 "33" harray).1
      ⟨"vec![1, 2, 3]", ["bytes"], ["Address"]⟩ (by decide) hbytes).2 ⟨rfl, fun n hn => ?_⟩
    rw [hsize, Option.some.injEq] at hn
    omega

/-- A pair of an integer and an address is an integer for its literal and an address in the
interface, and a string slice has the literal of a string but the type of bytes. -/
theorem literal_overruled :
    (ofType "(U256, Address)" = "U256::from(42)" ∧ typeOf "(U256, Address)" = "address") ∧
      ofType "&str" = stringLiteral ∧ typeOf "&str" = "bytes" := by
  decide +kernel

end DefaultValue

end StylusSurvey
