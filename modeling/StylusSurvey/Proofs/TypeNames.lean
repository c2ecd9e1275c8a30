import StylusSurvey.Proofs.Decoding
import StylusSurvey.Proofs.Numerals

/-!
# Names of elementary types

The name of an elementary type is a key word, and for integers and fixed bytes the width or the
size behind it (`ElementaryType.name`). The key words do not begin one another, so the suffix
is told from the key word and read back, and a type is found by its name (`ofName?_of_names`).
The integer types of a whole word have a second name, the key word alone.
-/

namespace StylusSurvey

namespace Abi

namespace ElementaryType

open Text

variable {e : ElementaryType} {s suffix : Text} {bits size : Nat}

/-- The name of the type, with its bits or bytes in decimal. -/
def name : ElementaryType → Text
  | uint bits => "uint" ++ numeral bits
  | int bits => "int" ++ numeral bits
  | address => "address"
  | bool => "bool"
  | fixedBytes size => "bytes" ++ numeral size
  | bytes => "bytes"
  | string => "string"

/-- The text names the type. An integer type of a whole word has a name without bits, too. -/
inductive Names : Text → ElementaryType → Prop
  | full (e : ElementaryType) : Names e.name e
  | bareUint : Names "uint" (.uint 256)
  | bareInt : Names "int" (.int 256)

/-- A size is read back from its numeral. -/
theorem size?_numeral {n : Nat} (h : n ≤ maxSize) : size? (numeral n) = some n := by
  have hplus : '+' ∉ numeral n := not_mem_numeral rfl n
  rw [size?.eq_def]
  split
  case h_1 t ht => exact absurd (ht ▸ List.mem_cons_self) hplus
  case h_2 => rw [ofNumeral?_numeral, Option.filter_some, if_pos (decide_eq_true h)]

theorem bitsOf?_numeral (h : 8 ≤ bits ∧ bits ≤ 256 ∧ bits % 8 = 0) :
    bitsOf? (numeral bits) = some bits := by
  have hne : numeral bits ≠ [] := (isNumeral_iff.1 (isNumeral_numeral bits)).1
  have hmax : bits ≤ maxSize := h.2.1.trans (by decide)
  rw [bitsOf?, if_neg hne, size?_numeral hmax, Option.filter_some, if_pos (decide_eq_true h)]

theorem byteSizeOf?_numeral (h : 1 ≤ size ∧ size ≤ wordSize) :
    byteSizeOf? (numeral size) = some size := by
  have hmax : size ≤ maxSize := h.2.trans (by decide)
  rw [byteSizeOf?, size?_numeral hmax, Option.filter_some, if_pos (decide_eq_true h)]

/-! The key words differ in a letter, so the suffix does not matter for which of them is found. -/

theorem ofName?_uint_append : ofName? ("uint" ++ suffix) = (bitsOf? suffix).map uint := rfl

theorem ofName?_int_append : ofName? ("int" ++ suffix) = (bitsOf? suffix).map int := rfl

theorem ofName?_bytes_append (h : suffix ≠ []) :
    ofName? ("bytes" ++ suffix) = (byteSizeOf? suffix).map fixedBytes := by
  obtain ⟨c, suffix, rfl⟩ := List.exists_cons_of_ne_nil h
  rfl

/-- A type is found by each of its names. -/
theorem ofName?_of_names (h : Names s e) (he : e.WellFormed) : ofName? s = some e := by
  cases h with
  | full e =>
    cases e with
    | uint bits =>
      change ofName? ("uint" ++ numeral bits) = some (uint bits)
      rw [ofName?_uint_append, bitsOf?_numeral he, Option.map_some]
    | int bits =>
      change ofName? ("int" ++ numeral bits) = some (int bits)
      rw [ofName?_int_append, bitsOf?_numeral he, Option.map_some]
    | fixedBytes size =>
      have hne : numeral size ≠ [] := (isNumeral_iff.1 (isNumeral_numeral size)).1
      change ofName? ("bytes" ++ numeral size) = some (fixedBytes size)
      rw [ofName?_bytes_append hne, byteSizeOf?_numeral he, Option.map_some]
    | address | bool | bytes | string => rfl
  | bareUint => rfl
  | bareInt => rfl

/-- There are no blanks in the name of a type. -/
theorem trim_of_names (h : Names s e) : trim s = s := by
  have htrim (key : Text) (n : Nat) (hkey : key.all isWord = true) :
      trim (key ++ numeral n) = key ++ numeral n := by
    refine trim_of_forall_not_blank fun c hc => isBlank_eq_false_of_isWord ?_
    rcases List.mem_append.1 hc with hc | hc
    · exact List.all_eq_true.1 hkey c hc
    · exact isWord_of_isDigit (isDigit_of_mem_numeral hc)
  cases h with
  | full e =>
    cases e with
    | uint bits => exact htrim "uint" bits (by decide)
    | int bits => exact htrim "int" bits (by decide)
    | fixedBytes size => exact htrim "bytes" size (by decide)
    | address | bool | bytes | string => rfl
  | bareUint => rfl
  | bareInt => rfl

end ElementaryType

end Abi

end StylusSurvey
