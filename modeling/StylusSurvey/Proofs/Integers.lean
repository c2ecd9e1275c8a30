import StylusSurvey.Proofs.TypeNames
import StylusSurvey.Proofs.Values

/-!
# Integers are read exactly

A value of an integer type is the numeral of a number, and the number is in the range of the
type or it is not. `ReadsUint` and `ReadsInt` say for each of the cases what is made of the
value: the word of the number, or an error with the part of the text that is at fault. The
cases are all there are, and they exclude one another, so that what they say is what is read
(`parseUint_eq_iff`, `parseInt_eq_iff`). No word stands for a number other than the one that is
written, however long the numeral is.
-/

namespace StylusSurvey

namespace Abi

namespace Token

open Text

variable {type raw s t : Text} {bits n : Nat} {v : Int} {r : Except EncodeError Token}

/-! ## Numbers that fit in a word -/

theorem decimal_of_lt (h : Denotes s n) (hn : n < 2 ^ 256) : decimal type s = .ok n := by
  rw [decimal, ofNumeral?_eq_some_iff.2 h]
  exact if_pos hn

theorem decimal_of_le (h : Denotes s n) (hn : 2 ^ 256 ≤ n) :
    decimal type s = .error (.outOfRange type s) := by
  rw [decimal, ofNumeral?_eq_some_iff.2 h]
  exact if_neg (Nat.not_lt.2 hn)

/-- A text with anything else in it, or without a digit, is no value. -/
theorem decimal_of_not_digits (h : s = [] ∨ ∃ c ∈ s, c.isDigit = false) :
    decimal type s = .error (.invalidValue type s) := by
  rw [decimal, ofNumeral?_eq_none_iff.2 h]

/-! ## Unsigned integers -/

/-- What becomes of a value of an unsigned integer type of that many bits. -/
inductive ReadsUint (bits : Nat) (type s : Text) : Except EncodeError Token → Prop
  | within {n : Nat} {w : Word} (hs : Denotes s n) (hn : n < 2 ^ bits) (hw : w.toNat = n) :
      ReadsUint bits type s (.ok (.uint w))
  | notDigits (hs : s = [] ∨ ∃ c ∈ s, c.isDigit = false) :
      ReadsUint bits type s (.error (.invalidValue type s))
  | outside {n : Nat} (hs : Denotes s n) (hn : 2 ^ bits ≤ n) :
      ReadsUint bits type s (.error (.outOfRange type s))

/-- Every text is read for an unsigned type with some result. -/
theorem exists_readsUint (type s : Text) (hbits : bits ≤ 256) : ∃ r, ReadsUint bits type s r := by
  cases hs : ofNumeral? s with
  | none => exact ⟨_, .notDigits (ofNumeral?_eq_none_iff.1 hs)⟩
  | some n =>
    have hs := ofNumeral?_eq_some_iff.1 hs
    by_cases hn : n < 2 ^ bits
    · have hpow : 2 ^ bits ≤ 2 ^ 256 := Nat.pow_le_pow_right (by decide) hbits
      have hw : (BitVec.ofNat 256 n).toNat = n := by
        rw [BitVec.toNat_ofNat, Nat.mod_eq_of_lt (hn.trans_le hpow)]
      exact ⟨_, .within hs hn hw⟩
    · exact ⟨_, .outside hs (Nat.not_lt.1 hn)⟩

/-- A number is read for an unsigned type if it has no more bits than the type. -/
theorem parseUint_of_denotes (hs : Denotes s n) (hbits : bits ≤ 256) :
    parseUint type bits s =
      if n < 2 ^ bits then .ok (.uint (BitVec.ofNat 256 n)) else .error (.outOfRange type s) := by
  by_cases hlt : n < 2 ^ 256
  · rw [parseUint, decimal_of_lt hs hlt]
    rfl
  · have hpow : 2 ^ bits ≤ 2 ^ 256 := Nat.pow_le_pow_right (by decide) hbits
    rw [parseUint, decimal_of_le hs (Nat.not_lt.1 hlt), if_neg (by omega)]
    rfl

/-- The reader gives the result that the relation allows. -/
theorem ReadsUint.parseUint_eq (h : ReadsUint bits type s r) (hbits : bits ≤ 256) :
    parseUint type bits s = r := by
  cases h with
  | @within n w hs hn hw =>
    have hword : BitVec.ofNat 256 n = w := by rw [← hw, BitVec.ofNat_toNat, BitVec.setWidth_eq]
    rw [parseUint_of_denotes hs hbits, if_pos hn, hword]
  | notDigits hs =>
    rw [parseUint, decimal_of_not_digits hs]
    rfl
  | outside hs hn => rw [parseUint_of_denotes hs hbits, if_neg (Nat.not_lt.2 hn)]

/-- The reader of unsigned types gives exactly the results that the relation allows. -/
theorem parseUint_eq_iff (hbits : bits ≤ 256) :
    parseUint type bits s = r ↔ ReadsUint bits type s r := by
  constructor
  · rintro rfl
    obtain ⟨r, h⟩ := exists_readsUint type s hbits
    rwa [h.parseUint_eq hbits]
  · exact fun h => h.parseUint_eq hbits

/-! ## Signed integers -/

/-- What becomes of a value of a signed integer type of that many bits. A magnitude that does not
even fit in a word is reported without its sign. -/
inductive ReadsInt (bits : Nat) (type s : Text) : Except EncodeError Token → Prop
  | within {v : Int} {w : Word} (hs : DenotesInt s v) (hlow : -2 ^ (bits - 1) ≤ v)
      (hhigh : v < 2 ^ (bits - 1)) (hmod : (w.toNat : Int) = v % 2 ^ 256) (hw : w.toInt = v) :
      ReadsInt bits type s (.ok (.int w))
  | notDigits (hs : dropSign s = [] ∨ ∃ c ∈ dropSign s, c.isDigit = false) :
      ReadsInt bits type s (.error (.invalidValue type (dropSign s)))
  | outside {v : Int} (hs : DenotesInt s v) (hv : v < -2 ^ (bits - 1) ∨ 2 ^ (bits - 1) ≤ v) :
      ReadsInt bits type s
        (.error (.outOfRange type (if v ≤ -2 ^ 256 then dropSign s else s)))

/-- A word and the integer that it stands for in two's complement differ by a multiple of
`2 ^ 256`. -/
theorem toNat_eq_toInt_emod (w : Word) : (w.toNat : Int) = w.toInt % 2 ^ 256 := by
  have hw := w.isLt
  rw [BitVec.toInt_eq_toNat_cond]
  split <;> omega

theorem exists_readsInt (type s : Text) (hbits : bits ≤ 256) : ∃ r, ReadsInt bits type s r := by
  cases hs : ofNumeral? (dropSign s) with
  | none => exact ⟨_, .notDigits (ofNumeral?_eq_none_iff.1 hs)⟩
  | some n =>
    obtain ⟨v, hv⟩ := exists_denotesInt (ofNumeral?_eq_some_iff.1 hs)
    by_cases hrange : -2 ^ (bits - 1) ≤ v ∧ v < 2 ^ (bits - 1)
    · obtain ⟨hlow, hhigh⟩ := hrange
      have hw := toInt_ofInt_of_le hbits hlow hhigh
      have hmod := toNat_eq_toInt_emod (BitVec.ofInt 256 v)
      rw [hw] at hmod
      exact ⟨_, .within hv hlow hhigh hmod hw⟩
    · exact ⟨_, .outside hv (by omega)⟩

/-- A value without a sign is read as it is. -/
theorem parseInt_of_plain (h : dropSign s = s) : parseInt type bits s = (do
    let n ← decimal type s
    if n < Nat.pow 2 (bits - 1) then pure (.int (BitVec.ofNat 256 n))
    else throw (.outOfRange type s)) := by
  rw [parseInt.eq_def]
  split
  case h_1 t => exact absurd (congrArg List.length h) (by simp [dropSign])
  case h_2 => rfl

/-- What is no digits behind a sign is no value, and is reported without the sign. -/
theorem parseInt_of_not_digits (h : dropSign s = [] ∨ ∃ c ∈ dropSign s, c.isDigit = false) :
    parseInt type bits s = .error (.invalidValue type (dropSign s)) := by
  rcases dropSign_cases s with hplain | ⟨t, rfl⟩
  · rw [parseInt_of_plain hplain, hplain, decimal_of_not_digits (hplain ▸ h)]
    rfl
  · change t = [] ∨ ∃ c ∈ t, c.isDigit = false at h
    rw [parseInt, decimal_of_not_digits h]
    rfl

/-- A number is read for a signed type if it leaves a bit of the type for the sign. -/
theorem parseInt_of_denotes (hs : Denotes s n) (hbits : bits ≤ 256) :
    parseInt type bits s = if n < 2 ^ (bits - 1) then .ok (.int (BitVec.ofNat 256 n))
      else .error (.outOfRange type s) := by
  rw [parseInt_of_plain (dropSign_of_isNumeral hs.isNumeral)]
  by_cases hlt : n < 2 ^ 256
  · rw [decimal_of_lt hs hlt]
    rfl
  · have hpow : 2 ^ (bits - 1) ≤ 2 ^ 256 := Nat.pow_le_pow_right (by decide) (by omega)
    rw [decimal_of_le hs (Nat.not_lt.1 hlt), if_neg (by omega)]
    rfl

/-- A negative number may be as large as the number of the sign bit. -/
theorem parseInt_minus_of_denotes (hs : Denotes s n) (hbits : bits ≤ 256) :
    parseInt type bits ('-' :: s) =
      if n ≤ 2 ^ (bits - 1) then .ok (.int (BitVec.ofInt 256 (-n)))
      else .error (.outOfRange type (if 2 ^ 256 ≤ n then s else '-' :: s)) := by
  rw [parseInt]
  by_cases hlt : n < 2 ^ 256
  · rw [decimal_of_lt hs hlt, if_neg (Nat.not_le.2 hlt)]
    rfl
  · have hpow : 2 ^ (bits - 1) ≤ 2 ^ 255 := Nat.pow_le_pow_right (by decide) (by omega)
    rw [decimal_of_le hs (Nat.not_lt.1 hlt), if_neg (by omega), if_pos (Nat.not_lt.1 hlt)]
    rfl

theorem ReadsInt.parseInt_eq (h : ReadsInt bits type s r) (hbits : bits ≤ 256) :
    parseInt type bits s = r := by
  have hpos : (0 : Int) < 2 ^ (bits - 1) := pow_pos (by decide) _
  cases h with
  | @within v w hs hlow hhigh hmod hw =>
    have hword : BitVec.ofInt 256 v = w :=
      BitVec.eq_of_toInt_eq ((toInt_ofInt_of_le hbits hlow hhigh).trans hw.symm)
    cases hs with
    | plain hs =>
      rw [parseInt_of_denotes hs hbits, if_pos (by exact_mod_cast hhigh), ← hword,
        BitVec.ofInt_natCast]
    | minus hs =>
      have hn := Int.neg_le_neg_iff.1 hlow
      rw [parseInt_minus_of_denotes hs hbits, if_pos (by exact_mod_cast hn), hword]
  | notDigits hs => exact parseInt_of_not_digits hs
  | @outside v hs hv =>
    cases hs with
    | @plain s n hs =>
      have hn : (2 : Int) ^ (bits - 1) ≤ n := by omega
      have hn : ¬n < 2 ^ (bits - 1) := Nat.not_lt.2 (by exact_mod_cast hn)
      rw [parseInt_of_denotes hs hbits, if_neg hn, if_neg (by omega)]
    | @minus s n hs =>
      have hn : (2 : Int) ^ (bits - 1) < n := by omega
      have hn : ¬n ≤ 2 ^ (bits - 1) := Nat.not_le.2 (by exact_mod_cast hn)
      have hword : 2 ^ 256 ≤ n ↔ -(n : Int) ≤ -2 ^ 256 := by omega
      rw [parseInt_minus_of_denotes hs hbits, if_neg hn]
      simp only [hword, dropSign]

/-- The reader of signed types gives exactly the results that the relation allows. -/
theorem parseInt_eq_iff (hbits : bits ≤ 256) :
    parseInt type bits s = r ↔ ReadsInt bits type s r := by
  constructor
  · rintro rfl
    obtain ⟨r, h⟩ := exists_readsInt type s hbits
    rwa [h.parseInt_eq hbits]
  · exact fun h => h.parseInt_eq hbits

/-! ## Integers of named types -/

theorem parse_of_names {e : ElementaryType} (hname : e.Names (trim type)) (he : e.WellFormed) :
    parse type raw = ofType e (trim type) raw := by
  rw [parse, ElementaryType.ofName?_of_names hname he]

/-- Integers are read exactly and never wrapped, whatever the width of the type and the length of
the numeral. -/
theorem parse_integer (hbits : 8 ≤ bits ∧ bits ≤ 256 ∧ bits % 8 = 0) :
    ((ElementaryType.uint bits).Names (trim type) →
      (parse type raw = r ↔ ReadsUint bits (trim type) (trim raw) r)) ∧
    ((ElementaryType.int bits).Names (trim type) →
      (parse type raw = r ↔ ReadsInt bits (trim type) (trim raw) r)) := by
  constructor
  · intro hname
    rw [parse_of_names hname hbits]
    exact parseUint_eq_iff hbits.2.1
  · intro hname
    rw [parse_of_names hname hbits]
    exact parseInt_eq_iff hbits.2.1

/-- The ends of the ranges of eight bits and of a word, and the numbers next to them. -/
theorem parse_integer_of_byte :
    parse "uint8" " 0255 " = .ok (.uint 255) ∧
      parse "uint8" "256" = .error (.outOfRange "uint8" "256") ∧
      parse "uint" (numeral (2 ^ 256)) = .error (.outOfRange "uint" (numeral (2 ^ 256))) ∧
      parse "int8" "-128" = .ok (.int (BitVec.ofInt 256 (-128))) ∧
      parse "int8" "-129" = .error (.outOfRange "int8" "-129") ∧
      parse "int8" "- 5" = .error (.invalidValue "int8" " 5") := by
  have huint : (ElementaryType.uint 8).Names (trim "uint8") := .full (.uint 8)
  have hword : (ElementaryType.uint 256).Names (trim "uint") := .bareUint
  have hint : (ElementaryType.int 8).Names (trim "int8") := .full (.int 8)
  refine ⟨?_, ?_, ?_, ?_, ?_, ?_⟩
  · exact ((parse_integer (by decide)).1 huint).2 (.within (n := 255) ⟨1, rfl⟩ (by decide) rfl)
  · exact ((parse_integer (by decide)).1 huint).2 (.outside (n := 256) ⟨0, rfl⟩ (by decide))
  · refine ((parse_integer (by decide)).1 hword).2 ?_
    rw [trim_of_isNumeral (isNumeral_numeral _)]
    exact .outside (denotes_numeral _) le_rfl
  · exact ((parse_integer (by decide)).2 hint).2
      (.within (.minus (n := 128) ⟨0, rfl⟩) (by decide) (by decide) (by decide) (by decide))
  · exact ((parse_integer (by decide)).2 hint).2
      (.outside (.minus (n := 129) ⟨0, rfl⟩) (by decide))
  · exact ((parse_integer (by decide)).2 hint).2 (.notDigits (.inr ⟨' ', by decide, rfl⟩))

end Token

end Abi

end StylusSurvey
