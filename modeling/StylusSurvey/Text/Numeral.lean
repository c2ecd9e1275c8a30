import StylusSurvey.Text.Basic

/-!
# Numerals

Natural numbers written in decimal with ASCII digits. `numeral` writes without
leading zeros; `ofNumeral?` reads any nonempty run of digits.
-/

namespace StylusSurvey

namespace Text

/-- The value of an ASCII digit. -/
def digitValue (c : Char) : Nat :=
  c.toNat - '0'.toNat

/-- The value of a run of ASCII digits. -/
def valueOfDigits (s : Text) : Nat :=
  s.foldl (fun n c => 10 * n + digitValue c) 0

/-- The text is a nonempty run of ASCII digits. -/
def isNumeral (s : Text) : Bool :=
  !s.isEmpty && s.all Char.isDigit

/-- The number that a nonempty run of ASCII digits stands for. -/
def ofNumeral? (s : Text) : Option Nat :=
  if isNumeral s then some (valueOfDigits s) else none

/-- The number in decimal, without leading zeros. -/
def numeral (n : Nat) : Text :=
  Nat.toDigits 10 n

/-- The largest number of 64 bits. -/
def maxSize : Nat :=
  Nat.pow 2 64 - 1

/-- A size: a numeral, after an optional plus sign, of a number of at most 64 bits. -/
def size? (s : Text) : Option Nat :=
  match s with
  | '+' :: t => (ofNumeral? t).filter (· ≤ maxSize)
  | _ => (ofNumeral? s).filter (· ≤ maxSize)

end Text

end StylusSurvey
