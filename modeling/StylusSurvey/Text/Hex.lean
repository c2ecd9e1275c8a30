import StylusSurvey.Text.Utf8

/-!
# Hexadecimal

Bytes written with two digits each. Writing uses small letters; reading accepts
both cases and one optional marker `0x` or `0X` in front.
-/

namespace StylusSurvey

namespace Text

/-- The digit for a value below sixteen. -/
def hexDigit (n : Nat) : Char :=
  Nat.digitChar n

/-- The value of a hexadecimal digit of either case. -/
def hexValue? (c : Char) : Option Nat :=
  if '0' ≤ c ∧ c ≤ '9' then some (c.toNat - '0'.toNat)
  else if 'a' ≤ c ∧ c ≤ 'f' then some (c.toNat - 'a'.toNat + 10)
  else if 'A' ≤ c ∧ c ≤ 'F' then some (c.toNat - 'A'.toNat + 10)
  else none

/-- The bytes with two digits each. -/
def hex (bs : Bytes) : Text :=
  bs.flatMap fun b => [hexDigit (b.toNat / 16), hexDigit (b.toNat % 16)]

/-- The bytes that an even number of digits stands for. -/
def ofHexDigits? : Text → Option Bytes
  | [] => some []
  | [_] => none
  | a :: b :: s => do
    let high ← hexValue? a
    let low ← hexValue? b
    let rest ← ofHexDigits? s
    pure (UInt8.ofNat (16 * high + low) :: rest)

/-- The text without a hexadecimal marker in front. -/
def dropHexMarker : Text → Text
  | '0' :: 'x' :: s => s
  | '0' :: 'X' :: s => s
  | s => s

/-- The bytes that a hexadecimal text, with or without marker, stands for. -/
def ofHex? (s : Text) : Option Bytes :=
  ofHexDigits? (dropHexMarker s)

/-- The bytes in hexadecimal, with marker. -/
def hexMarked (bs : Bytes) : Text :=
  '0' :: 'x' :: hex bs

end Text

end StylusSurvey
