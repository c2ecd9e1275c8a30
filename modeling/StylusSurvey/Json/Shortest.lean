import StylusSurvey.Text.Numeral

/-!
# Shortest decimals

A binary floating point number of 64 bits is `significand * 2 ^ exponent` in
whole numbers. The reals that round to it form an interval, closed if the
significand is even. It is written with the digits of the multiple of the
largest power of ten that lies in the interval; of two such multiples the nearer
is taken, and of two equally near the even one.
-/

namespace StylusSurvey

open Text

/-- The size of a floating point number: `significand * 2 ^ exponent`. -/
structure Magnitude where
  significand : Nat
  exponent : Int
deriving DecidableEq, Repr

/-- A number in decimal: `digits * 10 ^ exponent`. -/
structure Decimal where
  digits : Nat
  exponent : Int
deriving DecidableEq, Repr

namespace Magnitude

/-- The size of the finite number with the given bits. -/
def ofBits (bits : UInt64) : Magnitude :=
  let fraction : Nat := bits.toNat % Nat.pow 2 52
  let biased : Nat := bits.toNat / Nat.pow 2 52 % Nat.pow 2 11
  if biased = 0 then { significand := fraction, exponent := -1074 }
  else { significand := Nat.pow 2 52 + fraction, exponent := (biased : Int) - 1075 }

/-- `n * 2 ^ (exponent - 2)` in units of a common fraction of it and of `10 ^ grid`. -/
def quarters (m : Magnitude) (grid : Int) (n : Nat) : Nat :=
  n * Nat.pow 2 (m.exponent - 2).toNat * Nat.pow 10 (-grid).toNat

/-- `10 ^ grid` in the same units. -/
def unit (m : Magnitude) (grid : Int) : Nat :=
  Nat.pow 10 grid.toNat * Nat.pow 2 (2 - m.exponent).toNat

/-- The distance to the lower end of the interval, in quarters: it is half as large below a power
of two. -/
def below (m : Magnitude) : Nat :=
  if m.significand = Nat.pow 2 52 ∧ -1074 < m.exponent then 1 else 2

/-- The multiple `d * 10 ^ grid` rounds to the number. -/
def admits (m : Magnitude) (grid : Int) (d : Nat) : Bool :=
  let x := d * m.unit grid
  let low := m.quarters grid (4 * m.significand - m.below)
  let high := m.quarters grid (4 * m.significand + 2)
  if m.significand % 2 = 0 then decide (low ≤ x ∧ x ≤ high) else decide (low < x ∧ x < high)

/-- The multiple of `10 ^ grid` that stands for the number, if one does. -/
def onGrid? (m : Magnitude) (grid : Int) : Option Decimal :=
  let x := m.quarters grid (4 * m.significand)
  let unit := m.unit grid
  let d := x / unit
  let excess := 2 * (x % unit)
  match m.admits grid d, m.admits grid (d + 1) with
  | false, false => none
  | true, false => some ⟨d, grid⟩
  | false, true => some ⟨d + 1, grid⟩
  | true, true =>
    if excess < unit ∨ excess = unit ∧ d % 2 = 0 then some ⟨d, grid⟩ else some ⟨d + 1, grid⟩

/-- The exponents of ten from the largest that a number can need down to the smallest. -/
def grids : List Int :=
  (List.range 640).map fun n : Nat => 310 - (n : Int)

/-- The shortest decimal that rounds to the number. -/
def shortest (m : Magnitude) : Decimal :=
  (grids.findSome? m.onGrid?).getD ⟨0, 0⟩

end Magnitude

namespace Decimal

/-- The digits with a point after the first `whole` of them. -/
def withPoint (digits : Text) (whole : Nat) : Text :=
  digits.take whole ++ ['.'] ++ digits.drop whole

/-- Positional notation, with at least one digit on each side of the point. -/
def positional (digits : Text) (exponent : Int) : Text :=
  if 0 ≤ exponent then digits ++ List.replicate exponent.toNat '0' ++ ".0"
  else
    let places := (-exponent).toNat
    if places < digits.length then withPoint digits (digits.length - places)
    else "0." ++ List.replicate (places - digits.length) '0' ++ digits

/-- Scientific notation, with a sign in the exponent. -/
def scientific (digits : Text) (exponent : Int) : Text :=
  (if digits.length = 1 then digits else withPoint digits 1) ++
    ['e', if exponent < 0 then '-' else '+'] ++ numeral exponent.natAbs

/-- The decimal in positional notation from `10 ^ -5` to below `10 ^ 16`, and otherwise in
scientific notation. -/
def text (d : Decimal) : Text :=
  let digits := numeral d.digits
  let leading := d.exponent + digits.length - 1
  if -6 < leading ∧ leading < 16 then positional digits d.exponent
  else scientific digits leading

end Decimal

/-- The shortest text of the finite number with the given bits. -/
def floatText (bits : UInt64) : Text :=
  let m := Magnitude.ofBits bits
  let size : Text := if m.significand = 0 then "0.0" else m.shortest.text
  if bits.toNat < Nat.pow 2 63 then size else '-' :: size

end StylusSurvey
