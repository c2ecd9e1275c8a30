import StylusSurvey.Json.Reader.Basic
import StylusSurvey.Text.Numeral

/-!
# Numbers

A number without fraction and exponent is an integer if it fits in 64 bits. Any
other number is a floating point number: its significand is the number that the
leading digits stand for as far as they fit in 64 bits, and it is scaled by a
power of ten in floating point arithmetic. A negative zero is a floating point
number.
-/

namespace StylusSurvey

namespace Json

open Text

/-- The number that the digits in front stand for, following the digits of `n`, as long as it is
at most `limit`; and the rest. -/
def gather (limit n : Nat) : Text → Nat × Text
  | [] => (n, [])
  | c :: s =>
    if c.isDigit && 10 * n + digitValue c ≤ limit then gather limit (10 * n + digitValue c) s
    else (n, c :: s)

/-- The text begins with a digit. -/
def startsDigit (s : Text) : Bool :=
  match s with
  | [] => false
  | c :: _ => c.isDigit

/-- The text begins with the mark of an exponent. -/
def startsExponent (s : Text) : Bool :=
  match s with
  | [] => false
  | c :: _ => c = 'e' || c = 'E'

/-- A power of ten up to the largest that is finite. -/
def powerOfTen (k : Nat) : Float :=
  Float.ofScientific 1 false k

/-- The significand times a power of ten, unless that is too large. -/
def scaleUp? (significand k : Nat) : Option Float :=
  let x := (UInt64.ofNat significand).toFloat
  if 308 < k then if significand = 0 then some x else none
  else
    let y := x * powerOfTen k
    if y.isInf then none else some y

/-- The significand divided by a power of ten, at most `10 ^ 308` at a time. Two full steps leave
nothing. -/
def scaleDown (significand k : Nat) : Float :=
  let x := (UInt64.ofNat significand).toFloat
  if k ≤ 308 then x / powerOfTen k
  else if k ≤ 616 then x / powerOfTen 308 / powerOfTen (k - 308)
  else 0.0

/-- The significand times a power of ten, unless that is too large. -/
def scale? (significand : Nat) (exponent : Int) : Option Float :=
  if 0 ≤ exponent then scaleUp? significand exponent.toNat
  else some (scaleDown significand (-exponent).toNat)

/-- The floating point number of a sign and a size. -/
def signed (positive : Bool) (size : Float) : Number :=
  .float (if positive then size else -size).toBits

/-- A number of a sign, a significand and a power of ten, read up to the given rest. -/
def scaled (positive : Bool) (significand : Nat) (exponent : Int) (rest : Text) :
    Except Failure (Number × Text) :=
  match scale? significand exponent with
  | some size => .ok (signed positive size, rest)
  | none => .error (.before .numberOutOfRange rest)

/-- The sign of an exponent, positive where there is none. -/
def exponentSign : Text → Bool × Text
  | '+' :: s => (true, s)
  | '-' :: s => (false, s)
  | s => (true, s)

/-- The largest exponent that is read. -/
def exponentLimit : Nat :=
  Nat.pow 2 31 - 1

/-- A number whose exponent begins behind its mark. -/
def exponentPart (positive : Bool) (significand : Nat) (exponent : Int) (s : Text) :
    Except Failure (Number × Text) :=
  let (up, s) := exponentSign s
  if s.isEmpty then .error (.before .endInValue s)
  else if !startsDigit s then .error (.at .invalidNumber s)
  else
    let (n, rest) := gather exponentLimit 0 s
    if startsDigit rest then
      if up && significand ≠ 0 then .error (.before .numberOutOfRange rest.tail)
      else .ok (signed positive 0.0, rest.dropWhile Char.isDigit)
    else scaled positive significand (if up then exponent + n else exponent - n) rest

/-- A number from the end of its digits on. -/
def afterDigits (positive : Bool) (significand : Nat) (exponent : Int) (s : Text) :
    Except Failure (Number × Text) :=
  if startsExponent s then exponentPart positive significand exponent s.tail
  else scaled positive significand exponent s

/-- A number whose fraction begins behind its point. Digits that do not fit are dropped. -/
def fractionPart (positive : Bool) (significand : Nat) (exponent : Int) (s : Text) :
    Except Failure (Number × Text) :=
  if s.isEmpty then .error (.at .endInValue s)
  else if !startsDigit s then .error (.at .invalidNumber s)
  else
    let (n, rest) := gather maxSize significand s
    let places : Nat := s.length - rest.length
    afterDigits positive n (exponent - places) (rest.dropWhile Char.isDigit)

/-- The integer of a sign and a size of 64 bits. -/
def integer (positive : Bool) (n : Nat) : Number :=
  if positive then .natural n
  else
    match n with
    | 0 => signed false 0.0
    | k + 1 => if k < Nat.pow 2 63 then .negative k else signed false (UInt64.ofNat n).toFloat

/-- A number from the end of its whole part on. -/
def afterWhole (positive : Bool) (significand : Nat) (s : Text) :
    Except Failure (Number × Text) :=
  match s with
  | '.' :: t => fractionPart positive significand 0 t
  | _ =>
    if startsExponent s then exponentPart positive significand 0 s.tail
    else .ok (integer positive significand, s)

/-- A number whose whole part does not fit: the digits that are left only count. -/
def longNumber (positive : Bool) (significand : Nat) (s : Text) :
    Except Failure (Number × Text) :=
  let dropped : Nat := (s.takeWhile Char.isDigit).length
  match s.dropWhile Char.isDigit with
  | '.' :: t => fractionPart positive significand dropped t
  | rest => afterDigits positive significand dropped rest

/-- A number behind its sign. -/
def numberBody (positive : Bool) (s : Text) : Except Failure (Number × Text) :=
  match s with
  | [] => .error (.before .endInValue s)
  | c :: t =>
    if c = '0' then
      if startsDigit t then .error (.at .invalidNumber t) else afterWhole positive 0 t
    else if c.isDigit then
      let (n, rest) := gather maxSize 0 s
      if startsDigit rest then longNumber positive n rest else afterWhole positive n rest
    else .error (.at .invalidNumber s)

/-- Where a number that nobody asks for ends, from its exponent on. -/
def skipExponent (s : Text) : Except Failure Text :=
  if startsExponent s then
    let (_, t) := exponentSign s.tail
    if startsDigit t then .ok (t.dropWhile Char.isDigit) else .error (.at .invalidNumber t)
  else .ok s

/-- Where a number that nobody asks for ends, from its fraction on. -/
def skipFraction (s : Text) : Except Failure Text :=
  match s with
  | '.' :: t =>
    if startsDigit t then skipExponent (t.dropWhile Char.isDigit)
    else .error (.at .invalidNumber t)
  | _ => skipExponent s

/-- Where a number that nobody asks for ends, behind its sign. -/
def skipNumberBody (s : Text) : Except Failure Text :=
  match s with
  | [] => .error (.before .invalidNumber s)
  | c :: t =>
    if c = '0' then
      if startsDigit t then .error (.at .invalidNumber t) else skipFraction t
    else if c.isDigit then skipFraction (t.dropWhile Char.isDigit)
    else .error (.at .invalidNumber s)

namespace Reader

/-- Read a number. -/
def number : Reader Number :=
  fun s =>
    match s with
    | '-' :: t => numberBody false t
    | _ => numberBody true s

/-- Pass over a number. -/
def skipNumber : Reader Unit :=
  fun s =>
    match s with
    | '-' :: t => (skipNumberBody t).map fun rest => ((), rest)
    | _ => (skipNumberBody s).map fun rest => ((), rest)

end Reader

end Json

end StylusSurvey
