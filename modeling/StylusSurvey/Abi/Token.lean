import StylusSurvey.Abi.Word
import StylusSurvey.Text.Hex
import StylusSurvey.Text.Numeral

/-!
# Tokens

The typed values that a call can carry, and how they are read from text. Only
elementary types are supported. Integers are read exactly: a numeral outside
the range of its type is refused and never wrapped.
-/

namespace StylusSurvey

namespace Abi

open Text

/-- An elementary type. -/
inductive ElementaryType where
  | uint (bits : Nat)
  | int (bits : Nat)
  | address
  | bool
  | fixedBytes (size : Nat)
  | bytes
  | string
deriving DecidableEq, Repr

/-- A typed value. An `int` is held in two's complement. -/
inductive Token where
  | uint (value : Word)
  | int (value : Word)
  | address (bytes : Vector UInt8 20)
  | bool (flag : Bool)
  | fixedBytes (data : Bytes)
  | bytes (data : Bytes)
  | string (text : Text)
deriving DecidableEq, Repr

/-- Why arguments cannot be encoded. -/
inductive EncodeError where
  | unsupportedType (type : Text)
  | invalidValue (type value : Text)
  | outOfRange (type value : Text)
  | arityMismatch (expected actual : Nat)
deriving DecidableEq, Repr

/-- The message of an encoding error. -/
def EncodeError.message : EncodeError → Text
  | .unsupportedType type => "unsupported ABI type `" ++ type ++ "`"
  | .invalidValue type value => "invalid " ++ type ++ " value `" ++ value ++ "`"
  | .outOfRange type value => "value `" ++ value ++ "` does not fit in " ++ type
  | .arityMismatch expected actual =>
    "expected " ++ numeral expected ++ " values, got " ++ numeral actual

namespace ElementaryType

/-- The bits of an integer type whose name ends so: a multiple of eight up to 256, and 256 where
nothing is written. -/
def bitsOf? (suffix : Text) : Option Nat :=
  if suffix = [] then some 256
  else (size? suffix).filter fun bits => 8 ≤ bits ∧ bits ≤ 256 ∧ bits % 8 = 0

/-- The size of a byte string type whose name ends so. -/
def byteSizeOf? (suffix : Text) : Option Nat :=
  (size? suffix).filter fun size => 1 ≤ size ∧ size ≤ wordSize

/-- The type of a name. -/
def ofName? (name : Text) : Option ElementaryType :=
  if name = "string" then some string
  else if name = "address" then some address
  else if name = "bool" then some bool
  else if name = "bytes" then some bytes
  else
    match after? "uint" name, after? "int" name, after? "bytes" name with
    | some suffix, _, _ => (bitsOf? suffix).map uint
    | _, some suffix, _ => (bitsOf? suffix).map int
    | _, _, some suffix => (byteSizeOf? suffix).map fixedBytes
    | none, none, none => none

end ElementaryType

namespace Token

/-- The number of a decimal numeral that fits in a word. -/
def decimal (type digits : Text) : Except EncodeError Nat :=
  match ofNumeral? digits with
  | none => .error (.invalidValue type digits)
  | some n => if n < Nat.pow 2 256 then .ok n else .error (.outOfRange type digits)

/-- An unsigned integer of the given number of bits. -/
def parseUint (type : Text) (bits : Nat) (value : Text) : Except EncodeError Token := do
  let n ← decimal type value
  if n < Nat.pow 2 bits then pure (uint (BitVec.ofNat 256 n)) else throw (.outOfRange type value)

/-- A signed integer of the given number of bits. -/
def parseInt (type : Text) (bits : Nat) (value : Text) : Except EncodeError Token :=
  match value with
  | '-' :: digits => do
    let n ← decimal type digits
    if n ≤ Nat.pow 2 (bits - 1) then pure (int (BitVec.ofInt 256 (-n)))
    else throw (.outOfRange type value)
  | _ => do
    let n ← decimal type value
    if n < Nat.pow 2 (bits - 1) then pure (int (BitVec.ofNat 256 n))
    else throw (.outOfRange type value)

/-- The bytes of a hexadecimal value. -/
def parseHex (type raw : Text) : Except EncodeError Bytes :=
  match ofHex? (trim raw) with
  | some bs => .ok bs
  | none => .error (.invalidValue type raw)

/-- A value of the type `t`, whose name is `type`. Blanks around the value do not count, except
in a string. -/
def ofType (t : ElementaryType) (type raw : Text) : Except EncodeError Token :=
  match t with
  | .string => .ok (string raw)
  | .address => do
    let bs ← parseHex type raw
    if h : bs.length = 20 then pure (address ⟨bs.toArray, by simpa using h⟩)
    else throw (.invalidValue type raw)
  | .bool =>
    let value := trim raw
    if value = "true" ∨ value = "1" then .ok (bool true)
    else if value = "false" ∨ value = "0" then .ok (bool false)
    else .error (.invalidValue type raw)
  | .bytes => do
    let bs ← parseHex type raw
    pure (bytes bs)
  | .fixedBytes size => do
    let bs ← parseHex type raw
    if bs.length = size then pure (fixedBytes bs) else throw (.invalidValue type raw)
  | .uint bits => parseUint type bits (trim raw)
  | .int bits => parseInt type bits (trim raw)

/-- A value of the named type. Blanks around the name do not count. -/
def parse (type raw : Text) : Except EncodeError Token :=
  match ElementaryType.ofName? (trim type) with
  | some t => ofType t (trim type) raw
  | none => .error (.unsupportedType (trim type))

/-- The value is stored behind the heads. -/
def isDynamic : Token → Bool
  | bytes _ => true
  | string _ => true
  | _ => false

end Token

end Abi

end StylusSurvey
