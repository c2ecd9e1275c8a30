import StylusSurvey.Abi.Token

/-!
# Encoding of arguments

A tuple of values is encoded as its heads followed by its tails. A head is one
word: the value itself, or for a dynamic value the place where its tail begins.
A tail is the length of the data and the data, filled up to whole words.
-/

namespace StylusSurvey

namespace Abi

namespace Token

/-- The word of a value that has no tail. -/
def staticWord : Token → Bytes
  | .uint value => Word.bytes value
  | .int value => Word.bytes value
  | .bool flag => wordOf flag.toNat
  | .address account => List.replicate 12 0 ++ account.toList
  | .fixedBytes data => leftAligned data
  | .bytes _ => wordOf 0
  | .string _ => wordOf 0

/-- The tail of a value: its length and its data, or nothing. -/
def tail : Token → Bytes
  | .bytes data => wordOf data.length ++ padRight data
  | .string text => wordOf (Text.byteCount text) ++ padRight (Text.bytes text)
  | _ => []

/-- The heads of the values, the first tail among them beginning at `offset`. -/
def heads (offset : Nat) : List Token → Bytes
  | [] => []
  | t :: ts =>
    (if t.isDynamic then wordOf offset else t.staticWord) ++ heads (offset + t.tail.length) ts

/-- The encoding of a tuple of values. -/
def encode (ts : List Token) : Bytes :=
  heads (ts.length * wordSize) ts ++ ts.flatMap tail

end Token

/-- The values of the named types, and the first error if one is no value. -/
def parseArgs : List (Text × Text) → Except EncodeError (List Token)
  | [] => .ok []
  | (type, value) :: args => do
    let t ← Token.parse type value
    let ts ← parseArgs args
    pure (t :: ts)

/-- The encoding of the values as a tuple of the named types. -/
def encodeArgs (types values : List Text) : Except EncodeError Bytes :=
  if types.length = values.length then do
    let ts ← parseArgs (types.zip values)
    pure (Token.encode ts)
  else .error (.arityMismatch types.length values.length)

end Abi

end StylusSurvey
