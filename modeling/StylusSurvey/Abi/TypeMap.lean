import StylusSurvey.Contract.Basic
import StylusSurvey.Text.DecimalDigit
import StylusSurvey.Text.Numeral

/-!
# Interface types

The interface type of a type written in a source. The map is lexical: a type
goes by the longest key of the table that occurs in it, and a byte array by its
length before any key is looked for.
-/

namespace StylusSurvey

namespace Abi

open Text

/-- The keys and their interface types. -/
def typeTable : List (Text × Text) :=
  [("U256", "uint256"), ("U128", "uint128"), ("U64", "uint64"), ("u8", "uint8"),
    ("u16", "uint16"), ("u32", "uint32"), ("u64", "uint64"), ("bool", "bool"),
    ("Address", "address"), ("String", "string"), ("Vec<u8>", "bytes")]

/-- The type of whatever has no key. -/
def fallbackType : Text := "bytes"

/-- The digits of the length of a byte array `[u8; length]` in front of the text. -/
def arrayLengthAt? (s : Text) : Option Text := do
  let s ← after? "[u8;" s
  let s := trimStart s
  match s.takeWhile isDecimal with
  | [] => none
  | digits => do
    let _ ← after? [']'] (s.dropWhile isDecimal)
    pure digits

/-- The digits of the length of the first byte array in a type. -/
def arrayLength? (type : Text) : Option Text :=
  search arrayLengthAt? type

/-- The type of a byte array whose length has the given digits. -/
def arrayType (digits : Text) : Text :=
  match size? digits with
  | some n => if n ≤ 32 then "bytes" ++ numeral n else fallbackType
  | none => fallbackType

/-- The better of two rows: a later one only if its key is longer. -/
def longerKey (best : Option (Text × Text)) (row : Text × Text) : Option (Text × Text) :=
  match best with
  | none => some row
  | some b => if b.1.length < row.1.length then some row else some b

/-- The first row among those with the longest key that occurs in the type. -/
def bestRow? (table : List (Text × Text)) (type : Text) : Option (Text × Text) :=
  (table.filter fun row => occurs row.1 type).foldl longerKey none

/-- The interface type of a type. -/
def typeOf (type : Text) : Text :=
  let type := trim type
  match arrayLength? type with
  | some digits => arrayType digits
  | none =>
    match bestRow? typeTable type with
    | some row => row.2
    | none => fallbackType

/-- The beginning of a result type: its name, blanks or none, and the opening bracket. -/
def afterResult? (s : Text) : Option Text := do
  let s ← after? "Result" s
  after? ['<'] (trimStart s)

/-- A result without a value stands in front of the text. -/
def unitResultAt? (s : Text) : Option Unit := do
  let s ← afterResult? s
  let s ← after? "()" (trimStart s)
  let _ ← after? [','] (trimStart s)
  pure ()

/-- The shortest nonempty text on one line that a comma follows, blanks before it left out. -/
def beforeComma? : Text → Option Text
  | [] => none
  | c :: s =>
    if c = '\n' then none
    else if startsWith [','] (trimStart s) then some [c]
    else (beforeComma? s).map (c :: ·)

/-- The success type of a result in front of the text: what stands before the first comma that is
not the first character. One of the blanks before a comma counts if nothing else does. -/
def successTypeAt? (s : Text) : Option Text := do
  let s ← afterResult? s
  match beforeComma? (trimStart s) with
  | some type => some type
  | none =>
    if startsWith [','] (trimStart s) && (s.takeWhile isBlank).any (· ≠ '\n') then some [' ']
    else none

/-- The single output of a function that returns the type. -/
def valueOutput (type : Text) : List Param :=
  [{ name := "value", type := typeOf type }]

/-- The outputs of a function with the return type: none for a unit, and the success type of a
result. -/
def outputsOf (returnType : Text) : List Param :=
  let type := trim returnType
  if (search unitResultAt? type).isSome then []
  else
    match search successTypeAt? type with
    | some success => valueOutput success
    | none => if type = "()" ∨ type = [] then [] else valueOutput type

end Abi

end StylusSurvey
