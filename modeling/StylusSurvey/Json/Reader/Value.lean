import StylusSurvey.Json.Reader.Number
import StylusSurvey.Json.Reader.Sequence

/-!
# Values

Any JSON value. Arrays and objects may be nested to a fixed depth. The members
of an object are put in the order of their keys, and of several with one key the
last counts.
-/

namespace StylusSurvey

namespace Json

/-- How deep arrays and objects may be nested. -/
def maxDepth : Nat := 127

namespace Reader

/-- Read the rest of a word, which stands for the value. -/
def word (rest : Text) (v : Json) : Reader Json := do
  skip
  ident rest
  pure v

/-- Read a value in which arrays and objects are nested at most to the given depth. -/
def value (depth : Nat) : Reader Json := do
  match ← peekToken with
  | none => failAt .endInValue
  | some c =>
    if c = 'n' then word "ull" .null
    else if c = 't' then word "rue" (.bool true)
    else if c = 'f' then word "alse" (.bool false)
    else if c = '-' ∨ c.isDigit then do
      let n ← number
      pure (.number n)
    else if c = '"' then do
      skip
      let s ← literal
      pure (.string s)
    else if c = '[' then
      match depth with
      | 0 => failAt .nestedTooDeep
      | depth + 1 => do
        skip
        let vs ← itemsToEnd (value depth)
        closeArray
        pure (.array vs)
    else if c = '{' then
      match depth with
      | 0 => failAt .nestedTooDeep
      | depth + 1 => do
        skip
        let ms ← membersToEnd (member (value depth)) []
        closeObject
        pure (.object ms)
    else failAt .expectedValue
where
  /-- Read a value behind its key, and put it among the members known. -/
  member (v : Reader Json) (known : List (Text × Json)) (name : Text) :
      Reader (List (Text × Json)) := do
    colon
    let v ← v
    pure (insertMember name v known)

/-- What encloses a value that nobody asks for. -/
inductive Bracket where
  | array
  | object
deriving DecidableEq, Repr

/-- The character that closes it. -/
def Bracket.closing : Bracket → Char
  | .array => ']'
  | .object => '}'

/-- Why it may not end with the text. -/
def Bracket.unclosed : Bracket → Cause
  | .array => .endInList
  | .object => .endInObject

/-- What is missing where neither a comma nor the end follows. -/
def Bracket.unfinished : Bracket → Cause
  | .array => .expectedCommaOrBracket
  | .object => .expectedCommaOrBrace

/-- Pass over what precedes a value inside a bracket. -/
def skipKey : Bracket → Reader Unit
  | .array => pure ()
  | .object => do
    match ← peekToken with
    | none => failAt .endInObject
    | some c =>
      if c = '"' then do
        skip
        skipLiteral
        colon
      else failAt .keyIsNoString

/-- Pass over a value without parts, or over the bracket that opens a value with parts. -/
def skipToken : Reader (Option Bracket) := do
  match ← peekToken with
  | none => failAt .endInValue
  | some c =>
    if c = 'n' then do skip; ident "ull"; pure none
    else if c = 't' then do skip; ident "rue"; pure none
    else if c = 'f' then do skip; ident "alse"; pure none
    else if c = '-' ∨ c.isDigit then do skipNumber; pure none
    else if c = '"' then do skip; skipLiteral; pure none
    else if c = '[' then do skip; pure (some .array)
    else if c = '{' then do skip; pure (some .object)
    else failAt .expectedValue

/-- Pass over the rest of the values inside the given brackets, innermost first; a value is due or
has just ended. Each step passes over a character, so their number is bounded by the length of
the text. -/
def skipRest : Nat → Bool → List Bracket → Reader Unit
  | 0, _, _ => pure ()
  | bound + 1, true, outer => do
    match ← skipToken with
    | none => skipRest bound false outer
    | some b => do
      match ← peekToken with
      | none => failAt b.unclosed
      | some c =>
        if c = b.closing then do
          skip
          skipRest bound false outer
        else do
          skipKey b
          skipRest bound true (b :: outer)
  | _ + 1, false, [] => pure ()
  | bound + 1, false, b :: outer => do
    match ← peekToken with
    | none => failAt b.unclosed
    | some c =>
      if c = ',' then do
        skip
        skipKey b
        skipRest bound true (b :: outer)
      else if c = b.closing then do
        skip
        skipRest bound false outer
      else failAt b.unfinished

/-- Pass over a value, however deeply nested. -/
def skipValue : Reader Unit := do
  let bound := (← get).length
  skipRest (bound + 1) true []

end Reader

/-- The value that a text stands for. -/
def read (source : Text) : Except Failure Json :=
  (Reader.value maxDepth).run source

end Json

end StylusSurvey
