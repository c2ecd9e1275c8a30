import StylusSurvey.Json.Mismatch
import StylusSurvey.Text.Utf8

/-!
# Failures of reading

Why a text is no document, and where. A place is given by the part of the text
that was still to be read and by the number of bytes of it that count as read;
its line and column follow from the text as a whole. Columns count bytes.
-/

namespace StylusSurvey

open Text

namespace Json

/-- Why reading stops. -/
inductive Cause where
  | endInList
  | endInObject
  | endInString
  | endInValue
  | expectedColon
  | expectedCommaOrBracket
  | expectedCommaOrBrace
  | expectedIdent
  | expectedValue
  | invalidEscape
  | invalidNumber
  | numberOutOfRange
  | controlCharacter
  | keyIsNoString
  | loneSurrogate
  | trailingComma
  | trailingCharacters
  | endOfSurrogatePair
  | nestedTooDeep
  | mismatch (m : Mismatch)
deriving DecidableEq, Repr

/-- The message of a cause, without its place. -/
def Cause.message : Cause → Text
  | endInList => "EOF while parsing a list"
  | endInObject => "EOF while parsing an object"
  | endInString => "EOF while parsing a string"
  | endInValue => "EOF while parsing a value"
  | expectedColon => "expected `:`"
  | expectedCommaOrBracket => "expected `,` or `]`"
  | expectedCommaOrBrace => "expected `,` or `\x7d`"
  | expectedIdent => "expected ident"
  | expectedValue => "expected value"
  | invalidEscape => "invalid escape"
  | invalidNumber => "invalid number"
  | numberOutOfRange => "number out of range"
  | controlCharacter => "control character (\\u0000-\\u001F) found while parsing a string"
  | keyIsNoString => "key must be a string"
  | loneSurrogate => "lone leading surrogate in hex escape"
  | trailingComma => "trailing comma"
  | trailingCharacters => "trailing characters"
  | endOfSurrogatePair => "unexpected end of hex escape"
  | nestedTooDeep => "recursion limit exceeded"
  | mismatch m => m.message

/-- A failure to read a text. -/
structure Failure where
  cause : Cause
  /-- What was still to be read. -/
  rest : Text
  /-- How many bytes of the rest count as read, as far as it has them. -/
  past : Nat
deriving DecidableEq, Repr

/-- A place in a text: a line counted from one, and the bytes read of that line. -/
structure Position where
  line : Nat
  column : Nat
deriving DecidableEq, Repr

/-- The place behind the given bytes. -/
def Position.behind (before : Bytes) : Position where
  line := before.count 10 + 1
  column := (before.reverse.takeWhile (· ≠ 10)).length

namespace Failure

/-- The place of a failure in the text. -/
def position (f : Failure) (source : Text) : Position :=
  let before := byteCount source - byteCount f.rest + f.past
  Position.behind ((bytes source).take before)

/-- The message of a failure to read the text. -/
def message (f : Failure) (source : Text) : Text :=
  let p := f.position source
  f.cause.message ++ " at line " ++ numeral p.line ++ " column " ++ numeral p.column

end Failure

end Json

end StylusSurvey
