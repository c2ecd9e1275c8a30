import StylusSurvey.Json.Reader.Basic
import StylusSurvey.Text.Hex

/-!
# String literals

A string literal goes up to the next quote that is not escaped. Characters
outside the basic plane are escaped as a pair of surrogates; a lone surrogate is
refused. The characters of an escape are looked at together and then passed over
one by one, so both recursions here are on the text itself.
-/

namespace StylusSurvey

namespace Json

open Text

/-- The number that four hexadecimal digits stand for. -/
def fourHex? : Text → Option Nat
  | a :: b :: c :: d :: _ => do
    let a ← hexValue? a
    let b ← hexValue? b
    let c ← hexValue? c
    let d ← hexValue? d
    pure (4096 * a + 256 * b + 16 * c + d)
  | _ => none

/-- The number of four hexadecimal digits, which take four bytes even if they are none. -/
def fourHex (s : Text) : Except Failure Nat :=
  match fourHex? s with
  | some n => .ok n
  | none =>
    if byteCount (s.take 4) < 4 then .error (.before .endInString [])
    else .error { cause := .invalidEscape, rest := s, past := 4 }

/-- The number is the first half of a surrogate pair. -/
def isLeading (n : Nat) : Bool :=
  0xD800 ≤ n && n ≤ 0xDBFF

/-- The number is the second half of a surrogate pair. -/
def isTrailing (n : Nat) : Bool :=
  0xDC00 ≤ n && n ≤ 0xDFFF

/-- The character of a surrogate pair. -/
def ofSurrogates (high low : Nat) : Char :=
  Char.ofNat (0x10000 + 0x400 * (high - 0xD800) + (low - 0xDC00))

/-- The number that the second escape of a surrogate pair stands for, at the text behind the
first. -/
def secondHex : Text → Except Failure Nat
  | [] => .error (.before .endInString [])
  | '\\' :: [] => .error (.before .endInString [])
  | '\\' :: 'u' :: s => do
    let low ← fourHex s
    if isTrailing low then pure low else throw (.before .loneSurrogate (s.drop 4))
  | '\\' :: s => .error (.at .endOfSurrogatePair s)
  | s => .error (.at .endOfSurrogatePair s)

/-- The character of an escape by code, and the number of characters behind the backslash that
are part of it, given what follows the letter. -/
def codeEscape (s : Text) : Except Failure (Char × Nat) := do
  let n ← fourHex s
  if isTrailing n then throw (.before .loneSurrogate (s.drop 4))
  else if isLeading n then do
    let low ← secondHex (s.drop 4)
    pure (ofSurrogates n low, 11)
  else pure (Char.ofNat n, 5)

/-- The character that a letter behind a backslash stands for. -/
def shortEscape? (c : Char) : Option Char :=
  if c = '"' ∨ c = '\\' ∨ c = '/' then some c
  else if c = 'b' then some '\x08'
  else if c = 'f' then some '\x0c'
  else if c = 'n' then some '\n'
  else if c = 'r' then some '\r'
  else if c = 't' then some '\t'
  else none

/-- The character of the escape at the text behind a backslash, and how many characters are part
of it. -/
def escape : Text → Except Failure (Char × Nat)
  | [] => .error (.before .endInString [])
  | c :: s =>
    match shortEscape? c with
    | some d => .ok (d, 1)
    | none => if c = 'u' then codeEscape s else .error (.at .invalidEscape (c :: s))

/-- The text of a literal up to its closing quote, and the rest, after the given number of
characters that have been looked at before. -/
def literalBody : Nat → Text → Except Failure (Text × Text)
  | _, [] => .error (.before .endInString [])
  | seen + 1, _ :: s => literalBody seen s
  | 0, c :: s =>
    if c = '"' then .ok ([], s)
    else if c = '\\' then do
      let (d, seen) ← escape s
      let (text, rest) ← literalBody seen s
      pure (d :: text, rest)
    else if c < ' ' then .error (.at .controlCharacter (c :: s))
    else do
      let (text, rest) ← literalBody 0 s
      pure (c :: text, rest)

/-- The number of characters behind the backslash that are part of an escape whose code, if it
has one, need not be a character. -/
def escapeLength : Text → Except Failure Nat
  | [] => .error (.before .endInString [])
  | c :: s =>
    match shortEscape? c with
    | some _ => .ok 1
    | none =>
      if c = 'u' then do
        let _ ← fourHex s
        pure 5
      else .error (.at .invalidEscape (c :: s))

/-- The rest behind the closing quote of a literal that nobody asks for. -/
def skipLiteralBody : Nat → Text → Except Failure Text
  | _, [] => .error (.before .endInString [])
  | seen + 1, _ :: s => skipLiteralBody seen s
  | 0, c :: s =>
    if c = '"' then .ok s
    else if c = '\\' then do
      let seen ← escapeLength s
      skipLiteralBody seen s
    else if c < ' ' then .error (.before .controlCharacter (c :: s))
    else skipLiteralBody 0 s

namespace Reader

/-- Read a literal behind its opening quote. -/
def literal : Reader Text :=
  fun s => literalBody 0 s

/-- Pass over a literal behind its opening quote. -/
def skipLiteral : Reader Unit :=
  fun s => (skipLiteralBody 0 s).map fun rest => ((), rest)

end Reader

end Json

end StylusSurvey
