import StylusSurvey.Json.Failure

/-!
# Readers

A reader takes a value from the beginning of a text and leaves the rest, or
fails. Readers here look one character ahead. A failure is placed either before
the next character or behind its first byte.
-/

namespace StylusSurvey

namespace Json

/-- A reader of a value from the beginning of a text. -/
abbrev Reader (α : Type) := StateT Text (Except Failure) α

/-- The failure whose place is before the text still to be read. -/
def Failure.before (cause : Cause) (rest : Text) : Failure :=
  { cause, rest, past := 0 }

/-- The failure whose place is behind the first byte of the text still to be read. -/
def Failure.at (cause : Cause) (rest : Text) : Failure :=
  { cause, rest, past := 1 }

namespace Reader

/-- Fail before the next character. -/
def failBefore {α : Type} (cause : Cause) : Reader α :=
  fun s => .error (.before cause s)

/-- Fail at the next character. -/
def failAt {α : Type} (cause : Cause) : Reader α :=
  fun s => .error (.at cause s)

/-- The next character, which is not read. -/
def peek : Reader (Option Char) :=
  fun s => .ok (s.head?, s)

/-- Pass over the next character. -/
def skip : Reader Unit :=
  fun s => .ok ((), s.tail)

/-- The character separates tokens. -/
def isSpace (c : Char) : Bool :=
  c = ' ' || c = '\n' || c = '\t' || c = '\r'

/-- Pass over the space before the next token. -/
def space : Reader Unit :=
  fun s => .ok ((), s.dropWhile isSpace)

/-- Pass over the space before the next token, and look at its first character. -/
def peekToken : Reader (Option Char) := do
  space
  peek

/-- Read the rest of a word of letters. -/
def ident : Text → Reader Unit
  | [] => pure ()
  | k :: key => do
    match ← peek with
    | none => failBefore .endInValue
    | some c => if c = k then do skip; ident key else failAt .expectedIdent

/-- The text ends here, apart from space. -/
def finish : Reader Unit := do
  match ← peekToken with
  | none => pure ()
  | some _ => failAt .trailingCharacters

/-- What the reader makes of the whole text. -/
def run {α : Type} (r : Reader α) (source : Text) : Except Failure α :=
  (do let v ← r; finish; pure v : Reader α).run' source

end Reader

end Json

end StylusSurvey
