import StylusSurvey.Json.Basic
import StylusSurvey.Json.Shortest

/-!
# Printing JSON

Values over several lines, two blanks deeper at each level. Empty arrays and
objects are written as a pair of brackets. In a string only quotes, backslashes
and control characters are escaped.
-/

namespace StylusSurvey

namespace Json

open Text

/-- The text of a number. -/
def Number.text : Number → Text
  | .natural n => numeral n
  | .negative n => '-' :: numeral (n + 1)
  | .float bits => floatText bits

/-- A control character without an escape of its own, by its code. -/
def escapeCode (c : Char) : Text :=
  ['\\', 'u', '0', '0', Nat.digitChar (c.toNat / 16), Nat.digitChar (c.toNat % 16)]

/-- The character as it is written in a string. -/
def escapeChar (c : Char) : Text :=
  if c = '"' then ['\\', '"']
  else if c = '\\' then ['\\', '\\']
  else if c = '\x08' then ['\\', 'b']
  else if c = '\t' then ['\\', 't']
  else if c = '\n' then ['\\', 'n']
  else if c = '\x0c' then ['\\', 'f']
  else if c = '\r' then ['\\', 'r']
  else if c < ' ' then escapeCode c
  else [c]

/-- The text as a string literal. -/
def stringText (s : Text) : Text :=
  ['"'] ++ s.flatMap escapeChar ++ ['"']

/-- The beginning of a line at the given level. -/
def newline (level : Nat) : Text :=
  '\n' :: List.replicate (2 * level) ' '

mutual

/-- The value, whose first line is at the given level. -/
def textAt (level : Nat) : Json → Text
  | null => "null"
  | bool true => "true"
  | bool false => "false"
  | number n => n.text
  | string s => stringText s
  | array [] => "[]"
  | array (v :: vs) =>
    ['['] ++ newline (level + 1) ++ textAt (level + 1) v ++ itemsText (level + 1) vs ++
      newline level ++ [']']
  | object [] => ['{', '}']
  | object ((key, v) :: ms) =>
    ['{'] ++ newline (level + 1) ++ stringText key ++ [':', ' '] ++ textAt (level + 1) v ++
      membersText (level + 1) ms ++ newline level ++ ['}']

/-- The items after the first. -/
def itemsText (level : Nat) : List Json → Text
  | [] => []
  | v :: vs => [','] ++ newline level ++ textAt level v ++ itemsText level vs

/-- The members after the first. -/
def membersText (level : Nat) : List (Text × Json) → Text
  | [] => []
  | (key, v) :: ms =>
    [','] ++ newline level ++ stringText key ++ [':', ' '] ++ textAt level v ++
      membersText level ms

end

/-- The value over several lines. -/
def text (v : Json) : Text :=
  textAt 0 v

mutual

/-- The value on one line, without blanks. -/
def compact : Json → Text
  | null => "null"
  | bool true => "true"
  | bool false => "false"
  | number n => n.text
  | string s => stringText s
  | array [] => "[]"
  | array (v :: vs) => ['['] ++ compact v ++ compactItems vs ++ [']']
  | object [] => ['{', '}']
  | object ((key, v) :: ms) =>
    ['{'] ++ stringText key ++ [':'] ++ compact v ++ compactMembers ms ++ ['}']

/-- The items after the first, on one line. -/
def compactItems : List Json → Text
  | [] => []
  | v :: vs => [','] ++ compact v ++ compactItems vs

/-- The members after the first, on one line. -/
def compactMembers : List (Text × Json) → Text
  | [] => []
  | (key, v) :: ms =>
    [','] ++ stringText key ++ [':'] ++ compact v ++ compactMembers ms

end

end Json

end StylusSurvey
