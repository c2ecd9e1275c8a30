import StylusSurvey.Text.Printable
import StylusSurvey.Text.Basic

/-!
# Quoted texts

How a text is shown inside a message: between double quotes, with a backslash
before quotes and backslashes, short escapes for the usual controls, and the
code point of every character that would not show by itself.
-/

namespace StylusSurvey

namespace Text

/-- The character as it is shown between double quotes. -/
def quoteChar (c : Char) : Text :=
  if c = '\x00' then "\\0"
  else if c = '\t' then "\\t"
  else if c = '\r' then "\\r"
  else if c = '\n' then "\\n"
  else if c = '"' then "\\\""
  else if c = '\\' then "\\\\"
  else if isExtending c || !isPrintable c then
    "\\u\x7b" ++ Nat.toDigits 16 c.toNat ++ ['}']
  else [c]

/-- The text between double quotes. -/
def quoted (s : Text) : Text :=
  ['"'] ++ s.flatMap quoteChar ++ ['"']

end Text

end StylusSurvey
