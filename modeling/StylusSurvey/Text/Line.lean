import StylusSurvey.Text.Basic

/-!
# Lines

A line ends at a newline, and a carriage return directly before that newline
belongs to the line end. A text that ends in a newline has no further line, and
a carriage return at the very end of the text stays in its line.
-/

namespace StylusSurvey

namespace Text

/-- The line without the carriage return of its line end. -/
def chomp (l : Text) : Text :=
  if l.getLast? = some '\r' then l.dropLast else l

/-- The lines among the pieces of a text between its newlines. -/
def linesOfPieces : List Text → List Text
  | [] => []
  | [p] => if p.isEmpty then [] else [p]
  | p :: q :: ps => chomp p :: linesOfPieces (q :: ps)

/-- The lines of a text. -/
def lines (s : Text) : List Text :=
  linesOfPieces (splitOn '\n' s)

/-- The lines, with a newline between each two. -/
def unlines (ls : List Text) : Text :=
  List.intercalate ['\n'] ls

end Text

end StylusSurvey
