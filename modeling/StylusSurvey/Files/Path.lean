import StylusSurvey.Text.Utf8

/-!
# Paths

A path is a text of components between slashes. Empty components and single dots
say nothing, apart from a path that consists of them.
-/

namespace StylusSurvey

namespace Path

open Text

/-- The components of a path that name something or go up. -/
def components (path : Text) : List Text :=
  (splitOn '/' path).filter fun c => c ≠ [] ∧ c ≠ "."

/-- The name of the file or directory that the path ends with. -/
def fileName? (path : Text) : Option Text :=
  (components path).getLast?.filter (· ≠ "..")

/-- What follows the last point of a file name, unless nothing precedes it. -/
def extension? (name : Text) : Option Text :=
  if (name.reverse.dropWhile (· ≠ '.')).length ≤ 1 then none
  else some (name.reverse.takeWhile (· ≠ '.')).reverse

/-- No file has a name of so many bytes. -/
def isLongName (name : Text) : Bool :=
  255 < (bytes name).length

/-- No path of so many bytes is followed. -/
def isLong (path : Text) : Bool :=
  4095 < (bytes path).length

/-- The path of an entry of a directory. -/
def join (directory name : Text) : Text :=
  if directory = [] ∨ directory.getLast? = some '/' then directory ++ name
  else directory ++ ['/'] ++ name

end Path

end StylusSurvey
