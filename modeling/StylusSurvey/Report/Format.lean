import StylusSurvey.Text.Lowercase

/-!
# Output formats
-/

namespace StylusSurvey

open Text

/-- How a result is written. -/
inductive OutputFormat where
  | human
  | json
  | junit
  | markdown
deriving DecidableEq, Repr

namespace OutputFormat

/-- The name of a format. -/
def name : OutputFormat → Text
  | human => "human"
  | json => "json"
  | junit => "junit"
  | markdown => "markdown"

/-- All formats. -/
def all : List OutputFormat := [human, json, junit, markdown]

/-- The format of a name, whose case does not matter. -/
def ofName? (s : Text) : Option OutputFormat :=
  all.find? fun format => format.name = lowercase s

/-- The message for a name that is none. -/
def unknownMessage (s : Text) : Text :=
  "Unknown format: " ++ s ++ ". Expected: human, json, junit, markdown"

end OutputFormat

end StylusSurvey
