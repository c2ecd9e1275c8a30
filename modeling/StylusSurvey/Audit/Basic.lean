import StylusSurvey.Text.Line

/-!
# Audits

The result of going over a source line by line: the findings, ordered by line
and then by pattern, and how many there are of each severity.
-/

namespace StylusSurvey

/-- How much ink a finding may cost. -/
inductive Severity where
  | high
  | medium
  | low
deriving DecidableEq, Repr

/-- The severities, from the highest to the lowest. -/
def Severity.all : List Severity := [.high, .medium, .low]

/-- The name of a severity. -/
def Severity.name : Severity → Text
  | .high => "high"
  | .medium => "medium"
  | .low => "low"

/-- A pattern that a line shows. -/
structure Finding where
  patternId : Text
  severity : Severity
  title : Text
  suggestion : Text
  /-- The source line, counted from one. -/
  line : Nat
  /-- The line, trimmed. -/
  code : Text
deriving DecidableEq, Repr

/-- Numbers of findings by severity. -/
structure Tally where
  high : Nat := 0
  medium : Nat := 0
  low : Nat := 0
deriving DecidableEq, Repr

namespace Tally

/-- One more finding of a severity. -/
def record (t : Tally) : Severity → Tally
  | .high => { t with high := t.high + 1 }
  | .medium => { t with medium := t.medium + 1 }
  | .low => { t with low := t.low + 1 }

/-- The findings of two tallies together. -/
def add (t u : Tally) : Tally where
  high := t.high + u.high
  medium := t.medium + u.medium
  low := t.low + u.low

/-- The number of all findings. -/
def total (t : Tally) : Nat :=
  t.high + t.medium + t.low

/-- The tally of a list of findings. -/
def ofFindings (fs : List Finding) : Tally :=
  fs.foldl (fun t f => t.record f.severity) {}

end Tally

/-- The findings in a source, and their tally. -/
structure Audit where
  findings : List Finding
  summary : Tally
deriving DecidableEq, Repr

end StylusSurvey
