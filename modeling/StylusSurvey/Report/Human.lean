import StylusSurvey.Report.Basic
import StylusSurvey.Text.Numeral

/-!
# Reports for a reader

Each file with its findings, and the totals at the end.
-/

namespace StylusSurvey

open Text

namespace HumanReport

/-- The mark of a severity. -/
def marker : Severity → Text
  | .high => "❌"
  | .medium => "⚠️ "
  | .low => "ℹ️ "

/-- The lines for a finding. -/
def findingLines (f : Finding) : Text :=
  "  " ++ marker f.severity ++ " [" ++ f.severity.name ++ "] line " ++ numeral f.line ++ ": " ++
    f.title ++ "\n" ++
    "    Code: " ++ f.code ++ "\n" ++
    "    Suggestion: " ++ f.suggestion ++ "\n"

/-- The lines for a file. -/
def fileLines (f : FileAudit) : Text :=
  f.path ++ "\n" ++
    (if f.audit.findings = [] then ("  ✅ No findings\n\n" : Text)
     else f.audit.findings.flatMap findingLines ++ "\n")

/-- The lines with the totals. -/
def totals (fs : List FileAudit) : Text :=
  let t := FileAudit.tally fs
  "audit result: " ++ (if 0 < t.high then ("FAILED" : Text) else "ok") ++ ". " ++
    numeral t.high ++ " high; " ++ numeral t.medium ++ " medium; " ++ numeral t.low ++ " low\n" ++
    "  Files scanned: " ++ numeral fs.length ++ "\n"

/-- The report as text. -/
def text (fs : List FileAudit) : Text :=
  "Running Stylus Ink audit...\n\n" ++ fs.flatMap fileLines ++ totals fs

end HumanReport

end StylusSurvey
