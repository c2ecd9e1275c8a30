import StylusSurvey.Files.Path
import StylusSurvey.Report.Basic
import StylusSurvey.Text.Numeral

/-!
# Reports as Markdown

The totals, a table with a row for each finding, and the advice on each pattern
that was found.
-/

namespace StylusSurvey

open Text

namespace MarkdownReport

/-- The name under which a file is listed. -/
def fileName (path : Text) : Text :=
  (Path.fileName? path).getD "unknown"

/-- The row for a finding in the file of the given name. -/
def row (file : Text) (f : Finding) : Text :=
  "| `" ++ file ++ "` | " ++ numeral f.line ++ " | " ++ f.severity.name ++ " | " ++ f.title ++
    " | `" ++ replace '|' "\\|" f.code ++ "` |\n"

/-- The rows for a file. -/
def rows (f : FileAudit) : Text :=
  f.audit.findings.flatMap (row (fileName f.path))

/-- The section with the totals. -/
def summary (fs : List FileAudit) : Text :=
  let t := FileAudit.tally fs
  "## Summary\n\n" ++
    "- **Files scanned:** " ++ numeral fs.length ++ "\n" ++
    "- **High:** " ++ numeral t.high ++ " ❌\n" ++
    "- **Medium:** " ++ numeral t.medium ++ " ⚠️\n" ++
    "- **Low:** " ++ numeral t.low ++ " ℹ️\n\n"

/-- The section with the findings. -/
def table (fs : List FileAudit) : Text :=
  "## Findings\n\n" ++
    "| File | Line | Severity | Pattern | Code |\n" ++
    "|------|------|----------|---------|------|\n" ++
    fs.flatMap rows

/-- The first finding of each pattern, those of the patterns `seen` left out. -/
def firstOfEach (seen : List Text) : List Finding → List Finding
  | [] => []
  | f :: fs =>
    if f.patternId ∈ seen then firstOfEach seen fs
    else f :: firstOfEach (f.patternId :: seen) fs

/-- The advice on a pattern. -/
def suggestion (f : Finding) : Text :=
  "### " ++ f.title ++ "\n\n" ++ f.suggestion ++ "\n\n"

/-- The section with the advice on each pattern that was found. -/
def suggestions (fs : List FileAudit) : Text :=
  match firstOfEach [] (FileAudit.findings fs) with
  | [] => []
  | f :: others => "\n## Suggestions\n\n" ++ (f :: others).flatMap suggestion

/-- The report as Markdown. -/
def text (fs : List FileAudit) : Text :=
  "# Stylus Ink Audit Report\n\n" ++ summary fs ++ table fs ++ suggestions fs

end MarkdownReport

end StylusSurvey
