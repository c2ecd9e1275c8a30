import StylusSurvey.Document.Audit
import StylusSurvey.Document.Encode
import StylusSurvey.Json.Printer
import StylusSurvey.Report.Basic

/-!
# Reports as JSON

The totals and, for each file, its findings and its tally.
-/

namespace StylusSurvey

open Text

namespace JsonReport

/-- A number as a JSON value. -/
def count (n : Nat) : Json :=
  .number (.natural n)

/-- The result for a file. -/
def fileJson (f : FileAudit) : Json :=
  .object
    [("file", .string f.path),
      ("findings", .array (f.audit.findings.map Documented.encode)),
      ("summary", Documented.encode f.audit.summary)]

/-- The report as a JSON value. -/
def json (fs : List FileAudit) : Json :=
  let t := FileAudit.tally fs
  .object
    [("summary",
        .object
          [("files", count fs.length), ("high", count t.high), ("medium", count t.medium),
            ("low", count t.low)]),
      ("results", .array (fs.map fileJson))]

/-- The report as JSON text, with the members of objects in the order of their keys. -/
def text (fs : List FileAudit) : Text :=
  (json fs).sorted.text

end JsonReport

end StylusSurvey
