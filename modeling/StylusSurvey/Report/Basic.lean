import StylusSurvey.Audit.Pattern

/-!
# Audited files

What a report is about: the audits of several files, their totals and their
findings, in the order of files and then of lines.
-/

namespace StylusSurvey

open Text

/-- The audit of a file. -/
structure FileAudit where
  path : Text
  audit : Audit
deriving DecidableEq, Repr

namespace FileAudit

/-- The audit of the source in a file. -/
def ofSource (path source : Text) : FileAudit where
  path := path
  audit := Audit.ofSource source

/-- The tally of all files together. -/
def tally (fs : List FileAudit) : Tally :=
  fs.foldl (fun t f => t.add f.audit.summary) {}

/-- The findings of all files, in order. -/
def findings (fs : List FileAudit) : List Finding :=
  fs.flatMap fun f => f.audit.findings

end FileAudit

end StylusSurvey
