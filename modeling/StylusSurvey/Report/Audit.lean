import StylusSurvey.Report.Format
import StylusSurvey.Report.Human
import StylusSurvey.Report.Json
import StylusSurvey.Report.Markdown
import StylusSurvey.Report.Xml

/-!
# Audit reports

The report on several files in each of the output formats.
-/

namespace StylusSurvey

open Text

/-- The report on several files. -/
def auditReport (fs : List FileAudit) : OutputFormat → Text
  | .human => HumanReport.text fs
  | .json => JsonReport.text fs
  | .junit => XmlReport.text fs
  | .markdown => MarkdownReport.text fs

end StylusSurvey
