import StylusSurvey.Report.Basic
import StylusSurvey.Text.Numeral

/-!
# Reports as XML

A test suite for each file and in it a test case for each finding. A finding of
high severity is a failure.
-/

namespace StylusSurvey

open Text

namespace XmlReport

/-- The text with the characters that have a meaning in XML replaced by entities. -/
def escape (s : Text) : Text :=
  replace '"' "&quot;" (replace '>' "&gt;" (replace '<' "&lt;" (replace '&' "&amp;" s)))

/-- An attribute of an element, preceded by a blank. -/
def attr (name value : Text) : Text :=
  " " ++ name ++ "=\"" ++ value ++ "\""

/-- The attributes of an element that contains tests. -/
def suiteAttributes (name : Text) (tests failures : Nat) : Text :=
  attr "name" name ++ attr "tests" (numeral tests) ++
    attr "failures" (numeral failures) ++ attr "time" "0.0"

/-- The element that says what was found. -/
def outcomeLine (f : Finding) : Text :=
  if f.severity = .high then
    "      <failure" ++ attr "message" (escape f.title) ++ ">" ++ escape f.code ++
      "</failure>\n"
  else
    "      <system-out>" ++ f.severity.name ++ ": " ++ escape f.code ++ "</system-out>\n"

/-- The element for a finding in the file of the given name, which is escaped. -/
def testCase (file : Text) (f : Finding) : Text :=
  "    <testcase" ++ attr "name" (f.patternId ++ ":" ++ numeral f.line) ++
    attr "classname" file ++ ">\n" ++
    outcomeLine f ++
    "    </testcase>\n"

/-- The element for a file. -/
def testSuite (f : FileAudit) : Text :=
  let file := escape f.path
  "  <testsuite" ++ suiteAttributes file f.audit.findings.length f.audit.summary.high ++ ">\n" ++
    f.audit.findings.flatMap (testCase file) ++
    "  </testsuite>\n"

/-- The name of the whole report. -/
def suitesName : Text := "stylus-architect"

/-- The report as XML. -/
def text (fs : List FileAudit) : Text :=
  "<?xml version=\"1.0\" encoding=\"UTF-8\"?>\n" ++
    "<testsuites" ++
    suiteAttributes suitesName (FileAudit.findings fs).length (FileAudit.tally fs).high ++ ">\n" ++
    fs.flatMap testSuite ++
    "</testsuites>\n"

end XmlReport

end StylusSurvey
