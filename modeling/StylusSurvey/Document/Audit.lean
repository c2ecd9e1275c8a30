import StylusSurvey.Audit.Basic
import StylusSurvey.Document.Shape
import StylusSurvey.TestModule

/-!
# Audits and test modules as documents
-/

namespace StylusSurvey

namespace Severity

/-- The shape of a severity. -/
def shape : Shape :=
  .choice (all.map name)

/-- What the document of a severity says. -/
def toValue : Severity → shape.Value
  | high => (0 : Fin 3)
  | medium => (1 : Fin 3)
  | low => (2 : Fin 3)

/-- The severity of which a document speaks. -/
def ofValue : shape.Value → Severity :=
  fun (i : Fin 3) =>
    match i with
    | 0 => high
    | 1 => medium
    | 2 => low

end Severity

instance : Documented Severity where
  shape := Severity.shape
  toValue := Severity.toValue
  ofValue := Severity.ofValue

namespace Finding

/-- The shape of a finding. -/
def shape : Shape :=
  .record "AuditFinding"
    (.required "patternId" .text
      (.required "severity" Severity.shape
        (.required "title" .text
          (.required "suggestion" .text
            (.required "line" .count (.required "code" .text .none))))))

/-- What the document of a finding says. -/
def toValue (f : Finding) : shape.Value :=
  (f.patternId, f.severity.toValue, f.title, f.suggestion, f.line, f.code, ())

/-- The finding of which a document speaks. -/
def ofValue : shape.Value → Finding
  | (patternId, severity, title, suggestion, line, code, ()) =>
    { patternId, severity := Severity.ofValue severity, title, suggestion, line, code }

end Finding

instance : Documented Finding where
  shape := Finding.shape
  toValue := Finding.toValue
  ofValue := Finding.ofValue

namespace Tally

/-- The shape of a tally. -/
def shape : Shape :=
  .record "AuditSummary"
    (.required "high" .count (.required "medium" .count (.required "low" .count .none)))

/-- What the document of a tally says. -/
def toValue (t : Tally) : shape.Value :=
  (t.high, t.medium, t.low, ())

/-- The tally of which a document speaks. -/
def ofValue : shape.Value → Tally
  | (high, medium, low, ()) => { high, medium, low }

end Tally

instance : Documented Tally where
  shape := Tally.shape
  toValue := Tally.toValue
  ofValue := Tally.ofValue

namespace Audit

/-- The shape of an audit. -/
def shape : Shape :=
  .record "AuditResult"
    (.required "findings" (.list Finding.shape) (.required "summary" Tally.shape .none))

/-- What the document of an audit says. -/
def toValue (a : Audit) : shape.Value :=
  (a.findings.map Finding.toValue, a.summary.toValue, ())

/-- The audit of which a document speaks. -/
def ofValue : shape.Value → Audit
  | (findings, summary, ()) =>
    { findings := findings.map Finding.ofValue, summary := Tally.ofValue summary }

end Audit

instance : Documented Audit where
  shape := Audit.shape
  toValue := Audit.toValue
  ofValue := Audit.ofValue

namespace GeneratedTest

/-- The shape of a test. -/
def shape : Shape :=
  .record "GeneratedTest" (.required "scenario" .text (.required "code" .text .none))

/-- What the document of a test says. -/
def toValue (t : GeneratedTest) : shape.Value :=
  (t.scenario, t.code, ())

/-- The test of which a document speaks. -/
def ofValue : shape.Value → GeneratedTest
  | (scenario, code, ()) => { scenario, code }

end GeneratedTest

instance : Documented GeneratedTest where
  shape := GeneratedTest.shape
  toValue := GeneratedTest.toValue
  ofValue := GeneratedTest.ofValue

namespace TestModule

/-- The shape of a test module. -/
def shape : Shape :=
  .record "TestGeneratorResult"
    (.required "header" .text
      (.required "tests" (.list GeneratedTest.shape) (.required "fullFile" .text .none)))

/-- What the document of a test module says. -/
def toValue (m : TestModule) : shape.Value :=
  (m.header, m.tests.map GeneratedTest.toValue, m.fullFile, ())

/-- The test module of which a document speaks. -/
def ofValue : shape.Value → TestModule
  | (header, tests, fullFile, ()) =>
    { header, tests := tests.map GeneratedTest.ofValue, fullFile }

end TestModule

instance : Documented TestModule where
  shape := TestModule.shape
  toValue := TestModule.toValue
  ofValue := TestModule.ofValue

end StylusSurvey
