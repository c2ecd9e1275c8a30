import StylusSurvey.Proofs.XmlElements
import StylusSurvey.Report.Audit

/-!
# Findings read back from an XML report

The report is one element (`XmlReport.reportNode`), and what it contains is fixed by the files and
their findings (`XmlReport.writes_testSuite`, `XmlReport.writes_testCase`): nothing in a path or in
a line of a source makes an element or an attribute of its own. From the elements the entries of the
findings are read back (`XmlReport.suites?`).
-/

namespace StylusSurvey

open Text

namespace XmlReport

open Xml

variable {f : Finding} {source : Text}

/-! ## The elements of a report -/

/-- The element that says what was found. -/
def outcomeNode (f : Finding) : Node :=
  if f.severity = .high then .element "failure" [("message", f.title)] (dataNodes f.code)
  else .element "system-out" [] (dataNodes (f.severity.name ++ ": " ++ f.code))

/-- The element for a finding in a file. -/
def caseNode (path : Text) (f : Finding) : Node :=
  .element "testcase"
    [("name", f.patternId ++ ":" ++ numeral f.line), ("classname", path)] [outcomeNode f]

/-- The attributes of an element that contains tests. -/
def testsAttributes (name : Text) (tests failures : Nat) : List (Text × Text) :=
  [("name", name), ("tests", numeral tests), ("failures", numeral failures), ("time", "0.0")]

/-- The element for a file. -/
def suiteNode (f : FileAudit) : Node :=
  .element "testsuite"
    (testsAttributes f.path f.audit.findings.length f.audit.summary.high)
    (f.audit.findings.map (caseNode f.path))

/-- The element for all files. -/
def reportNode (fs : List FileAudit) : Node :=
  .element "testsuites"
    (testsAttributes suitesName (FileAudit.findings fs).length (FileAudit.tally fs).high)
    (fs.map suiteNode)

/-! ## Writing the elements -/

/-- The text is written as it is. -/
def IsVerbatim (s : Text) : Prop :=
  ∀ c ∈ s, c ∉ special

instance (s : Text) : Decidable (IsVerbatim s) :=
  List.decidableBAll (· ∉ special) s

theorem isVerbatim_numeral (n : Nat) : IsVerbatim (numeral n) := by
  have hspecial : ∀ c ∈ special, c.isDigit = false := List.forall_iff_forall_mem.1 (by decide)
  rintro c hc hmem
  exact not_mem_numeral (hspecial c hmem) n hc

theorem IsVerbatim.append {s t : Text} (hs : IsVerbatim s) (ht : IsVerbatim t) :
    IsVerbatim (s ++ t) :=
  List.forall_mem_append.2 ⟨hs, ht⟩

theorem isVerbatim_name (severity : Severity) : IsVerbatim severity.name := by
  cases severity <;> decide

/-- A verbatim text in front is escaped to itself. -/
theorem escape_append_of_isVerbatim {s : Text} (hs : IsVerbatim s) (t : Text) :
    escape (s ++ t) = s ++ escape t := by
  rw [escape_append, escape_of_forall_not_mem hs]

/-- The line with the outcome of a case writes its element. -/
theorem writes_outcomeLine (f : Finding) : Writes (outcomeLine f) [outcomeNode f] := by
  have hindent : ∀ c ∈ ("      " : Text), isBlank c = true := List.all_eq_true.1 (by decide)
  rw [outcomeLine, outcomeNode]
  split
  · have htext : "      <failure" ++ attr "message" (escape f.title) ++ ">" ++ escape f.code ++
        "</failure>\n" = around "      " (tagOf "failure" [("message", f.title)])
          (escape f.code ++ around [] ('/' :: ("failure" : Text)) ['\n']) := by
      simp [around, tagOf]
    have hkeys : ∀ key ∈ (["message"] : List Text), IsXmlName key := by decide
    rw [htext]
    refine writes_data_element hindent (by decide) ?_ f.code
    exact hkeys
  · have hword : IsVerbatim (f.severity.name ++ ": ") :=
      (isVerbatim_name f.severity).append (by decide)
    have htext : "      <system-out>" ++ f.severity.name ++ ": " ++ escape f.code ++
        "</system-out>\n" = around "      " (tagOf "system-out" [])
          (escape (f.severity.name ++ ": " ++ f.code) ++
            around [] ('/' :: ("system-out" : Text)) ['\n']) := by
      rw [escape_append_of_isVerbatim hword]
      simp [around, tagOf]
    rw [htext]
    exact writes_data_element hindent (by decide) (by decide) _

/-- The element for a finding, whatever the path of the file is. -/
theorem writes_testCase (path : Text) (hid : IsVerbatim f.patternId) :
    Writes (testCase (escape path) f) [caseNode path f] := by
  have hindent : ∀ c ∈ ("    " : Text), isBlank c = true := List.all_eq_true.1 (by decide)
  have hkeys : ∀ key ∈ (["name", "classname"] : List Text), IsXmlName key := by decide
  have hname : IsVerbatim (f.patternId ++ ":" ++ numeral f.line) :=
    (hid.append (by decide)).append (isVerbatim_numeral f.line)
  have htext : testCase (escape path) f = around "    " (tagOf "testcase"
      [("name", f.patternId ++ ":" ++ numeral f.line), ("classname", path)])
        ('\n' :: (outcomeLine f ++ around "    " ('/' :: ("testcase" : Text)) ['\n'])) := by
    rw [tagOf, List.flatMap_cons, List.flatMap_cons, escape_of_forall_not_mem hname]
    unfold testCase
    simp [around]
  rw [htext]
  exact writes_element hindent (by decide) hkeys (writes_outcomeLine f)

/-- The attributes of an element that contains tests, its name being escaped. -/
theorem flatMap_testsAttributes (name : Text) (tests failures : Nat) :
    (testsAttributes name tests failures).flatMap (fun a => attr a.1 (escape a.2)) =
      suiteAttributes (escape name) tests failures := by
  have htime : escape "0.0" = ("0.0" : Text) := by decide
  simp only [testsAttributes, suiteAttributes, List.flatMap_cons, List.flatMap_nil, List.append_nil,
    List.append_assoc, escape_of_forall_not_mem (isVerbatim_numeral _), htime]

theorem isXmlName_of_mem_keys (name : Text) (tests failures : Nat) :
    ∀ key ∈ (testsAttributes name tests failures).map (·.1), IsXmlName key := by
  have hkeys : ∀ key ∈ (["name", "tests", "failures", "time"] : List Text), IsXmlName key := by
    decide
  exact hkeys

/-- A test suite writes its element. -/
theorem writes_testSuite {f : FileAudit} (h : ∀ x ∈ f.audit.findings, IsVerbatim x.patternId) :
    Writes (testSuite f) [suiteNode f] := by
  have hindent : ∀ c ∈ ("  " : Text), isBlank c = true := List.all_eq_true.1 (by decide)
  have htext : testSuite f = around "  " (tagOf "testsuite"
      (testsAttributes f.path f.audit.findings.length f.audit.summary.high))
        ('\n' :: (f.audit.findings.flatMap (testCase (escape f.path)) ++
          around "  " ('/' :: ("testsuite" : Text)) ['\n'])) := by
    rw [tagOf, flatMap_testsAttributes]
    unfold testSuite
    simp [around]
  rw [htext]
  exact writes_element hindent (by decide) (isXmlName_of_mem_keys _ _ _)
    (writes_flatMap fun x hx => writes_testCase f.path (h x hx))

/-- No name of a pattern needs an entity. -/
theorem isVerbatim_patternId (h : f ∈ (Audit.ofSource source).findings) :
    IsVerbatim f.patternId := by
  obtain ⟨p, hp, -, -, hid, -⟩ := Audit.exists_pattern_of_mem h
  have htable : ∀ p ∈ InkPattern.table, IsVerbatim p.id := by decide
  exact hid ▸ htable p hp

/-- A report is read as its element. -/
theorem nodes?_text (files : List (Text × Text)) :
    nodes? (text (FileAudit.ofSources files)) = some [reportNode (FileAudit.ofSources files)] := by
  have hsuites : Writes ((FileAudit.ofSources files).flatMap testSuite)
      ((FileAudit.ofSources files).map suiteNode) := by
    refine writes_flatMap fun f hf => ?_
    obtain ⟨path, source, rfl⟩ := FileAudit.exists_ofSource_of_mem hf
    exact writes_testSuite fun x hx => isVerbatim_patternId hx
  generalize FileAudit.ofSources files = fs at hsuites ⊢
  have hname : escape suitesName = suitesName := by decide
  have htext : text fs = around [] ('?' :: "xml version=\"1.0\" encoding=\"UTF-8\"?")
      ('\n' :: around [] (tagOf "testsuites" (testsAttributes suitesName
        (FileAudit.findings fs).length (FileAudit.tally fs).high))
          ('\n' :: (fs.flatMap testSuite ++ around [] ('/' :: ("testsuites" : Text)) ['\n']))) := by
    rw [tagOf, flatMap_testsAttributes, hname]
    unfold text
    simp [around]
  rw [htext]
  exact nodes?_declaration_append (by decide)
    (writes_element (by simp) (by decide) (isXmlName_of_mem_keys _ _ _) hsuites)

/-! ## Entries -/

/-- What a report says of a finding. -/
structure Entry where
  patternId : Text
  line : Nat
  /-- The finding is of high severity. -/
  high : Bool
  /-- The title of a finding of high severity, and otherwise the name of its severity. -/
  label : Text
  code : Text
deriving DecidableEq, Repr

/-- The entry of a finding. -/
def Entry.ofFinding (f : Finding) : Entry where
  patternId := f.patternId
  line := f.line
  high := f.severity = .high
  label := if f.severity = .high then f.title else f.severity.name
  code := f.code

/-- The character data among nodes. -/
def dataOf (nodes : List Node) : Text :=
  nodes.flatMap fun
    | .data s => s
    | .element .. => []

/-- Whether a test has failed, its label and its code. -/
def outcome? : Node → Option (Bool × Text × Text)
  | .data _ => none
  | .element name attributes content =>
    if name = "failure" then
      (attributes.lookup ("message" : Text)).map fun title => (true, title, dataOf content)
    else if name = "system-out" then
      (cutAt? ':' (dataOf content)).map fun (severity, code) => (false, severity, code.tail)
    else none

/-- The entry that an element stands for. -/
def entry? : Node → Option Entry
  | .element name attributes [outcome] =>
    if name = "testcase" then do
      let (patternId, number) ← cutAt? ':' (← attributes.lookup ("name" : Text))
      let line ← ofNumeral? number
      let (high, label, code) ← outcome? outcome
      return { patternId, line, high, label, code }
    else none
  | _ => none

/-- The path of a file and the entries of its findings. -/
def suite? : Node → Option (Text × List Entry)
  | .data _ => none
  | .element name attributes content =>
    if name = "testsuite" then do
      let path ← attributes.lookup ("name" : Text)
      let entries ← content.mapM entry?
      return (path, entries)
    else none

/-- The entries of all findings by file, read from a report. -/
def suites? (report : Text) : Option (List (Text × List Entry)) :=
  match nodes? report with
  | some [.element name _ content] =>
    if name = "testsuites" then content.mapM suite? else none
  | _ => none

theorem dataOf_dataNodes {s : Text} (h : s = [] ∨ ∃ c ∈ s, isBlank c = false) :
    dataOf (dataNodes s) = s := by
  rcases h with rfl | ⟨c, hc, hblank⟩
  · rfl
  · have hall : ¬s.all isBlank = true := by
      rw [List.all_eq_true]
      intro h
      rw [h c hc] at hblank
      cases hblank
    rw [dataNodes, if_neg hall, dataOf, List.flatMap_singleton]

theorem eq_nil_or_exists_of_trim {s : Text} (h : trim s = s) :
    s = [] ∨ ∃ c ∈ s, isBlank c = false := by
  by_contra hno
  rw [not_or] at hno
  refine hno.1 ?_
  rw [← h, trim_eq_nil_iff]
  simpa using hno.2

/-- The severity, the label and the code are read from the outcome. -/
theorem outcome?_outcomeNode (hcode : trim f.code = f.code) :
    outcome? (outcomeNode f) =
      some (decide (f.severity = .high), (Entry.ofFinding f).label, f.code) := by
  rw [outcomeNode, Entry.ofFinding]
  split
  · rename_i hhigh
    show some (true, f.title, dataOf (dataNodes f.code)) = _
    rw [dataOf_dataNodes (eq_nil_or_exists_of_trim hcode)]
    simp [hhigh]
  · rename_i hhigh
    have hname : ':' ∉ f.severity.name := by
      cases f.severity <;> decide
    have hdata : dataOf (dataNodes (f.severity.name ++ ": " ++ f.code)) =
        f.severity.name ++ ':' :: (' ' :: f.code) := by
      rw [dataOf_dataNodes (.inr ⟨':', by simp, by decide⟩)]
      simp
    show (cutAt? ':' (dataOf (dataNodes _))).map _ = _
    rw [hdata, cutAt?_append hname]
    simp [hhigh]

/-- The entry of a finding is read from its case. -/
theorem entry?_caseNode (path : Text) (hid : ':' ∉ f.patternId) (hcode : trim f.code = f.code) :
    entry? (caseNode path f) = some (Entry.ofFinding f) := by
  have hname : cutAt? ':' (f.patternId ++ ":" ++ numeral f.line) =
      some (f.patternId, numeral f.line) := by
    rw [List.append_assoc]
    exact cutAt?_append hid
  show (do
    let (patternId, number) ← cutAt? ':' (f.patternId ++ ":" ++ numeral f.line)
    let line ← ofNumeral? number
    let (high, label, code) ← outcome? (outcomeNode f)
    return ({ patternId, line, high, label, code } : Entry)) = _
  rw [hname, outcome?_outcomeNode hcode]
  simp [ofNumeral?_numeral, Entry.ofFinding]

/-- The path and the entries of a file are read from its suite. -/
theorem suite?_suiteNode (path source : Text) :
    suite? (suiteNode (FileAudit.ofSource path source)) =
      some (path, (Audit.ofSource source).findings.map Entry.ofFinding) := by
  have hentries : ((Audit.ofSource source).findings.map (caseNode path)).mapM entry? =
      some ((Audit.ofSource source).findings.map Entry.ofFinding) := by
    refine mapM_map_eq_some fun f hf => ?_
    obtain ⟨p, hp, line, -, hid, -, -, hcode⟩ := Audit.exists_pattern_of_mem hf
    have htable : ∀ p ∈ InkPattern.table, ':' ∉ p.id := by decide
    exact entry?_caseNode path (hid ▸ htable p hp) (by rw [hcode, trim_trim])
  show (((Audit.ofSource source).findings.map (caseNode path)).mapM entry?).bind
    (fun entries => some (path, entries)) = _
  rw [hentries]
  rfl

/-- The paths and the entries of the findings are read back from a report. -/
theorem suites?_text (files : List (Text × Text)) :
    suites? (text (FileAudit.ofSources files)) =
      some (files.map fun f => (f.1, (Audit.ofSource f.2).findings.map Entry.ofFinding)) := by
  have hsuites : ((FileAudit.ofSources files).map suiteNode).mapM suite? =
      some (files.map fun f => (f.1, (Audit.ofSource f.2).findings.map Entry.ofFinding)) := by
    rw [FileAudit.ofSources, List.map_map]
    exact mapM_map_eq_some fun f _ => suite?_suiteNode f.1 f.2
  rw [suites?, nodes?_text]
  exact hsuites

/-- A report is read as one element that the files and their findings determine, and from it the
path of each file and the entries of its findings are read back, in order. An escaped text has one
reading, in which its entities are undone, and no character in it has a meaning of its own but the
ampersands of entities. -/
theorem findings_read_back :
    (∀ files : List (Text × Text),
      let report := auditReport (FileAudit.ofSources files) .junit
      nodes? report = some [reportNode (FileAudit.ofSources files)] ∧
        suites? report =
          some (files.map fun f => (f.1, (Audit.ofSource f.2).findings.map Entry.ofFinding))) ∧
    (∀ s t : Text, unescape? t = some s ↔ t = escape s) ∧
    ∀ s : Text, '<' ∉ escape s ∧ '>' ∉ escape s ∧ '"' ∉ escape s ∧
      ∀ front back : Text, escape s = front ++ '&' :: back →
        ∃ c ∈ special, written c <+: '&' :: back := by
  refine ⟨fun files => ⟨nodes?_text files, suites?_text files⟩, fun s t => unescape?_eq_some_iff,
    fun s => ⟨?_, ?_, ?_, fun front back h => exists_entity_of_escape h⟩⟩
  · exact not_mem_escape (.inl rfl) s
  · exact not_mem_escape (.inr (.inl rfl)) s
  · exact not_mem_escape (.inr (.inr rfl)) s

/-- A path that looks like the end of an attribute and of its tag. -/
def tagPath : Text := "a\"><testcase name=\"b.rs"

/-- A source that looks like the end of an element, with text that looks like an entity. -/
def tagSource : Text := "let c = d.clone(); // </system-out> &lt;"

/-- A file whose path and code look like tags. -/
theorem findings_read_back_tags :
    let report := auditReport (FileAudit.ofSources [(tagPath, tagSource)]) .junit
    suites? report = some [(tagPath,
        [{ patternId := "clone-usage", line := 1, high := false, label := "medium",
           code := tagSource }])] ∧
      ∃ c ∈ special, written c <+: ("&lt;/system-out&gt; &amp;lt;" : Text) := by
  have hfindings : (Audit.ofSource tagSource).findings.map Entry.ofFinding =
      [{ patternId := "clone-usage", line := 1, high := false, label := "medium",
         code := tagSource }] := by decide +kernel
  have hreport := (findings_read_back.1 [(tagPath, tagSource)]).2
  rw [List.map_singleton, hfindings] at hreport
  have hescape : escape tagSource = "let c = d.clone(); // " ++ "&lt;/system-out&gt; &amp;lt;" := by
    decide
  exact ⟨hreport, (findings_read_back.2.2 tagSource).2.2.2 _ _ hescape⟩

end XmlReport

end StylusSurvey
