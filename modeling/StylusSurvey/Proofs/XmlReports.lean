import Mathlib.Algebra.GroupWithZero.Nat
import StylusSurvey.Proofs.Tallies
import StylusSurvey.Proofs.XmlTags

/-!
# Reports as XML, read back

The tags of a report are known from the files and their findings alone, whatever the paths and the
sources hold (`XmlReport.tags_text`): one suite for each file and in it one test case for each
finding, a failure if the finding is of high severity. So the numbers that the report gives can be
compared with the elements that it has (`XmlReport.tells_text`).
-/

namespace StylusSurvey

open Text

namespace XmlReport

open Xml

variable {file : Text} {f : Finding} {fs : List FileAudit}

/-! ## The tags of a report -/

/-- The tag of an element that contains tests. -/
def testsTag (element name : Text) (tests failures : Nat) : Text :=
  element ++ suiteAttributes name tests failures

/-- The tag of the element for a finding. -/
def caseTag (file : Text) (f : Finding) : Text :=
  "testcase" ++ (attr "name" (f.patternId ++ ":" ++ numeral f.line) ++ attr "classname" file)

/-- The tags of the element that says what was found. -/
def outcomeTags (f : Finding) : List Text :=
  if f.severity = .high then ["failure" ++ attr "message" (escape f.title), "/failure"]
  else ["system-out", "/system-out"]

/-- The tags of the element for a finding and of what it contains. -/
def caseTags (file : Text) (f : Finding) : List Text :=
  caseTag file f :: (outcomeTags f ++ (["/testcase"] : List Text))

/-- The tag of the element for a file. -/
def suiteTag (f : FileAudit) : Text :=
  testsTag "testsuite" (escape f.path) f.audit.findings.length f.audit.summary.high

/-- The tags of the element for a file and of what it contains. -/
def suiteTags (f : FileAudit) : List Text :=
  suiteTag f ::
    (f.audit.findings.flatMap (caseTags (escape f.path)) ++ (["/testsuite"] : List Text))

/-- The tag of the element for all files. -/
def suitesTag (fs : List FileAudit) : Text :=
  testsTag "testsuites" suitesName (FileAudit.findings fs).length (FileAudit.tally fs).high

/-- The tags of a report. -/
def reportTags (fs : List FileAudit) : List Text :=
  "?xml version=\"1.0\" encoding=\"UTF-8\"?" :: suitesTag fs ::
    (fs.flatMap suiteTags ++ (["/testsuites"] : List Text))

/-! ## Writing and reading tags -/

/-- A tag with what stands around it. -/
def around (before tag after : Text) : Text :=
  before ++ '<' :: (tag ++ '>' :: after)

/-- The text holds no angle bracket. -/
def Unbracketed (s : Text) : Prop :=
  '<' ∉ s ∧ '>' ∉ s

instance (s : Text) : Decidable (Unbracketed s) :=
  inferInstanceAs (Decidable (_ ∧ _))

theorem Unbracketed.append {s t : Text} (hs : Unbracketed s) (ht : Unbracketed t) :
    Unbracketed (s ++ t) :=
  ⟨List.not_mem_append hs.1 ht.1, List.not_mem_append hs.2 ht.2⟩

theorem unbracketed_numeral (n : Nat) : Unbracketed (numeral n) :=
  ⟨not_mem_numeral (by decide) n, not_mem_numeral (by decide) n⟩

/-- No angle bracket is left by escaping. -/
theorem unbracketed_escape (s : Text) : Unbracketed (escape s) :=
  ⟨not_mem_escape (.inl rfl) s, not_mem_escape (.inr (.inl rfl)) s⟩

theorem unbracketed_attr {key value : Text} (hkey : Unbracketed key) (hvalue : Unbracketed value) :
    Unbracketed (attr key value) := by
  have hends : Unbracketed " " ∧ Unbracketed "=\"" ∧ Unbracketed "\"" := by decide
  exact (((hends.1.append hkey).append hends.2.1).append hvalue).append hends.2.2

/-- No tag with numbers of tests has an angle bracket in it. -/
theorem unbracketed_testsTag {element name : Text} (helement : Unbracketed element)
    (hname : Unbracketed name) (tests failures : Nat) :
    Unbracketed (testsTag element name tests failures) := by
  have hcount (key : Text) (n : Nat) (hkey : Unbracketed key) :
      Unbracketed (attr key (numeral n)) :=
    unbracketed_attr hkey (unbracketed_numeral n)
  have htime : Unbracketed (attr "time" "0.0") := by decide
  exact helement.append ((((unbracketed_attr (by decide) hname).append
    (hcount "tests" tests (by decide))).append (hcount "failures" failures (by decide))).append
    htime)

theorem hasTags_around {before tag after : Text} (hbefore : '<' ∉ before) (htag : Unbracketed tag)
    (hafter : '<' ∉ after) : HasTags (around before tag after) [tag] := by
  have htext : around before tag after = before ++ (('<' :: (tag ++ ['>'])) ++ after) := by
    simp [around]
  rw [htext]
  exact (hasTags_of_not_mem hbefore).append
    ((hasTags_tag htag.1 htag.2).append (hasTags_of_not_mem hafter))

/-- The line with the outcome has the tags of a failure, or those of an output. -/
theorem hasTags_outcomeLine (f : Finding) : HasTags (outcomeLine f) (outcomeTags f) := by
  have hcode := (unbracketed_escape f.code).1
  rw [outcomeLine, outcomeTags]
  split
  · have htext : "      <failure" ++ attr "message" (escape f.title) ++ ">" ++ escape f.code ++
        "</failure>\n" =
          around "      " ("failure" ++ attr "message" (escape f.title)) [] ++
            around (escape f.code) "/failure" "\n" := by
      simp [around]
    have htitle : Unbracketed ("failure" ++ attr "message" (escape f.title)) :=
      Unbracketed.append (by decide) (unbracketed_attr (by decide) (unbracketed_escape f.title))
    rw [htext]
    exact (hasTags_around (by decide) htitle (by decide)).append
      (hasTags_around hcode (by decide) (by decide))
  · have htext : "      <system-out>" ++ f.severity.name ++ ": " ++ escape f.code ++
        "</system-out>\n" =
          around "      " "system-out" [] ++
            around (f.severity.name ++ ": " ++ escape f.code) "/system-out" "\n" := by
      simp [around]
    have hname : '<' ∉ f.severity.name := by
      cases f.severity <;> decide
    rw [htext]
    exact (hasTags_around (by decide) (by decide) (by decide)).append
      (hasTags_around (List.not_mem_append (List.not_mem_append hname (by decide)) hcode)
        (by decide) (by decide))

theorem unbracketed_caseTag (hid : Unbracketed f.patternId) (hfile : Unbracketed file) :
    Unbracketed (caseTag file f) := by
  have hname : Unbracketed (f.patternId ++ ":" ++ numeral f.line) :=
    (hid.append (by decide)).append (unbracketed_numeral f.line)
  exact Unbracketed.append (by decide)
    ((unbracketed_attr (by decide) hname).append (unbracketed_attr (by decide) hfile))

theorem hasTags_testCase (hid : Unbracketed f.patternId) (hfile : Unbracketed file) :
    HasTags (testCase file f) (caseTags file f) := by
  have htext : testCase file f = around "    " (caseTag file f) "\n" ++
      (outcomeLine f ++ around "    " "/testcase" "\n") := by
    unfold testCase caseTag around
    simp
  have hopen : HasTags (around "    " (caseTag file f) "\n") [caseTag file f] :=
    hasTags_around (by decide) (unbracketed_caseTag hid hfile) (by decide)
  have hclose : HasTags (around "    " "/testcase" "\n") ["/testcase"] :=
    hasTags_around (by decide) (by decide) (by decide)
  rw [htext]
  exact hopen.append ((hasTags_outcomeLine f).append hclose)

/-- The names of the patterns need no escape. -/
theorem unbracketed_patternId {source : Text} (h : f ∈ (Audit.ofSource source).findings) :
    Unbracketed f.patternId := by
  obtain ⟨p, hp, -, -, hid, -⟩ := Audit.exists_pattern_of_mem h
  have htable : ∀ p ∈ InkPattern.table, Unbracketed p.id := by decide
  exact hid ▸ htable p hp

/-- A test suite has its own tags and those of its cases. -/
theorem hasTags_testSuite {f : FileAudit} (h : ∀ x ∈ f.audit.findings, Unbracketed x.patternId) :
    HasTags (testSuite f) (suiteTags f) := by
  have htext : testSuite f = around "  " (suiteTag f) "\n" ++
      (f.audit.findings.flatMap (testCase (escape f.path)) ++ around "  " "/testsuite" "\n") := by
    unfold testSuite suiteTag testsTag around
    simp
  have htag : Unbracketed (suiteTag f) :=
    unbracketed_testsTag (by decide) (unbracketed_escape f.path) _ _
  have hopen : HasTags (around "  " (suiteTag f) "\n") [suiteTag f] :=
    hasTags_around (by decide) htag (by decide)
  have hclose : HasTags (around "  " "/testsuite" "\n") ["/testsuite"] :=
    hasTags_around (by decide) (by decide) (by decide)
  rw [htext]
  exact hopen.append ((hasTags_flatMap fun x hx =>
    hasTags_testCase (h x hx) (unbracketed_escape f.path)).append hclose)

/-- The tags of a report are those of the files and their findings, in order. -/
theorem tags_text (files : List (Text × Text)) :
    tags (text (FileAudit.ofSources files)) = reportTags (FileAudit.ofSources files) := by
  have hsuites : HasTags ((FileAudit.ofSources files).flatMap testSuite)
      ((FileAudit.ofSources files).flatMap suiteTags) := by
    refine hasTags_flatMap fun f hf => ?_
    obtain ⟨path, source, rfl⟩ := FileAudit.exists_ofSource_of_mem hf
    exact hasTags_testSuite fun x hx => unbracketed_patternId hx
  generalize FileAudit.ofSources files = fs at hsuites ⊢
  have htext : text fs = around [] "?xml version=\"1.0\" encoding=\"UTF-8\"?" "\n" ++
      (around [] (suitesTag fs) "\n" ++ (fs.flatMap testSuite ++ around [] "/testsuites" "\n")) := by
    unfold text suitesTag testsTag around
    simp
  have hdeclaration : HasTags (around [] "?xml version=\"1.0\" encoding=\"UTF-8\"?" "\n")
      ["?xml version=\"1.0\" encoding=\"UTF-8\"?"] :=
    hasTags_around (by decide) (by decide) (by decide)
  have htag : Unbracketed (suitesTag fs) :=
    unbracketed_testsTag (by decide) (by decide) _ _
  have hopen : HasTags (around [] (suitesTag fs) "\n") [suitesTag fs] :=
    hasTags_around (by decide) htag (by decide)
  have hclose : HasTags (around [] "/testsuites" "\n") ["/testsuites"] :=
    hasTags_around (by decide) (by decide) (by decide)
  rw [htext]
  exact (hdeclaration.append (hopen.append (hsuites.append hclose))).tags_eq

/-! ## Elements and their numbers -/

/-- What the XML report says of the findings: its attributes give the numbers of tests and failures,
for all files and by file, and these are the numbers of its elements. -/
structure Tells (report : Text) (fs : List FileAudit) (t : Tally) : Prop where
  tests : (elements "testsuites" report).map (count? "tests") = [some t.total]
  failures : (elements "testsuites" report).map (count? "failures") = [some t.high]
  suites : (elements "testsuite" report).length = fs.length
  suiteTests : ∃ ns : List Nat, (elements "testsuite" report).map (count? "tests") = ns.map some ∧
    ns.sum = t.total
  suiteFailures : ∃ ns : List Nat, (elements "testsuite" report).map (count? "failures") = ns.map some ∧
    ns.sum = t.high
  testCases : (elements "testcase" report).length = t.total
  failed : (elements "failure" report).length = t.high

theorem name_testsTag {element : Text} (h : ' ' ∉ element) (name : Text) (tests failures : Nat) :
    Xml.name (testsTag element name tests failures) = element := by
  unfold testsTag suiteAttributes
  simp only [List.append_assoc]
  exact name_append_attr h _ _ _

theorem name_suiteTag (f : FileAudit) : Xml.name (suiteTag f) = "testsuite" :=
  name_testsTag (by decide) _ _ _

theorem name_suitesTag (fs : List FileAudit) : Xml.name (suitesTag fs) = "testsuites" :=
  name_testsTag (by decide) _ _ _

/-- A tag with numbers of tests tells the name and the numbers. -/
theorem attributes_testsTag {element name : Text} (h : ' ' ∉ element) (hname : '"' ∉ name)
    (tests failures : Nat) :
    attributes (testsTag element name tests failures) =
      ([("name", name), ("tests", numeral tests), ("failures", numeral failures),
        ("time", "0.0")] : List (Text × Text)) := by
  have hquote (n : Nat) : '"' ∉ numeral n := not_mem_numeral (by decide) n
  have htime : attributesOf (splitOn '"' (attr "time" "0.0" ++ [])) =
      ([("time", "0.0")] : List (Text × Text)) :=
    attributesOf_attr (by decide) (by decide) []
  rw [List.append_nil] at htime
  unfold testsTag suiteAttributes
  simp only [List.append_assoc]
  rw [attributes_append_attr h (by decide) hname, attributesOf_attr (by decide) (hquote tests),
    attributesOf_attr (by decide) (hquote failures), htime]

theorem count?_testsTag {element name : Text} (h : ' ' ∉ element) (hname : '"' ∉ name)
    (tests failures : Nat) :
    count? "tests" (testsTag element name tests failures) = some tests ∧
      count? "failures" (testsTag element name tests failures) = some failures := by
  rw [count?, count?, attributes_testsTag h hname]
  exact ⟨ofNumeral?_numeral tests, ofNumeral?_numeral failures⟩

/-- A suite tells how many findings there are in its file, and how many of high severity. -/
theorem count?_suiteTag (f : FileAudit) :
    count? "tests" (suiteTag f) = some f.audit.findings.length ∧
      count? "failures" (suiteTag f) = some f.audit.summary.high :=
  count?_testsTag (by decide) (not_mem_escape (.inr (.inr rfl)) f.path) _ _

/-- The names of the tags for a finding. -/
def caseNames (f : Finding) : List Text :=
  if f.severity = .high then ["testcase", "failure", "/failure", "/testcase"]
  else ["testcase", "system-out", "/system-out", "/testcase"]

theorem map_name_caseTags (file : Text) (f : Finding) :
    (caseTags file f).map Xml.name = caseNames f := by
  have hcase : Xml.name (caseTag file f) = "testcase" := name_append_attr (by decide) _ _ _
  have hfailure : Xml.name ("failure" ++ attr "message" (escape f.title)) = "failure" := by
    rw [← List.append_nil (attr _ _)]
    exact name_append_attr (by decide) _ _ _
  rw [caseTags, caseNames, outcomeTags, List.map_cons, hcase]
  split
  · rw [List.cons_append, List.map_cons, hfailure]
    rfl
  · rfl

/-- The names of the tags for a file. -/
def suiteNames (f : FileAudit) : List Text :=
  "testsuite" :: (f.audit.findings.flatMap caseNames ++ (["/testsuite"] : List Text))

/-- The names of the tags of a report. -/
def reportNames (fs : List FileAudit) : List Text :=
  "?xml" :: "testsuites" :: (fs.flatMap suiteNames ++ (["/testsuites"] : List Text))

theorem map_name_suiteTags (f : FileAudit) : (suiteTags f).map Xml.name = suiteNames f := by
  rw [suiteTags, suiteNames, List.map_cons, name_suiteTag, List.map_append, List.map_flatMap]
  simp only [map_name_caseTags]
  rfl

theorem map_name_reportTags (fs : List FileAudit) :
    (reportTags fs).map Xml.name = reportNames fs := by
  rw [reportTags, reportNames, List.map_cons, List.map_cons, name_suitesTag, List.map_append,
    List.map_flatMap]
  simp only [map_name_suiteTags]
  rfl

/-- A case counts as one test, and as a failure if its finding is of high severity. -/
theorem count_caseNames (f : Finding) :
    (caseNames f).count ("testsuites" : Text) = 0 ∧ (caseNames f).count ("testsuite" : Text) = 0 ∧
      (caseNames f).count ("testcase" : Text) = 1 ∧
      (caseNames f).count ("failure" : Text) = if f.severity = .high then 1 else 0 := by
  rw [caseNames]
  split <;> decide

/-- There are as many cases as findings, and as many failures as are of high severity. -/
theorem count_flatMap_caseNames (xs : List Finding) :
    (xs.flatMap caseNames).count ("testsuites" : Text) = 0 ∧
      (xs.flatMap caseNames).count ("testsuite" : Text) = 0 ∧
      (xs.flatMap caseNames).count ("testcase" : Text) = xs.length ∧
      (xs.flatMap caseNames).count ("failure" : Text) = (Tally.counted xs).high := by
  induction xs with
  | nil => exact ⟨rfl, rfl, rfl, rfl⟩
  | cons f xs ih =>
    obtain ⟨hsuites, hsuite, hcase, hfailure⟩ := count_caseNames f
    obtain ⟨ihsuites, ihsuite, ihcase, ihfailure⟩ := ih
    simp only [List.flatMap_cons, List.count_append, hsuites, hsuite, hcase, hfailure, ihsuites,
      ihsuite, ihcase, ihfailure, Tally.counted, List.countP_cons, List.length_cons,
      decide_eq_true_eq]
    refine ⟨trivial, trivial, ?_, ?_⟩ <;> omega

/-- A suite adds no tags to those of its cases but its own. -/
theorem count_suiteNames {element : Text} (hopen : element ≠ "testsuite")
    (hclose : element ≠ "/testsuite") (f : FileAudit) :
    (suiteNames f).count element = (f.audit.findings.flatMap caseNames).count element := by
  rw [suiteNames, List.count_cons_of_ne (Ne.symm hopen), List.count_append,
    List.count_cons_of_ne (Ne.symm hclose), List.count_nil, Nat.add_zero]

/-- The suites have a case for each finding, and a failure for each of high severity. -/
theorem count_flatMap_suiteNames (fs : List FileAudit) :
    (fs.flatMap suiteNames).count ("testsuites" : Text) = 0 ∧
      (fs.flatMap suiteNames).count ("testcase" : Text) = (FileAudit.findings fs).length ∧
      (fs.flatMap suiteNames).count ("failure" : Text) =
        (Tally.counted (FileAudit.findings fs)).high := by
  induction fs with
  | nil => exact ⟨rfl, rfl, rfl⟩
  | cons f fs ih =>
    obtain ⟨hsuites, -, hcase, hfailure⟩ := count_flatMap_caseNames f.audit.findings
    obtain ⟨ihsuites, ihcase, ihfailure⟩ := ih
    have hfindings : FileAudit.findings (f :: fs) = f.audit.findings ++ FileAudit.findings fs := rfl
    rw [List.flatMap_cons, List.count_append, List.count_append, List.count_append,
      count_suiteNames (by decide) (by decide), count_suiteNames (by decide) (by decide),
      count_suiteNames (by decide) (by decide), hsuites, hcase, hfailure, ihsuites, ihcase,
      ihfailure, hfindings, Tally.counted_append, List.length_append]
    exact ⟨rfl, rfl, rfl⟩

theorem named_suiteTags (f : FileAudit) : named "testsuite" (suiteTags f) = [suiteTag f] := by
  have hcases : named "testsuite" (f.audit.findings.flatMap (caseTags (escape f.path))) = [] := by
    refine named_eq_nil ?_
    rw [List.map_flatMap]
    simp only [map_name_caseTags]
    exact (count_flatMap_caseNames _).2.1
  rw [suiteTags, named_cons_of_eq (name_suiteTag f), named_append, hcases]
  rfl

theorem named_testsuite_flatMap (fs : List FileAudit) :
    named "testsuite" (fs.flatMap suiteTags) = fs.map suiteTag := by
  induction fs with
  | nil => rfl
  | cons f fs ih =>
    rw [List.flatMap_cons, named_append, named_suiteTags, ih, List.map_cons, List.singleton_append]

theorem named_testsuites_flatMap (fs : List FileAudit) :
    named "testsuites" (fs.flatMap suiteTags) = [] := by
  refine named_eq_nil ?_
  rw [List.map_flatMap]
  simp only [map_name_suiteTags]
  exact (count_flatMap_suiteNames fs).1

/-- A report has one element around all and a suite for each file. -/
theorem named_reportTags (fs : List FileAudit) :
    named "testsuites" (reportTags fs) = [suitesTag fs] ∧
      named "testsuite" (reportTags fs) = fs.map suiteTag := by
  have hother : Xml.name (suitesTag fs) ≠ "testsuite" := name_suitesTag fs ▸ by decide
  constructor
  · rw [reportTags, named_cons_of_ne (by decide), named_cons_of_eq (name_suitesTag fs),
      named_append, named_testsuites_flatMap]
    rfl
  · rw [reportTags, named_cons_of_ne (by decide), named_cons_of_ne hother, named_append,
      named_testsuite_flatMap]
    exact List.append_nil _

/-- A report has a case for each finding, and a failure for each of high severity. -/
theorem count_reportNames (fs : List FileAudit) :
    (reportNames fs).count ("testcase" : Text) = (FileAudit.findings fs).length ∧
      (reportNames fs).count ("failure" : Text) =
        (Tally.counted (FileAudit.findings fs)).high := by
  obtain ⟨-, hcase, hfailure⟩ := count_flatMap_suiteNames fs
  rw [reportNames, ← hcase, ← hfailure]
  constructor <;>
  · rw [List.count_cons_of_ne (by decide), List.count_cons_of_ne (by decide), List.count_append,
      List.count_cons_of_ne (by decide), List.count_nil, Nat.add_zero]

theorem length_findings (fs : List FileAudit) :
    (FileAudit.findings fs).length = (fs.map fun f => f.audit.findings.length).sum :=
  List.length_flatMap

/-- The findings of high severity are as many as those of each file together. -/
theorem high_counted_findings (fs : List FileAudit) :
    (Tally.counted (FileAudit.findings fs)).high =
      (fs.map fun f => (Tally.counted f.audit.findings).high).sum :=
  List.countP_flatMap

/-- The XML report tells the numbers of findings of the files. -/
theorem tells_text (files : List (Text × Text)) :
    Tells (text (FileAudit.ofSources files)) (FileAudit.ofSources files)
      (Tally.counted (FileAudit.findings (FileAudit.ofSources files))) := by
  have hreport (element : Text) : elements element (text (FileAudit.ofSources files)) =
      named element (reportTags (FileAudit.ofSources files)) := by
    rw [elements, tags_text]
  have htally := FileAudit.tally_ofSources files
  have hsummary : ∀ f ∈ FileAudit.ofSources files, _ := fun f hf => FileAudit.summary_eq_counted hf
  generalize FileAudit.ofSources files = fs at *
  obtain ⟨hsuites, hsuite⟩ := named_reportTags fs
  obtain ⟨hcase, hfailure⟩ := count_reportNames fs
  have hcount : count? "tests" (suitesTag fs) = some (FileAudit.findings fs).length ∧
      count? "failures" (suitesTag fs) = some (FileAudit.tally fs).high :=
    count?_testsTag (by decide) (by decide) _ _
  constructor
  case tests =>
    rw [hreport, hsuites, Tally.total_counted]
    exact congrArg (fun n => [n]) hcount.1
  case failures =>
    rw [hreport, hsuites, ← htally]
    exact congrArg (fun n => [n]) hcount.2
  case suites => rw [hreport, hsuite, List.length_map]
  case suiteTests =>
    refine ⟨fs.map fun f => f.audit.findings.length, ?_, ?_⟩
    · rw [hreport, hsuite, List.map_map, List.map_map]
      refine List.map_congr_left fun f _ => ?_
      rw [Function.comp_apply, Function.comp_apply, (count?_suiteTag f).1]
    · rw [Tally.total_counted, length_findings]
  case suiteFailures =>
    refine ⟨fs.map fun f => (Tally.counted f.audit.findings).high, ?_, ?_⟩
    · rw [hreport, hsuite, List.map_map, List.map_map]
      refine List.map_congr_left fun f hf => ?_
      rw [Function.comp_apply, Function.comp_apply, (count?_suiteTag f).2, hsummary f hf]
    · rw [high_counted_findings]
  case testCases => rw [hreport, length_named, map_name_reportTags, hcase, Tally.total_counted]
  case failed => rw [hreport, length_named, map_name_reportTags, hfailure]

end XmlReport

end StylusSurvey
