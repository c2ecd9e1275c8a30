import StylusSurvey.Proofs.AuditParts
import StylusSurvey.Proofs.XmlElements
import StylusSurvey.Report.Audit

/-!
# Characters of an XML report

A document may hold tabs, line feeds, carriage returns and the characters from the space on, apart
from two (`Xml.IsLegal`). Escaping is about characters with a meaning of their own and lets the
others through (`XmlReport.illegal_escape`). So the characters that a report may not hold are, one
after the other, those of the paths and those of the code of the findings
(`XmlReport.illegal_text`), and the report is legal exactly if the paths are and the lines with a
finding, trimmed (`XmlReport.isLegal_report_iff`).
-/

namespace StylusSurvey

open Text

variable {c : Char} {s t : Text}

/-! ## Lines with a finding -/

namespace Audit

variable {patterns : List InkPattern} {f : Finding} {n : Nat} {ls : List Text}

/-- The line is no comment, and a pattern of the table fires on it. -/
def IsReported (line : Text) : Prop :=
  ¬IsComment line ∧ ∃ p ∈ InkPattern.table, p.trigger.fires line = true

/-- Every finding is a hit at its place. -/
theorem mem_findingsFrom_iff :
    f ∈ findingsFrom patterns n ls ↔ ∃ place, IsHit patterns n ls place f := by
  rw [← map_snd_hitsFrom, List.mem_map]
  constructor
  · rintro ⟨⟨place, g⟩, hg, rfl⟩
    exact ⟨place, mem_hitsFrom_iff.1 hg⟩
  · rintro ⟨place, hplace⟩
    exact ⟨(place, f), mem_hitsFrom_iff.2 hplace, rfl⟩

/-- The code of the findings is that of the reported lines. -/
theorem exists_code_iff {source code : Text} :
    (∃ f ∈ (ofSource source).findings, f.code = code) ↔
      ∃ line ∈ lines source, IsReported line ∧ code = trim line := by
  constructor
  · rintro ⟨f, hf, rfl⟩
    obtain ⟨place, k, line, p, -, hline, hp, hcomment, hfires, rfl⟩ := mem_findingsFrom_iff.1 hf
    exact ⟨line, List.mem_of_getElem? hline, ⟨hcomment, p, List.mem_of_getElem? hp, hfires⟩, rfl⟩
  · rintro ⟨line, hline, ⟨hcomment, p, hp, hfires⟩, rfl⟩
    obtain ⟨k, hk⟩ := List.getElem?_of_mem hline
    obtain ⟨i, hi⟩ := List.getElem?_of_mem hp
    refine ⟨p.findingOn line (1 + k), mem_findingsFrom_iff.2 ⟨(1 + k, i), ?_⟩, rfl⟩
    exact ⟨k, line, p, rfl, hk, hi, hcomment, hfires, rfl⟩

end Audit

/-! ## Legal characters -/

namespace Xml

/-- The character may stand in a document. A text has no surrogates, which may not either. -/
def IsLegal (c : Char) : Prop :=
  c = '\t' ∨ c = '\n' ∨ c = '\r' ∨ 0x20 ≤ c.toNat ∧ c.toNat ≠ 0xFFFE ∧ c.toNat ≠ 0xFFFF

instance : DecidablePred IsLegal := fun _ =>
  inferInstanceAs (Decidable (_ ∨ _))

/-- The characters of a text that may not stand in a document, in order. -/
def illegal (s : Text) : Text :=
  s.filter fun c => ¬IsLegal c

theorem illegal_append (s t : Text) : illegal (s ++ t) = illegal s ++ illegal t :=
  List.filter_append s t

theorem illegal_flatMap {α : Type} (f : α → Text) (xs : List α) :
    illegal (xs.flatMap f) = xs.flatMap fun x => illegal (f x) := by
  induction xs with
  | nil => rfl
  | cons x xs ih => rw [List.flatMap_cons, illegal_append, ih, List.flatMap_cons]

/-- A text has no illegal character exactly if all of them are legal. -/
theorem illegal_eq_nil_iff : illegal s = [] ↔ ∀ c ∈ s, IsLegal c := by
  simp [illegal, List.filter_eq_nil_iff]

theorem isLegal_of_isDigit (h : c.isDigit = true) : IsLegal c := by
  rw [Char.isDigit, Bool.and_eq_true, decide_eq_true_eq, decide_eq_true_eq] at h
  have hlow : 0x30 ≤ c.toNat := h.1
  have hhigh : c.toNat ≤ 0x39 := h.2
  unfold IsLegal
  omega

theorem illegal_numeral (n : Nat) : illegal (numeral n) = [] :=
  illegal_eq_nil_iff.2 fun _ hc => isLegal_of_isDigit (isDigit_of_mem_numeral hc)

end Xml

open Xml

/-! ## Illegal characters of a report -/

namespace XmlReport

variable {file : Text} {f : Finding}

/-- Escaping neither adds nor removes illegal characters. -/
theorem illegal_written (c : Char) : illegal (written c) = illegal [c] := by
  by_cases hc : c ∈ special
  · have hall : ∀ c ∈ special, illegal (written c) = illegal [c] :=
      List.forall_iff_forall_mem.1 (by decide)
    exact hall c hc
  · rw [written_of_not_mem hc]

/-- Escaping keeps the characters that a document may not hold, and adds none. -/
theorem illegal_escape (s : Text) : illegal (escape s) = illegal s := by
  induction s with
  | nil => rfl
  | cons c s ih =>
    rw [escape_cons, illegal_append, illegal_written, ih, ← illegal_append, List.singleton_append]

/-- An attribute has the illegal characters of its value. -/
theorem illegal_attr {key : Text} (hkey : illegal key = []) (value : Text) :
    illegal (attr key value) = illegal value := by
  have hmarks : illegal " " = [] ∧ illegal "=\"" = [] ∧ illegal "\"" = [] := by decide
  simp only [attr, illegal_append, hkey, hmarks, List.nil_append, List.append_nil]

theorem illegal_suiteAttributes (name : Text) (tests failures : Nat) :
    illegal (suiteAttributes name tests failures) = illegal name := by
  have hkeys : illegal "name" = [] ∧ illegal "tests" = [] ∧ illegal "failures" = [] ∧
      illegal "time" = [] := by decide
  have htime : illegal "0.0" = [] := by decide
  obtain ⟨hname, htests, hfailures, htimeKey⟩ := hkeys
  rw [suiteAttributes, illegal_append, illegal_append, illegal_append, illegal_attr hname,
    illegal_attr htests, illegal_attr hfailures, illegal_attr htimeKey, illegal_numeral,
    illegal_numeral, htime]
  simp only [List.append_nil]

/-- Of what an outcome says, the name of the severity and the title are legal. -/
theorem illegal_outcomeLine (htitle : illegal f.title = []) :
    illegal (outcomeLine f) = illegal f.code := by
  unfold outcomeLine
  split
  · have hmarks : illegal "      <failure" = [] ∧ illegal ">" = [] ∧ illegal "</failure>\n" = [] ∧
        illegal "message" = [] := by decide
    simp only [illegal_append, hmarks, illegal_attr hmarks.2.2.2, illegal_escape, htitle,
      List.nil_append, List.append_nil]
  · have hmarks : illegal "      <system-out>" = [] ∧ illegal ": " = [] ∧
        illegal "</system-out>\n" = [] := by decide
    have hname : illegal f.severity.name = [] := by
      cases f.severity <;> decide
    simp only [illegal_append, hmarks, hname, illegal_escape, List.nil_append, List.append_nil]

/-- A test case has the illegal characters of the path and of the code. -/
theorem illegal_testCase (file : Text) (hid : illegal f.patternId = [])
    (htitle : illegal f.title = []) :
    illegal (testCase file f) = illegal file ++ illegal f.code := by
  have hmarks : illegal "    <testcase" = [] ∧ illegal ":" = [] ∧ illegal ">\n" = [] ∧
      illegal "    </testcase>\n" = [] := by decide
  have hkeys : illegal "name" = [] ∧ illegal "classname" = [] := by decide
  unfold testCase
  simp only [illegal_append, illegal_attr hkeys.1, illegal_attr hkeys.2, hmarks, hid,
    illegal_numeral, illegal_outcomeLine htitle, List.nil_append, List.append_nil]

/-- The illegal characters of what is written on a file: those of its path, and for each finding
those of the path and of the code. -/
def illegalOf (f : FileAudit) : Text :=
  illegal f.path ++ f.audit.findings.flatMap fun g => illegal f.path ++ illegal g.code

/-- A test suite has the illegal characters of its file. -/
theorem illegal_testSuite (path source : Text) :
    illegal (testSuite (FileAudit.ofSource path source)) =
      illegalOf (FileAudit.ofSource path source) := by
  have hmarks : illegal "  <testsuite" = [] ∧ illegal ">\n" = [] ∧
      illegal "  </testsuite>\n" = [] := by decide
  have htable : ∀ p ∈ InkPattern.table, illegal p.id = [] ∧ illegal p.title = [] := by
    decide
  have hcases : ∀ g ∈ (Audit.ofSource source).findings,
      illegal (testCase (escape path) g) = illegal path ++ illegal g.code := by
    intro g hg
    obtain ⟨p, hp, -, -, hid, -, htitle, -⟩ := Audit.exists_pattern_of_mem hg
    obtain ⟨hlegalId, hlegalTitle⟩ := htable p hp
    rw [illegal_testCase _ (hid ▸ hlegalId) (htitle ▸ hlegalTitle), illegal_escape]
  unfold testSuite
  simp only [illegal_append, hmarks, illegal_suiteAttributes, illegal_escape,
    illegal_flatMap, List.nil_append, List.append_nil]
  exact congrArg (illegal path ++ ·) (List.flatMap_congr hcases)

/-- All illegal characters of a report come from its files. -/
theorem illegal_text (files : List (Text × Text)) :
    illegal (text (FileAudit.ofSources files)) =
      (FileAudit.ofSources files).flatMap illegalOf := by
  have hmarks : illegal "<?xml version=\"1.0\" encoding=\"UTF-8\"?>\n" = [] ∧
      illegal "<testsuites" = [] ∧ illegal ">\n" = [] ∧ illegal "</testsuites>\n" = [] ∧
      illegal suitesName = [] := by decide
  unfold text
  simp only [illegal_append, hmarks, illegal_suiteAttributes, illegal_flatMap,
    List.nil_append, List.append_nil]
  refine List.flatMap_congr fun f hf => ?_
  obtain ⟨path, source, rfl⟩ := FileAudit.exists_ofSource_of_mem hf
  exact illegal_testSuite path source

/-- A file has none in the report exactly if its path and all reported lines are legal. -/
theorem illegalOf_eq_nil_iff {path source : Text} :
    illegalOf (FileAudit.ofSource path source) = [] ↔
      (∀ c ∈ path, IsLegal c) ∧
        ∀ line ∈ lines source, Audit.IsReported line → ∀ c ∈ trim line, IsLegal c := by
  have hcode : (∀ g ∈ (Audit.ofSource source).findings, illegal g.code = []) ↔
      ∀ line ∈ lines source, Audit.IsReported line → ∀ c ∈ trim line, IsLegal c := by
    simp only [illegal_eq_nil_iff]
    constructor
    · intro h line hline hreported
      obtain ⟨g, hg, hcode⟩ := Audit.exists_code_iff.2 ⟨line, hline, hreported, rfl⟩
      exact hcode ▸ h g hg
    · intro h g hg
      obtain ⟨line, hline, hreported, hcode⟩ := Audit.exists_code_iff.1 ⟨g, hg, rfl⟩
      exact hcode ▸ h line hline hreported
  rw [← hcode, illegalOf, List.append_eq_nil_iff, ← illegal_eq_nil_iff]
  refine and_congr_right fun hpath => ?_
  have hpath : illegal (FileAudit.ofSource path source).path = [] := hpath
  simp only [hpath, List.nil_append, List.flatMap_eq_nil_iff]
  rfl

/-- The characters of a report that a document may not hold are those of its paths and of the code
of its findings. So all its characters are legal exactly if those of the paths are and, for each
line that is no comment and on which a pattern fires, those of the line without the blanks around
it. -/
theorem isLegal_report_iff (files : List (Text × Text)) :
    let report := auditReport (FileAudit.ofSources files) .junit
    illegal report = (FileAudit.ofSources files).flatMap illegalOf ∧
      ((∀ c ∈ report, IsLegal c) ↔ ∀ f ∈ files, (∀ c ∈ f.1, IsLegal c) ∧
        ∀ line ∈ lines f.2, Audit.IsReported line → ∀ c ∈ trim line, IsLegal c) := by
  intro report
  have hreport : illegal report = (FileAudit.ofSources files).flatMap illegalOf :=
    illegal_text files
  refine ⟨hreport, ?_⟩
  rw [← illegal_eq_nil_iff, hreport, FileAudit.ofSources, List.flatMap_map,
    List.flatMap_eq_nil_iff]
  exact forall₂_congr fun f _ => illegalOf_eq_nil_iff

/-- A control character in a line with a finding stands in the report as it is. -/
theorem control_in_report :
    let path : Text := "lib.rs"
    let source : Text := "let red: String = \"\x1b[31m\".into();"
    (∀ c ∈ path, IsLegal c) ∧
      ∃ c ∈ auditReport (FileAudit.ofSources [(path, source)]) .junit, ¬IsLegal c := by
  intro path source
  have hillegal : illegal (text (FileAudit.ofSources [(path, source)])) = ['\x1b'] := by
    rw [illegal_text]
    decide +kernel
  have hcontrol : '\x1b' ∈ illegal (text (FileAudit.ofSources [(path, source)])) :=
    hillegal ▸ List.mem_singleton_self _
  have hpath : illegal path = [] := by decide +kernel
  exact ⟨illegal_eq_nil_iff.1 hpath, '\x1b', List.mem_of_mem_filter hcontrol, by decide⟩

end XmlReport

end StylusSurvey
