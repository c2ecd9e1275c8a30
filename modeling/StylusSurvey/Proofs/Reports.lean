import StylusSurvey.Proofs.JsonValues
import StylusSurvey.Proofs.ResultDocuments
import StylusSurvey.Proofs.Runs
import StylusSurvey.Proofs.Texts
import StylusSurvey.Proofs.XmlReports

/-!
# Reports that agree

Every report on the same audits, and the exit code, tell the same numbers of findings: those
that are counted in the findings themselves. Each format says them in its own way, in the last
lines of the report for a reader, in members of JSON objects, in attributes and elements of XML,
or in a list and the rows of a table. The report as JSON is read back as the value that it tells
(`JsonReport.tells_text`).
-/

namespace StylusSurvey

open Text

theorem Text.isLine_numeral (n : Nat) : numeral n ≠ [] ∧ IsLine (numeral n) := by
  obtain ⟨c, t, hnumeral, -⟩ := exists_numeral_eq_cons n
  refine ⟨hnumeral ▸ List.cons_ne_nil c t, not_mem_numeral (by decide) n, fun hlast => ?_⟩
  exact not_mem_numeral (by decide) n (List.mem_of_getLast? hlast)

/-! ## The report for a reader -/

namespace HumanReport

/-- The line with the result. -/
def resultLine (t : Tally) : Text :=
  "audit result: " ++ (if 0 < t.high then ("FAILED" : Text) else "ok") ++ ". " ++
    numeral t.high ++ " high; " ++ numeral t.medium ++ " medium; " ++ numeral t.low ++ " low"

/-- The line with the number of files. -/
def filesLine (files : Nat) : Text :=
  "  Files scanned: " ++ numeral files

/-- The report ends with the result and the number of files. -/
def Tells (report : Text) (files : Nat) (t : Tally) : Prop :=
  ∃ before, lines report = before ++ [resultLine t, filesLine files]

/-- The line with the result is one line. -/
theorem isLine_resultLine (t : Tally) : IsLine (resultLine t) := by
  have hnumeral (n : Nat) : '\n' ∉ numeral n := not_mem_numeral (by decide) n
  have hresult : '\n' ∉ (if 0 < t.high then ("FAILED" : Text) else "ok") := by
    split <;> decide
  unfold resultLine
  generalize (if 0 < t.high then ("FAILED" : Text) else "ok") = result at hresult ⊢
  refine isLine_append ?_ (by decide)
  simp [hnumeral, hresult]

theorem isLine_filesLine (files : Nat) : IsLine (filesLine files) :=
  isLine_append (by decide) (isLine_numeral files)

/-- What is printed for a file ends with a line. -/
theorem getLast?_fileLines (f : FileAudit) : (fileLines f).getLast? = some '\n' := by
  rw [fileLines]
  split
  · rw [List.getLast?_append]
    rfl
  · rw [List.getLast?_append, List.getLast?_append]
    rfl

/-- What precedes the totals ends with a newline. -/
theorem getLast?_before (fs : List FileAudit) :
    ("Running Stylus Ink audit...\n\n" ++ fs.flatMap fileLines).getLast? = some '\n' := by
  rw [List.getLast?_append]
  induction fs with
  | nil => rfl
  | cons f fs ih =>
    rw [List.flatMap_cons, List.getLast?_append, getLast?_fileLines, Option.or_assoc]
    exact ih

/-- The report for a reader ends with the totals. -/
theorem tells_text (fs : List FileAudit) :
    Tells (text fs) fs.length (FileAudit.tally fs) := by
  obtain ⟨before, hbefore⟩ := List.getLast?_eq_some_iff.1 (getLast?_before fs)
  have htotals : totals fs =
      resultLine (FileAudit.tally fs) ++ '\n' :: (filesLine fs.length ++ '\n' :: []) := by
    have hlow : (" low\n" : Text) = " low" ++ ['\n'] := by decide
    unfold totals resultLine filesLine
    simp only [hlow, List.append_assoc]
    rfl
  have htext : text fs = before ++ '\n' :: totals fs := by
    unfold text
    rw [hbefore, List.append_assoc, List.singleton_append]
  refine ⟨lines (before ++ ['\n']), ?_⟩
  rw [htext, lines_append_newline_cons, htotals, lines_line_append (isLine_resultLine _),
    lines_line_append (isLine_filesLine _)]
  rfl

end HumanReport

/-! ## The report as JSON -/

namespace JsonReport

/-- The object gives the numbers of a tally. -/
def GivesTally (v : Json) (t : Tally) : Prop :=
  v.member? "high" = some (count t.high) ∧ v.member? "medium" = some (count t.medium) ∧
    v.member? "low" = some (count t.low)

/-- The document is of a finding of the severity. -/
def isOf (s : Severity) (v : Json) : Bool :=
  match v.member? "severity" with
  | some (.string name) => name = s.name
  | _ => false

/-- How many of the documents are of findings of each severity. -/
def counted (vs : List Json) : Tally where
  high := vs.countP (isOf .high)
  medium := vs.countP (isOf .medium)
  low := vs.countP (isOf .low)

/-- The result for a file, whose summary counts the findings that it lists. -/
def TellsFile (f : FileAudit) (v : Json) : Prop :=
  v.member? "file" = some (.string f.path) ∧
    ∃ summary vs, v.member? "summary" = some summary ∧ v.member? "findings" = some (.array vs) ∧
      GivesTally summary (counted vs) ∧ counted vs = Tally.counted f.audit.findings

/-- The numbers in the report are of at most 64 bits. -/
structure IsSized (fs : List FileAudit) (t : Tally) : Prop where
  files : fs.length ≤ maxSize
  high : t.high ≤ maxSize
  medium : t.medium ≤ maxSize
  low : t.low ≤ maxSize
  audits : ∀ f ∈ fs, f.audit.IsSized

/-- The report is the text of a value, and is read as that value, whose summary gives the numbers,
with a result for each file. -/
def Tells (report : Text) (fs : List FileAudit) (t : Tally) : Prop :=
  ∃ (v summary : Json) (results : List Json), report = v.text ∧
    (IsSized fs t → Json.read report = .ok v) ∧ v.member? "summary" = some summary ∧
    summary.member? "files" = some (count fs.length) ∧ GivesTally summary t ∧
    v.member? "results" = some (.array results) ∧ List.Forall₂ TellsFile fs results

theorem member?_tally (t : Tally) (key : Text) : (Documented.encodeSorted t).member? key =
    (List.lookup key ([("high", count t.high), ("medium", count t.medium), ("low", count t.low)] :
      List (Text × Json))).map Json.sorted := by
  have hkeys : (["high", "medium", "low"] : List Text).Nodup := by decide
  exact Json.member?_sorted [(_, _), (_, _), (_, _)] key hkeys

/-- The document of a tally gives its numbers. -/
theorem givesTally_encodeSorted (t : Tally) : GivesTally (Documented.encodeSorted t) t :=
  ⟨member?_tally t "high", member?_tally t "medium", member?_tally t "low"⟩

/-- The document of a finding tells its severity. -/
theorem isOf_encodeSorted (s : Severity) (f : Finding) :
    isOf s (Documented.encodeSorted f) = decide (f.severity = s) := by
  have hkeys : (["patternId", "severity", "title", "suggestion", "line", "code"] :
      List Text).Nodup := by decide
  have hmember : (Documented.encodeSorted f).member? "severity" = some (.string f.severity.name) := by
    refine (Json.member?_sorted [(_, _), (_, Severity.shape.encode f.severity.toValue), (_, _),
      (_, _), (_, _), (_, _)] "severity" hkeys).trans ?_
    cases f.severity <;> rfl
  rw [isOf, hmember]
  cases f.severity <;> cases s <;> decide

/-- The documents of findings are counted as the findings are. -/
theorem counted_encodeSorted (xs : List Finding) :
    counted (xs.map Documented.encodeSorted) = Tally.counted xs := by
  simp only [counted, Tally.counted, List.countP_map, Function.comp_def, isOf_encodeSorted]

theorem member?_fileJson (f : FileAudit) (key : Text) : (fileJson f).sorted.member? key =
    (List.lookup key ([("file", .string f.path),
      ("findings", .array (f.audit.findings.map Documented.encode)),
      ("summary", Documented.encode f.audit.summary)] : List (Text × Json))).map Json.sorted := by
  have hkeys : (["file", "findings", "summary"] : List Text).Nodup := by decide
  exact Json.member?_sorted [(_, _), (_, _), (_, _)] key hkeys

/-- The result for a file lists the findings and counts them. -/
theorem tellsFile_sorted {f : FileAudit} (h : f.audit.summary = Tally.counted f.audit.findings) :
    TellsFile f (fileJson f).sorted := by
  have hfindings : (fileJson f).sorted.member? "findings" =
      some (.array (f.audit.findings.map Documented.encodeSorted)) := by
    rw [member?_fileJson]
    exact congrArg some (Json.sorted_array_map Documented.encode f.audit.findings)
  refine ⟨member?_fileJson f "file", _, _, member?_fileJson f "summary", hfindings, ?_,
    counted_encodeSorted _⟩
  rw [counted_encodeSorted, ← h]
  exact givesTally_encodeSorted f.audit.summary

/-- The object with the totals. -/
def summaryJson (fs : List FileAudit) : Json :=
  .object
    [("files", count fs.length), ("high", count (FileAudit.tally fs).high),
      ("medium", count (FileAudit.tally fs).medium), ("low", count (FileAudit.tally fs).low)]

theorem member?_json (fs : List FileAudit) (key : Text) : (json fs).sorted.member? key =
    (List.lookup key ([("summary", summaryJson fs), ("results", .array (fs.map fileJson))] :
      List (Text × Json))).map Json.sorted := by
  have hkeys : (["summary", "results"] : List Text).Nodup := by decide
  exact Json.member?_sorted [(_, summaryJson fs), (_, _)] key hkeys

theorem member?_summaryJson (fs : List FileAudit) (key : Text) :
    (summaryJson fs).sorted.member? key =
      (List.lookup key ([("files", count fs.length), ("high", count (FileAudit.tally fs).high),
        ("medium", count (FileAudit.tally fs).medium), ("low", count (FileAudit.tally fs).low)] :
        List (Text × Json))).map Json.sorted := by
  have hkeys : (["files", "high", "medium", "low"] : List Text).Nodup := by decide
  exact Json.member?_sorted [(_, _), (_, _), (_, _), (_, _)] key hkeys

/-- The document of a finding can be read if its line has a number of at most 64 bits. -/
theorem fits_encode_finding {f : Finding} (h : f.line ≤ maxSize) (depth : Nat) :
    (Documented.encode f).Fits (depth + 1) := by
  have hseverity : Severity.shape.encode f.severity.toValue = .string f.severity.name := by
    cases f.severity <;> rfl
  show (Json.object [(_, .string f.patternId), (_, Severity.shape.encode f.severity.toValue),
    (_, .string f.title), (_, .string f.suggestion), (_, count f.line),
    (_, .string f.code)]).Fits (depth + 1)
  rw [hseverity]
  refine .object ?_
  simp only [List.forall_mem_cons]
  exact ⟨.string _ _, .string _ _, .string _ _, .string _ _, .natural _ h, .string _ _, nofun⟩

theorem fits_encode_tally {t : Tally} (hhigh : t.high ≤ maxSize) (hmedium : t.medium ≤ maxSize)
    (hlow : t.low ≤ maxSize) (depth : Nat) : (Documented.encode t).Fits (depth + 1) := by
  show (Json.object [(_, count t.high), (_, count t.medium), (_, count t.low)]).Fits (depth + 1)
  refine .object ?_
  simp only [List.forall_mem_cons]
  exact ⟨.natural _ hhigh, .natural _ hmedium, .natural _ hlow, nofun⟩

/-- The result for a file can be read if its numbers are of at most 64 bits. -/
theorem fits_fileJson {f : FileAudit} (h : f.audit.IsSized) (depth : Nat) :
    (fileJson f).Fits (depth + 3) := by
  refine .object ?_
  simp only [List.forall_mem_cons]
  refine ⟨.string _ _, .array (List.forall_mem_map.2 fun x hx => ?_),
    fits_encode_tally h.high h.medium h.low _, nofun⟩
  exact fits_encode_finding (h.findings x hx) depth

/-- A report with numbers of at most 64 bits can be read as JSON. -/
theorem fits_json {fs : List FileAudit} (h : IsSized fs (FileAudit.tally fs)) :
    (json fs).Fits Json.maxDepth := by
  show (json fs).Fits (122 + 5)
  refine .object ?_
  simp only [List.forall_mem_cons]
  refine ⟨.object ?_, .array (List.forall_mem_map.2 fun f hf => fits_fileJson (h.audits f hf) 122),
    nofun⟩
  simp only [List.forall_mem_cons]
  exact ⟨.natural _ h.files, .natural _ h.high, .natural _ h.medium, .natural _ h.low, nofun⟩

/-- The report as JSON gives the totals, and the findings for each file with their numbers. -/
theorem tells_text (files : List (Text × Text)) :
    Tells (text (FileAudit.ofSources files)) (FileAudit.ofSources files)
      (Tally.counted (FileAudit.findings (FileAudit.ofSources files))) := by
  have htally := FileAudit.tally_ofSources files
  have hfiles : ∀ f ∈ FileAudit.ofSources files, TellsFile f (fileJson f).sorted :=
    fun f hf => tellsFile_sorted (FileAudit.summary_eq_counted hf)
  generalize FileAudit.ofSources files = fs at *
  have hresults : (json fs).sorted.member? "results" =
      some (.array (fs.map fun f => (fileJson f).sorted)) := by
    rw [member?_json]
    exact congrArg some (Json.sorted_array_map fileJson fs)
  rw [← htally]
  refine ⟨_, _, _, rfl, fun hsized => Json.read_text_sorted (fits_json hsized),
    member?_json fs "summary", member?_summaryJson fs "files",
    ⟨member?_summaryJson fs "high", member?_summaryJson fs "medium",
      member?_summaryJson fs "low"⟩, hresults, ?_⟩
  rw [List.forall₂_map_right_iff, List.forall₂_same]
  exact hfiles

end JsonReport

/-! ## The report as Markdown -/

namespace MarkdownReport

/-- The lines with the numbers. -/
def summaryLines (files : Nat) (t : Tally) : List Text :=
  ["## Summary", [],
    "- **Files scanned:** " ++ numeral files,
    "- **High:** " ++ numeral t.high ++ " ❌",
    "- **Medium:** " ++ numeral t.medium ++ " ⚠️",
    "- **Low:** " ++ numeral t.low ++ " ℹ️", []]

/-- The lines of the table before its first row. -/
def tableLines : List Text :=
  ["## Findings", [],
    "| File | Line | Severity | Pattern | Code |",
    "|------|------|----------|---------|------|"]

/-- The lines up to the first row of the table. -/
def headLines (files : Nat) (t : Tally) : List Text :=
  (["# Stylus Ink Audit Report", []] : List Text) ++ (summaryLines files t ++ tableLines)

/-- The findings of all files in order, each with the name under which its file is listed. -/
def listed (fs : List FileAudit) : List (Text × Finding) :=
  fs.flatMap fun f => f.audit.findings.map fun x => (fileName f.path, x)

/-- The line of the row for a finding. -/
def rowLine (r : Text × Finding) : Text :=
  (row r.1 r.2).dropLast

/-- The report gives the numbers in a list and then has a table, in which the rows are those of the
findings in order. Behind the table the report ends or has an empty line. A row is a line if the
name of the file is. -/
structure Tells (report : Text) (fs : List FileAudit) (t : Tally) : Prop where
  table : ∃ rest, report = unlines (headLines fs.length t) ++
    '\n' :: ((listed fs).flatMap (fun r => row r.1 r.2) ++ rest) ∧
      (rest = [] ∨ rest.head? = some '\n')
  rows : (listed fs).length = t.total
  order : (listed fs).map (·.2) = FileAudit.findings fs
  lines : (∀ f ∈ fs, '\n' ∉ fileName f.path) → ∃ rest, lines report =
    headLines fs.length t ++ (listed fs).map rowLine ++ rest ∧ (rest = [] ∨ rest.head? = some [])

/-- The table lists the findings of all files, in order. -/
theorem order_listed (fs : List FileAudit) :
    (listed fs).map (·.2) = FileAudit.findings fs := by
  rw [listed, List.map_flatMap, FileAudit.findings]
  simp only [List.map_map, Function.comp_def, List.map_id']

theorem flatMap_rows (fs : List FileAudit) :
    fs.flatMap rows = (listed fs).flatMap fun r => row r.1 r.2 := by
  rw [listed, List.flatMap_assoc]
  simp only [List.flatMap_map]
  rfl

theorem summary_eq (fs : List FileAudit) : summary fs =
    (summaryLines fs.length (FileAudit.tally fs)).flatMap fun l => l ++ ['\n'] := by
  unfold summary summaryLines
  simp

/-- The table is printed row by row. -/
theorem table_eq (fs : List FileAudit) : table fs =
    tableLines.flatMap (fun l => l ++ ['\n']) ++ (listed fs).flatMap fun r => row r.1 r.2 := by
  have hhead : ("## Findings\n\n" ++ "| File | Line | Severity | Pattern | Code |\n" ++
      "|------|------|----------|---------|------|\n" : Text) =
        tableLines.flatMap fun l => l ++ ['\n'] := by decide
  unfold table
  rw [hhead, flatMap_rows]

/-- The report is its head lines, the rows of the table, and what is suggested. -/
theorem text_eq (fs : List FileAudit) : text fs =
    unlines (headLines fs.length (FileAudit.tally fs)) ++
      '\n' :: ((listed fs).flatMap (fun r => row r.1 r.2) ++ suggestions fs) := by
  have htitle : ("# Stylus Ink Audit Report\n\n" : Text) =
      (["# Stylus Ink Audit Report", []] : List Text).flatMap fun l => l ++ ['\n'] := by decide
  have hlines : headLines fs.length (FileAudit.tally fs) ≠ [] := by simp [headLines]
  rw [unlines_append_newline_cons hlines, headLines, List.flatMap_append, List.flatMap_append,
    ← summary_eq, ← htitle]
  unfold text
  rw [table_eq]
  simp only [List.append_assoc]

/-- Nothing is suggested, or the suggestions begin on a new line. -/
theorem suggestions_cases (fs : List FileAudit) :
    suggestions fs = [] ∨ ∃ rest, suggestions fs = '\n' :: rest := by
  unfold suggestions
  split
  · exact .inl rfl
  · exact .inr ⟨_, rfl⟩

theorem isLine_of_mem_headLines {files : Nat} {t : Tally} :
    ∀ l ∈ headLines files t, IsLine l := by
  have hcount (label mark : Text) (n : Nat) (hlabel : '\n' ∉ label) (hmark : mark ≠ [] ∧ IsLine mark) :
      IsLine (label ++ numeral n ++ mark) :=
    isLine_append (List.not_mem_append hlabel (isLine_numeral n).2.1) hmark
  have htable : ∀ l ∈ tableLines, IsLine l := by decide
  intro l hl
  simp only [headLines, summaryLines, List.mem_append, List.mem_cons, List.not_mem_nil,
    or_false] at hl
  rcases hl with (rfl | rfl) | (rfl | rfl | rfl | rfl | rfl | rfl | rfl) | hl
  · decide
  · decide
  · decide
  · decide
  · exact isLine_append (by decide) (isLine_numeral files)
  · exact hcount _ _ t.high (by decide) (by decide)
  · exact hcount _ _ t.medium (by decide) (by decide)
  · exact hcount _ _ t.low (by decide) (by decide)
  · decide
  · exact htable l hl

/-- A row says on one line where a finding is, how severe, and what it is about. -/
theorem row_eq (file : Text) (f : Finding) : row file f =
    ("| `" ++ file ++ "` | " ++ numeral f.line ++ " | " ++ f.severity.name ++ " | " ++ f.title ++
      " | `" ++ replace '|' "\\|" f.code ++ "` |") ++ ['\n'] := by
  unfold row
  simp

/-- A row is about a file, and about a finding in its source. -/
theorem exists_source_of_mem_listed {files : List (Text × Text)} {r : Text × Finding}
    (h : r ∈ listed (FileAudit.ofSources files)) : ∃ f ∈ FileAudit.ofSources files,
      ∃ source, r.1 = fileName f.path ∧ r.2 ∈ (Audit.ofSource source).findings := by
  obtain ⟨f, hf, hr⟩ := List.mem_flatMap.1 h
  obtain ⟨x, hx, rfl⟩ := List.mem_map.1 hr
  obtain ⟨path, source, rfl⟩ := FileAudit.exists_ofSource_of_mem hf
  exact ⟨_, hf, source, rfl, hx⟩

/-- A row is a line. -/
theorem isLine_rowLine {file : Text} {f : Finding} (hfile : '\n' ∉ file) (htitle : '\n' ∉ f.title)
    (hcode : '\n' ∉ f.code) : IsLine (rowLine (file, f)) := by
  have hname : '\n' ∉ f.severity.name := by
    cases f.severity <;> decide
  have hreplaced : '\n' ∉ replace '|' "\\|" f.code := not_mem_replace (by decide) (.inr hcode)
  have hline : '\n' ∉ numeral f.line := (isLine_numeral f.line).2.1
  rw [rowLine, row_eq, List.dropLast_concat]
  generalize replace '|' "\\|" f.code = code at hreplaced ⊢
  refine isLine_append ?_ (by decide)
  simp [hfile, hline, hname, htitle, hreplaced]

theorem row_eq_rowLine (r : Text × Finding) : row r.1 r.2 = rowLine r ++ ['\n'] := by
  rw [rowLine, row_eq, List.dropLast_concat]

/-- A row is one line if there is no newline in the name of its file. -/
theorem isLine_of_mem_listed {files : List (Text × Text)} {r : Text × Finding}
    (hfiles : ∀ f ∈ FileAudit.ofSources files, '\n' ∉ fileName f.path)
    (h : r ∈ listed (FileAudit.ofSources files)) : IsLine (rowLine r) := by
  obtain ⟨f, hf, source, hfile, hfound⟩ := exists_source_of_mem_listed h
  obtain ⟨p, hp, line, hline, -, -, htitle, hcode⟩ := Audit.exists_pattern_of_mem hfound
  have htable : ∀ p ∈ InkPattern.table, '\n' ∉ p.title := by decide
  refine isLine_rowLine (hfile ▸ hfiles f hf) (htitle ▸ htable p hp) fun hmem => ?_
  rw [hcode] at hmem
  exact not_mem_of_mem_lines hline (mem_of_mem_trim hmem)

/-- The report as Markdown gives the totals in its head and a row for each finding. -/
theorem tells_text (files : List (Text × Text)) :
    Tells (text (FileAudit.ofSources files)) (FileAudit.ofSources files)
      (Tally.counted (FileAudit.findings (FileAudit.ofSources files))) := by
  have htally := FileAudit.tally_ofSources files
  have hrows : (∀ f ∈ FileAudit.ofSources files, '\n' ∉ fileName f.path) →
      ∀ r ∈ listed (FileAudit.ofSources files), IsLine (rowLine r) :=
    fun hfiles r hr => isLine_of_mem_listed hfiles hr
  generalize FileAudit.ofSources files = fs at *
  have htext := text_eq fs
  rw [htally] at htext
  constructor
  case table =>
    refine ⟨suggestions fs, htext, ?_⟩
    rcases suggestions_cases fs with h | ⟨rest, h⟩
    · exact .inl h
    · exact .inr (h ▸ rfl)
  case rows => rw [Tally.total_counted, ← order_listed, List.length_map]
  case order => exact order_listed fs
  case lines =>
    intro hfiles
    have hhead : Text.lines (unlines (headLines fs.length
        (Tally.counted (FileAudit.findings fs))) ++ ['\n']) = headLines fs.length _ :=
      lines_unlines_append_newline (by simp [headLines]) isLine_of_mem_headLines
    refine ⟨Text.lines (suggestions fs), ?_, ?_⟩
    · simp only [htext, row_eq_rowLine]
      rw [lines_append_newline_cons, hhead, lines_flatMap_append (hrows hfiles), List.append_assoc]
    · rcases suggestions_cases fs with h | ⟨rest, h⟩
      · exact .inl (by rw [h]; rfl)
      · refine .inr ?_
        rw [h, ← List.nil_append ('\n' :: rest), lines_line_append (by decide)]
        rfl

end MarkdownReport

/-! ## Runs of an audit -/

namespace Environment

variable {w : Environment} {paths : List Text} {fs : List FileAudit}

/-- The audits of the files that the paths stand for, or of those in the working directory. -/
def audited (w : Environment) (paths : List Text) : Except RunError (List FileAudit) :=
  if paths = [] then w.treeAudits else w.audits paths

/-- Files that are all texts are audited as texts. -/
theorem exists_ofSources_of_mapM {sources : List SourceFile}
    (h : sources.mapM auditFile = .ok fs) : ∃ files, fs = FileAudit.ofSources files := by
  induction sources generalizing fs with
  | nil => exact ⟨[], (Except.ok.inj h).symm⟩
  | cons source sources ih =>
    rw [List.mapM_cons, auditFile] at h
    cases htext : ofBytes? source.content with
    | none =>
      rw [htext] at h
      cases h
    | some text =>
      rw [htext] at h
      cases hothers : sources.mapM auditFile with
      | error e =>
        rw [hothers] at h
        cases h
      | ok others =>
        rw [hothers] at h
        obtain ⟨files, rfl⟩ := ih hothers
        exact ⟨(source.path, text) :: files, (Except.ok.inj h).symm⟩

/-- What is audited are texts under paths. -/
theorem exists_ofSources_of_audited (h : w.audited paths = .ok fs) :
    ∃ files, fs = FileAudit.ofSources files := by
  rw [audited] at h
  split at h
  · exact exists_ofSources_of_mapM h
  · rw [audits] at h
    cases hsources : w.sources paths with
    | error e =>
      rw [hsources] at h
      cases h
    | ok sources =>
      rw [hsources] at h
      exact exists_ofSources_of_mapM h

end Environment

/-- An audit has the report on what is audited to say. -/
theorem Command.answer_audit (w : Environment) (paths : List Text) (format : OutputFormat)
    (output : Option Text) : (audit paths format output).answer w =
      (w.audited paths).map fun fs => auditAnswer fs format := by
  rw [answer, Environment.audited]
  split
  · cases w.treeAudits <;> rfl
  · cases w.audits paths <;> rfl

/-- The exit code of an audit is one exactly if a finding is of high severity. -/
theorem Command.exit_auditAnswer (fs : List FileAudit) (format : OutputFormat) :
    (auditAnswer fs format).exit = 1 ↔ 0 < (FileAudit.tally fs).high := by
  show (if 0 < (FileAudit.tally fs).high then 1 else 0) = 1 ↔ _
  split <;> simp [*]

/-- What is answered is the report on what is audited, and the exit code is one if a finding is of
high severity. -/
theorem Command.exists_files_of_audit {w : Environment} {paths : List Text} {format : OutputFormat}
    {output : Option Text} {a : Answer} (h : (audit paths format output).answer w = .ok a) :
    ∃ files, w.audited paths = .ok (FileAudit.ofSources files) ∧
      a.text = auditReport (FileAudit.ofSources files) format ∧
      (a.exit = 1 ↔ 0 < (Tally.counted (FileAudit.findings (FileAudit.ofSources files))).high) := by
  rw [answer_audit] at h
  cases haudited : w.audited paths with
  | error e =>
    rw [haudited] at h
    cases h
  | ok fs =>
    rw [haudited] at h
    obtain ⟨files, rfl⟩ := w.exists_ofSources_of_audited haudited
    obtain rfl := Except.ok.inj h
    refine ⟨files, rfl, rfl, ?_⟩
    rw [← FileAudit.tally_ofSources]
    exact exit_auditAnswer _ format

/-! ## The same totals -/

/-- All reports on audited sources and the exit code of an audit tell the numbers of findings of
each severity. -/
theorem auditReports_tell_findings :
    (∀ files : List (Text × Text),
      let fs := FileAudit.ofSources files
      let t := Tally.counted (FileAudit.findings fs)
      HumanReport.Tells (auditReport fs .human) files.length t ∧
        JsonReport.Tells (auditReport fs .json) fs t ∧
        XmlReport.Tells (auditReport fs .junit) fs t ∧
        MarkdownReport.Tells (auditReport fs .markdown) fs t) ∧
    ∀ (w : Environment) (paths : List Text) (format : OutputFormat) (output : Option Text),
      let o := (Command.audit paths format output).run w
      o.error = none → ∃ files, w.audited paths = .ok (FileAudit.ofSources files) ∧
        o.emitted? = some (auditReport (FileAudit.ofSources files) format) ∧
        (o.exit = 1 ↔
          0 < (Tally.counted (FileAudit.findings (FileAudit.ofSources files))).high) := by
  constructor
  · intro files
    have hhuman := HumanReport.tells_text (FileAudit.ofSources files)
    rw [FileAudit.tally_ofSources, FileAudit.ofSources, List.length_map] at hhuman
    exact ⟨hhuman, JsonReport.tells_text files, XmlReport.tells_text files,
      MarkdownReport.tells_text files⟩
  · intro w paths format output o ho
    obtain ⟨a, hanswer, hexit, hemitted⟩ := Command.exists_answer ho
    obtain ⟨files, haudited, htext, hhigh⟩ := Command.exists_files_of_audit hanswer
    exact ⟨files, haudited, htext ▸ hemitted, hexit ▸ hhigh⟩

/-- A source with a finding of each severity, in a file whose name looks like a tag. -/
def storeSource : Text :=
  unlines ["let m: HashMap<u8, u8> = x.clone();", "// let s = String::new();",
    "let s = format!(\"|\", 1);"]

/-- Runs that print the report in each format. -/
theorem auditReports_tell_findings_store :
    let w := Environment.ofText storeSource
    let o (format : OutputFormat) := (Command.audit ["<a>.rs"] format none).run w
    let fs := FileAudit.ofSources [("<a>.rs", storeSource)]
    let t : Tally := { high := 1, medium := 1, low := 1 }
    (∀ format, (o format).error = none ∧ (o format).exit = 1) ∧ w.audited ["<a>.rs"] = .ok fs ∧
      HumanReport.Tells (o .human).stdout 1 t ∧
      (JsonReport.IsSized fs t ∧ JsonReport.Tells (o .json).stdout fs t) ∧
      XmlReport.Tells (o .junit).stdout fs t ∧ MarkdownReport.Tells (o .markdown).stdout fs t := by
  intro w o fs t
  have hcounted : Tally.counted (FileAudit.findings fs) = t := by
    decide +kernel
  have htext : ofBytes? (bytes storeSource) = some storeSource := ofBytes?_eq_some_iff.2 rfl
  have haudited : w.audited ["<a>.rs"] = .ok fs := by
    show [⟨"<a>.rs", bytes storeSource⟩].mapM Environment.auditFile = _
    rw [List.mapM_cons, Environment.auditFile, htext]
    rfl
  have hrun (format : OutputFormat) : o format = w.emit (Command.auditAnswer fs format) none := by
    show Command.run w _ = _
    rw [Command.run, Command.answer_audit, haudited]
    rfl
  have hstdout (format : OutputFormat) : (o format).stdout = auditReport fs format :=
    congrArg Outcome.stdout (hrun format)
  have herror (format : OutputFormat) : (o format).error = none :=
    congrArg Outcome.error (hrun format)
  have hexit (format : OutputFormat) : (o format).exit = 1 := by
    obtain ⟨files, hfiles, -, hexit⟩ :=
      auditReports_tell_findings.2 w ["<a>.rs"] format none (herror format)
    rw [← Except.ok.inj (haudited.symm.trans hfiles), hcounted] at hexit
    exact hexit.2 (by decide)
  have hsized : JsonReport.IsSized fs t :=
    { files := by decide, high := by decide, medium := by decide, low := by decide,
      audits := List.forall_mem_singleton.2
        { findings := by decide +kernel, high := by decide +kernel, medium := by decide +kernel,
          low := by decide +kernel } }
  obtain ⟨hhuman, hjson, hjunit, hmarkdown⟩ :=
    auditReports_tell_findings.1 [("<a>.rs", storeSource)]
  rw [hcounted, ← hstdout] at hhuman hjson hjunit hmarkdown
  exact ⟨fun format => ⟨herror format, hexit format⟩, haudited, hhuman, ⟨hsized, hjson⟩, hjunit,
    hmarkdown⟩

end StylusSurvey
