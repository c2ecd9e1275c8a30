import StylusSurvey.Proofs.Reports
import StylusSurvey.Report.Audit

/-!
# Rows of a table

In a table a pipe ends a cell unless it is escaped, that is, unless an odd number of backslashes
stands directly before it. The row for a finding writes six pipes of its own
(`MarkdownReport.openPipes_row`). The code of the finding is written with a backslash before each
pipe, so that of its pipes exactly those are open in the row that were escaped in the code
(`MarkdownReport.openPipes_replace`), and the name of the file is written as it is.
-/

namespace StylusSurvey

open Text

namespace MarkdownReport

variable {e : Bool} {c : Char} {s t before before' file : Text} {f : Finding}

/-! ## Pipes and backslashes -/

/-- An odd number of backslashes stands at the end of what precedes a place, which is read
backwards. -/
def isEscapedBy (before : Text) : Bool :=
  (before.takeWhile (· = '\\')).length % 2 = 1

/-- The number of pipes in a text that are escaped, or else of those that are not, if `before`
precedes the text, read backwards. -/
def pipesBehind (escaped : Bool) (before : Text) : Text → Nat
  | [] => 0
  | c :: s =>
    (if c = '|' ∧ isEscapedBy before = escaped then 1 else 0) +
      pipesBehind escaped (c :: before) s

/-- The number of pipes in a text that are escaped, or else of those that are not. -/
def pipes (escaped : Bool) (s : Text) : Nat :=
  pipesBehind escaped [] s

/-- The number of pipes in a text that end a cell. -/
def openPipes (s : Text) : Nat :=
  pipes false s

/-- The number of pipes in a text that do not end a cell. -/
def escapedPipes (s : Text) : Nat :=
  pipes true s

/-- A backslash turns the escape by those ahead of it around. -/
theorem isEscapedBy_backslash (before : Text) :
    isEscapedBy ('\\' :: before) = !isEscapedBy before := by
  rw [isEscapedBy, isEscapedBy, List.takeWhile_cons_of_pos (by decide), List.length_cons,
    ← decide_not, decide_eq_decide]
  omega

/-- Behind any other character nothing is escaped. -/
theorem isEscapedBy_cons_of_ne (h : c ≠ '\\') (before : Text) :
    isEscapedBy (c :: before) = false := by
  rw [isEscapedBy, List.takeWhile_cons_of_neg (by simpa using h)]
  rfl

theorem isEscapedBy_cons_congr (h : isEscapedBy before = isEscapedBy before') (c : Char) :
    isEscapedBy (c :: before) = isEscapedBy (c :: before') := by
  by_cases hc : c = '\\'
  · rw [hc, isEscapedBy_backslash, isEscapedBy_backslash, h]
  · rw [isEscapedBy_cons_of_ne hc, isEscapedBy_cons_of_ne hc]

theorem isEscapedBy_reverse (h : s.getLast? ≠ some '\\') : isEscapedBy s.reverse = false := by
  rcases List.eq_nil_or_concat' s with rfl | ⟨s, c, rfl⟩
  · rfl
  · rw [List.reverse_append, List.reverse_singleton, List.singleton_append]
    exact isEscapedBy_cons_of_ne (by simpa using h) s.reverse

/-- Of what precedes a text only the backslashes at its end matter. -/
theorem pipesBehind_congr (h : isEscapedBy before = isEscapedBy before') (s : Text) :
    pipesBehind e before s = pipesBehind e before' s := by
  induction s generalizing before before' with
  | nil => rfl
  | cons c s ih => rw [pipesBehind, pipesBehind, h, ih (isEscapedBy_cons_congr h c)]

/-- The pipes of two texts are those of the first and those of the second behind it. -/
theorem pipesBehind_append (s t : Text) :
    pipesBehind e before (s ++ t) =
      pipesBehind e before s + pipesBehind e (s.reverse ++ before) t := by
  induction s generalizing before with
  | nil => rw [List.nil_append, pipesBehind, Nat.zero_add, List.reverse_nil, List.nil_append]
  | cons c s ih =>
    rw [List.cons_append, pipesBehind, pipesBehind, ih, Nat.add_assoc, List.reverse_cons,
      List.append_assoc, List.singleton_append]

theorem pipes_of_not_mem (h : '|' ∉ s) : pipes e s = 0 := by
  have hbehind : ∀ before, pipesBehind e before s = 0 := by
    induction s with
    | nil => exact fun _ => rfl
    | cons c s ih =>
      rw [List.mem_cons, not_or] at h
      intro before
      rw [pipesBehind, if_neg fun hc => h.1 hc.1.symm, ih h.2]
  exact hbehind []

/-- What ends in no backslash escapes nothing behind it. -/
theorem pipes_append_of_getLast? (h : s.getLast? ≠ some '\\') (t : Text) :
    pipes e (s ++ t) = pipes e s + pipes e t := by
  have hfront : isEscapedBy s.reverse = isEscapedBy [] := isEscapedBy_reverse h
  rw [pipes, pipesBehind_append, List.append_nil, pipesBehind_congr hfront, pipes, pipes]

/-- What begins with another character is as it is behind any text. -/
theorem pipes_append_of_head? (hpipe : t.head? ≠ some '|') (hbackslash : t.head? ≠ some '\\')
    (s : Text) : pipes e (s ++ t) = pipes e s + pipes e t := by
  rw [pipes, pipesBehind_append, pipes, pipes]
  cases t with
  | nil => rfl
  | cons c t =>
    have hc : c ≠ '|' ∧ c ≠ '\\' := by simpa using And.intro hpipe hbackslash
    have hbehind : ∀ before, pipesBehind e before (c :: t) = pipesBehind e [c] t := by
      intro before
      rw [pipesBehind, if_neg fun h => hc.1 h.1, Nat.zero_add]
      refine pipesBehind_congr ?_ t
      rw [isEscapedBy_cons_of_ne hc.2, isEscapedBy_cons_of_ne hc.2]
    rw [hbehind, hbehind]

/-! ## Code in a row -/

/-- A backslash before each pipe opens the pipes that were escaped, and escapes those that were
open. -/
theorem openPipes_replace (s : Text) : openPipes (replace '|' "\\|" s) = escapedPipes s := by
  have hbehind : ∀ before before', isEscapedBy before = isEscapedBy before' →
      pipesBehind false before (replace '|' "\\|" s) = pipesBehind true before' s := by
    induction s with
    | nil => exact fun _ _ _ => rfl
    | cons c s ih =>
      intro before before' h
      have hcons : replace '|' "\\|" (c :: s) =
          (if c = '|' then ['\\', '|'] else [c]) ++ replace '|' "\\|" s := rfl
      rw [hcons, pipesBehind]
      by_cases hc : c = '|'
      · have hopen (b : Text) : isEscapedBy ('|' :: b) = false :=
          isEscapedBy_cons_of_ne (by decide) b
        rw [if_pos hc, hc, List.cons_append, List.singleton_append, pipesBehind, pipesBehind,
          isEscapedBy_backslash, ih _ ('|' :: before') (by rw [hopen, hopen]), ← h]
        cases isEscapedBy before <;> simp
      · rw [if_neg hc, List.singleton_append, pipesBehind, if_neg fun h => hc h.1,
          if_neg fun h => hc h.1, ih _ _ (isEscapedBy_cons_congr h c)]
  exact hbehind [] [] rfl

/-! ## Rows -/

/-- A cell with the bar before it. -/
theorem openPipes_cell {bar cell rest : Text} (hbar : bar.getLast? ≠ some '\\')
    (hpipe : rest.head? ≠ some '|') (hbackslash : rest.head? ≠ some '\\') :
    openPipes (bar ++ (cell ++ rest)) = openPipes bar + (openPipes cell + openPipes rest) := by
  rw [openPipes, pipes_append_of_getLast? hbar, pipes_append_of_head? hpipe hbackslash]
  rfl

/-- A row has six open pipes, those of the name of the file, and those that are escaped in the
code. -/
theorem openPipes_row (file : Text) (htitle : '|' ∉ f.title) :
    openPipes (row file f) = 6 + openPipes file + escapedPipes f.code := by
  have hname : openPipes f.severity.name = 0 :=
    pipes_of_not_mem (by cases f.severity <;> decide)
  have hnumeral : openPipes (numeral f.line) = 0 :=
    pipes_of_not_mem (not_mem_numeral (by decide) f.line)
  have htitle : openPipes f.title = 0 := pipes_of_not_mem htitle
  have hbars : openPipes "| `" = 1 ∧ openPipes "` | " = 1 ∧ openPipes " | " = 1 ∧
      openPipes " | `" = 1 ∧ openPipes "` |\n" = 1 := by decide
  obtain ⟨hfile, hline, hbetween, hcode, hend⟩ := hbars
  have hrow : row file f = "| `" ++ (file ++ ("` | " ++ (numeral f.line ++ (" | " ++
      (f.severity.name ++ (" | " ++ (f.title ++ (" | `" ++
        (replace '|' "\\|" f.code ++ "` |\n"))))))))) := by
    unfold row
    simp only [List.append_assoc]
  rw [hrow, openPipes_cell (by decide) (by simp) (by simp),
    openPipes_cell (by decide) (by simp) (by simp), openPipes_cell (by decide) (by simp) (by simp),
    openPipes_cell (by decide) (by simp) (by simp), openPipes_cell (by decide) (by simp) (by simp),
    openPipes_replace, hname, hnumeral, htitle, hfile, hline, hbetween, hcode, hend]
  omega

/-- No title of a pattern has a pipe. -/
theorem not_mem_title_of_mem_listed {files : List (Text × Text)} {r : Text × Finding}
    (h : r ∈ listed (FileAudit.ofSources files)) : '|' ∉ r.2.title := by
  obtain ⟨-, -, source, -, hfound⟩ := exists_source_of_mem_listed h
  obtain ⟨p, hp, -, -, -, -, htitle, -⟩ := Audit.exists_pattern_of_mem hfound
  have htable : ∀ p ∈ InkPattern.table, '|' ∉ p.title := by decide
  exact htitle ▸ htable p hp

/-- The table has one row for each finding, in order. Six pipes of a row end a cell, and so do
those of the name of the file that are not escaped, and those of the code that are: the row has
five cells exactly if there are none of either. -/
theorem row_has_five_cells_iff (files : List (Text × Text)) :
    let fs := FileAudit.ofSources files
    Tells (auditReport fs .markdown) fs (Tally.counted (FileAudit.findings fs)) ∧
      ∀ r ∈ listed fs,
        openPipes (row r.1 r.2) = 6 + openPipes r.1 + escapedPipes r.2.code ∧
          (openPipes (row r.1 r.2) = 6 ↔ openPipes r.1 = 0 ∧ escapedPipes r.2.code = 0) := by
  intro fs
  refine ⟨tells_text files, fun r hr => ?_⟩
  have hrow := openPipes_row r.1 (not_mem_title_of_mem_listed hr)
  refine ⟨hrow, ?_⟩
  rw [hrow]
  omega

/-- A pipe in the code is escaped, so the row has its five cells. -/
theorem row_has_five_cells_iff_alternatives :
    let fs := FileAudit.ofSources [("src/lib.rs", "p: String | q")]
    ∃ r ∈ listed fs, r.1 = "lib.rs" ∧ r.2.code = "p: String | q" ∧ openPipes (row r.1 r.2) = 6 := by
  intro fs
  have hlisted : (listed fs).map (fun r => (r.1, r.2.code)) =
      ([("lib.rs", "p: String | q")] : List (Text × Text)) := by decide +kernel
  obtain ⟨r, hr, hcells⟩ := List.map_eq_singleton_iff.1 hlisted
  obtain ⟨hfile, hcode⟩ := Prod.mk.inj hcells
  have hmem : r ∈ listed fs := hr ▸ List.mem_singleton_self r
  have hopen := ((row_has_five_cells_iff [("src/lib.rs", "p: String | q")]).2 r hmem).2.2
  refine ⟨r, hmem, hfile, hcode, hopen ?_⟩
  rw [hfile, hcode]
  decide

/-- A pipe in the name of the file, or a backslash before one in the code, makes a sixth cell. -/
theorem sixth_cell :
    let bars := fun path source : Text =>
      (listed (FileAudit.ofSources [(path, source)])).map fun r => openPipes (row r.1 r.2)
    bars "a|b.rs" "p: String" = [7] ∧ bars "lib.rs" "p: String // a\\|b" = [7] := by
  decide +kernel

end MarkdownReport

end StylusSurvey
