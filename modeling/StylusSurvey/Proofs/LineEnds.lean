import StylusSurvey.Audit.Pattern
import StylusSurvey.Manifest.Basic
import StylusSurvey.Proofs.Lines
import StylusSurvey.Proofs.Texts
import StylusSurvey.TestModule

/-!
# Styles of line ends

A text without carriage returns keeps its lines if each newline gets one before it
(`Text.lines_replace_newline`). All that is recovered from a source is recovered from its lines
(`Contract.parse_congr`, `Audit.withPatterns_congr`), and so it is the same for both styles
(`survey_replace_newline`).
-/

namespace StylusSurvey

namespace Text

variable {l s t : Text} {ls : List Text}

/-- A line with its line end, whatever follows. -/
theorem lines_append_newline_cons_of_not_mem (h : '\n' ∉ l) (t : Text) :
    lines (l ++ '\n' :: t) = chomp l :: lines t := by
  obtain ⟨p, ps, ht, -⟩ := exists_splitOn_eq_cons '\n' t
  rw [lines, lines, splitOn_append_cons h, ht]
  rfl

theorem chomp_append_return (l : Text) : chomp (l ++ ['\r']) = l := by
  rw [chomp, if_pos (List.getLast?_concat ..), List.dropLast_concat]

theorem replace_newline_unlines_cons (h : '\n' ∉ l) (hls : ls ≠ []) :
    replace '\n' "\r\n" (unlines (l :: ls)) =
      (l ++ ['\r']) ++ '\n' :: replace '\n' "\r\n" (unlines ls) := by
  have hnewline : replace '\n' "\r\n" ['\n'] = ['\r', '\n'] := by decide
  rw [unlines_cons hls, ← List.singleton_append, replace_append, replace_append,
    replace_of_not_mem h, hnewline]
  simp

/-- Lines that are joined by both characters of a line end are read as they are. -/
theorem lines_replace_newline_unlines (hls : ls ≠ []) (hnewline : ∀ l ∈ ls, '\n' ∉ l)
    (hreturn : ∀ l ∈ ls, '\r' ∉ l) :
    lines (replace '\n' "\r\n" (unlines ls)) = lines (unlines ls) := by
  induction ls with
  | nil => exact absurd rfl hls
  | cons l ls ih =>
    obtain ⟨hl, hnewline⟩ := List.forall_mem_cons.1 hnewline
    obtain ⟨hlr, hreturn⟩ := List.forall_mem_cons.1 hreturn
    rcases eq_or_ne ls [] with rfl | hne
    · rw [unlines_singleton, replace_of_not_mem hl]
    · have hlong : '\n' ∉ l ++ ['\r'] := List.not_mem_append hl (by decide)
      have hchomp : chomp l = l :=
        chomp_of_getLast?_ne fun hlast => hlr (List.mem_of_getLast? hlast)
      rw [replace_newline_unlines_cons hl hne, lines_append_newline_cons_of_not_mem hlong,
        chomp_append_return, ih hne hnewline hreturn, unlines_cons hne,
        lines_append_newline_cons_of_not_mem hl, hchomp]

/-- A text without carriage returns has the same lines if each of its lines ends in one. -/
theorem lines_replace_newline (h : '\r' ∉ s) : lines (replace '\n' "\r\n" s) = lines s := by
  have hpieces : ∀ l ∈ splitOn '\n' s, '\r' ∉ l := fun l hl hmem =>
    h ((infix_of_mem_splitOn hl).subset hmem)
  have hlines := lines_replace_newline_unlines (by simp [splitOn_eq])
    (fun l hl => not_mem_of_mem_splitOn hl) hpieces
  rwa [unlines_splitOn] at hlines

end Text

open Text

variable {s t : Text}

/-! ## What the lines of a source determine -/

/-- A contract is parsed from the lines of its source. -/
theorem Contract.parse_congr (h : lines s = lines t) : parse s = parse t := by
  have hlayout : StorageLayout.ofSource s = StorageLayout.ofSource t := by
    simp only [StorageLayout.ofSource, h]
  have hblocks : functionBlocks s = functionBlocks t := by
    rw [functionBlocks, functionBlocks, h]
  rw [parse, parse, hlayout, hblocks]

/-- A source is audited by its lines. -/
theorem Audit.withPatterns_congr (h : lines s = lines t) (patterns : List InkPattern) :
    withPatterns patterns s = withPatterns patterns t := by
  rw [withPatterns, withPatterns, h]

/-- A source without carriage returns gives the same contract, the same audit, the same manifests
and the same tests if each of its lines ends in one. -/
theorem survey_replace_newline (h : '\r' ∉ s) :
    Contract.parse (replace '\n' "\r\n" s) = Contract.parse s ∧
      Audit.ofSource (replace '\n' "\r\n" s) = Audit.ofSource s ∧
      (∀ options, Manifest.ofSource (replace '\n' "\r\n" s) options =
        Manifest.ofSource s options) ∧
      TestModule.ofSource (replace '\n' "\r\n" s) = TestModule.ofSource s := by
  have hlines := lines_replace_newline h
  have hcontract := Contract.parse_congr hlines
  refine ⟨hcontract, Audit.withPatterns_congr hlines InkPattern.table, fun options => ?_, ?_⟩
  · rw [Manifest.ofSource, Manifest.ofSource, hcontract]
  · rw [TestModule.ofSource, TestModule.ofSource, hcontract]

/-- A contract with a function whose body has two lines, on the last of which the source ends. -/
def ledgerSource : Text :=
  unlines ["sol_storage! \x7b", "    pub struct Ledger \x7b", "        uint256 total;", "    \x7d",
    "\x7d", "#[public]", "impl Ledger \x7b", "    pub fn total(&self) -> U256 \x7b",
    "        let t = self.total.clone();", "        t.get()", "    \x7d", "\x7d"]

/-- A source in which every line ends with a carriage return and a newline. -/
theorem survey_replace_newline_ledgerSource :
    '\r' ∉ ledgerSource ∧
      let source := replace '\n' "\r\n" ledgerSource
      (Contract.parse source).fields = [{ name := "total", type := "uint256", line := 3 }] ∧
        (Contract.parse source).functions.map (fun f => (f.line, f.body)) =
          ([(8, "let t = self.total.clone();\n        t.get()")] : List (Nat × Text)) ∧
        (Audit.ofSource source).findings.map (fun f => (f.line, f.code)) =
          ([(9, "let t = self.total.clone();")] : List (Nat × Text)) ∧
        (Manifest.ofSource source { version := some "2.0.0" }).name = "Ledger" ∧
        (TestModule.ofSource source).tests.length = 2 := by
  have hreturn : '\r' ∉ ledgerSource := by decide
  obtain ⟨hcontract, haudit, hmanifest, htests⟩ := survey_replace_newline hreturn
  refine ⟨hreturn, ?_⟩
  intro source
  rw [hcontract, haudit, hmanifest, htests]
  decide +kernel

end StylusSurvey
