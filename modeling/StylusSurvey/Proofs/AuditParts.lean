import Mathlib.Data.List.Basic
import Mathlib.Data.Prod.Lex
import StylusSurvey.Proofs.Lines
import StylusSurvey.Proofs.Tallies
import StylusSurvey.Proofs.Texts

/-!
# Audits by parts

An audit goes over a source line by line, and on each line over the table pattern by pattern. So
its findings are the hits (`Audit.IsHit`) in the order of their places, which are a line and a
position in the table (`Audit.mem_hitsFrom_iff`, `Audit.pairwise_hitsFrom`). A text that goes on
behind a line end is audited in two parts (`Audit.findingsFrom_append`, `Audit.findingsFrom_add`),
and so is, on each line, a table that goes on (`Audit.findingsFrom_append_patterns`).
-/

namespace StylusSurvey

open Text

/-- The finding, so many lines further down. -/
def Finding.below (count : Nat) (f : Finding) : Finding :=
  { f with line := f.line + count }

theorem InkPattern.finding?_add (p : InkPattern) (line : Text) (n count : Nat) :
    p.finding? line (n + count) = (p.finding? line n).map (Finding.below count) := by
  rw [finding?, finding?]
  split <;> rfl

namespace Audit

variable {patterns : List InkPattern} {line : Text} {ls : List Text} {n m : Nat} {f : Finding}

/-- The first characters of the line that are not blank are two slashes. -/
def IsComment (line : Text) : Prop :=
  ∃ blanks rest : Text, line = blanks ++ '/' :: '/' :: rest ∧ ∀ c ∈ blanks, isBlank c = true

/-- The lines are numbered from `n` on. The line at the place is no comment, the pattern at the
place fires on it, and the finding says so. -/
def IsHit (patterns : List InkPattern) (n : Nat) (ls : List Text) (place : Nat × Nat)
    (f : Finding) : Prop :=
  ∃ k line p, place.1 = n + k ∧ ls[k]? = some line ∧ patterns[place.2]? = some p ∧
    ¬IsComment line ∧ p.trigger.fires line = true ∧ f = p.findingOn line place.1

/-- The findings on a line of the source. -/
def onLine (a : Audit) (n : Nat) : List Finding :=
  a.findings.filter fun f => f.line = n

/-- The test for a comment line finds those whose first characters behind blanks are two slashes. -/
theorem isComment_iff : isComment line = true ↔ IsComment line := by
  have hslash : isBlank '/' = false := by decide
  rw [isComment, startsWith, List.isPrefixOf_iff_prefix, IsComment]
  constructor
  · rintro ⟨rest, hrest⟩
    obtain ⟨blanks, hblanks, hline⟩ := exists_blanks_append_trimStart line
    exact ⟨blanks, rest, by rw [hline, ← hrest]; rfl, hblanks⟩
  · rintro ⟨blanks, rest, rfl, hblanks⟩
    rw [trimStart_blanks_append hblanks, trimStart_cons hslash]
    exact ⟨rest, rfl⟩

/-! ## Hits in order -/

/-- The hits on line number `n`, each at its place. -/
def hitsOn (patterns : List InkPattern) (line : Text) (n : Nat) :
    List ((Nat × Nat) × Finding) :=
  if isComment line then []
  else patterns.zipIdx.filterMap fun (p, i) => (p.finding? line n).map fun f => ((n, i), f)

/-- The hits on the lines numbered from `n` on, each at its place. -/
def hitsFrom (patterns : List InkPattern) (n : Nat) : List Text → List ((Nat × Nat) × Finding)
  | [] => []
  | line :: rest => hitsOn patterns line n ++ hitsFrom patterns (n + 1) rest

theorem map_snd_hitsOn (patterns : List InkPattern) (line : Text) (n : Nat) :
    (hitsOn patterns line n).map (·.2) = findingsOn patterns line n := by
  rw [hitsOn, findingsOn]
  split
  · rfl
  · have hzip : patterns.filterMap (fun p => p.finding? line n) =
        (patterns.zipIdx.map Prod.fst).filterMap fun p => p.finding? line n := by
      rw [List.zipIdx_map_fst]
    rw [hzip, List.map_filterMap, List.filterMap_map]
    simp [Function.comp_def]

/-- The findings are the hits without their places. -/
theorem map_snd_hitsFrom (patterns : List InkPattern) (n : Nat) (ls : List Text) :
    (hitsFrom patterns n ls).map (·.2) = findingsFrom patterns n ls := by
  induction ls generalizing n with
  | nil => rfl
  | cons line ls ih => rw [hitsFrom, findingsFrom, List.map_append, map_snd_hitsOn, ih]

/-- A hit on a line is at the place of a pattern that fires there, and the line is no comment. -/
theorem mem_hitsOn_iff {place : Nat × Nat} : (place, f) ∈ hitsOn patterns line n ↔
    ∃ p, place.1 = n ∧ patterns[place.2]? = some p ∧ ¬IsComment line ∧
      p.trigger.fires line = true ∧ f = p.findingOn line place.1 := by
  rw [hitsOn, ← isComment_iff]
  split
  · simp [*]
  · simp only [List.mem_filterMap, Option.map_eq_some_iff, InkPattern.finding?_eq_some_iff]
    constructor
    · rintro ⟨⟨p, i⟩, hp, g, ⟨hfires, rfl⟩, hplace⟩
      obtain ⟨rfl, rfl⟩ := Prod.mk.inj hplace
      exact ⟨p, rfl, List.mem_zipIdx_iff_getElem?.1 hp, by assumption, hfires, rfl⟩
    · rintro ⟨p, rfl, hp, -, hfires, rfl⟩
      exact ⟨(p, place.2), List.mem_zipIdx_iff_getElem?.2 hp, _, ⟨hfires, rfl⟩, rfl⟩

/-- All hits are found, and nothing else is. -/
theorem mem_hitsFrom_iff {place : Nat × Nat} :
    (place, f) ∈ hitsFrom patterns n ls ↔ IsHit patterns n ls place f := by
  induction ls generalizing n with
  | nil => simp [hitsFrom, IsHit]
  | cons line ls ih =>
    rw [hitsFrom, List.mem_append, ih, mem_hitsOn_iff]
    constructor
    · rintro (⟨p, hn, hp, hhit⟩ | ⟨k, l, p, hn, hl, hp, hhit⟩)
      · exact ⟨0, line, p, hn, rfl, hp, hhit⟩
      · exact ⟨k + 1, l, p, by omega, hl, hp, hhit⟩
    · rintro ⟨k, l, p, hn, hl, hp, hhit⟩
      cases k with
      | zero =>
        obtain rfl := Option.some.inj hl
        exact .inl ⟨p, hn, hp, hhit⟩
      | succ k => exact .inr ⟨k, l, p, by omega, hl, hp, hhit⟩

/-- The hits on a line are in the order of the patterns. -/
theorem pairwise_hitsOn (patterns : List InkPattern) (line : Text) (n : Nat) :
    (hitsOn patterns line n).Pairwise fun h h' => toLex h.1 < toLex h'.1 := by
  rw [hitsOn]
  split
  · exact .nil
  · have hpositions : patterns.zipIdx.Pairwise fun x y => x.2 < y.2 := by
      rw [← List.pairwise_map (f := Prod.snd), List.zipIdx_map_snd]
      exact List.pairwise_lt_range'
    refine List.Pairwise.filterMap _ ?_ hpositions
    rintro ⟨p, i⟩ ⟨p', i'⟩ hlt h hh h' hh'
    obtain ⟨g, -, rfl⟩ := Option.map_eq_some_iff.1 hh
    obtain ⟨g', -, rfl⟩ := Option.map_eq_some_iff.1 hh'
    exact Prod.Lex.toLex_lt_toLex.2 (.inr ⟨rfl, hlt⟩)

/-- Hits come in the order of their places. -/
theorem pairwise_hitsFrom (patterns : List InkPattern) (n : Nat) (ls : List Text) :
    (hitsFrom patterns n ls).Pairwise fun h h' => toLex h.1 < toLex h'.1 := by
  induction ls generalizing n with
  | nil => exact .nil
  | cons line ls ih =>
    refine List.pairwise_append.2 ⟨pairwise_hitsOn patterns line n, ih (n + 1), ?_⟩
    rintro ⟨place, f⟩ hhere ⟨place', f'⟩ hbelow
    obtain ⟨-, hn, -⟩ := mem_hitsOn_iff.1 hhere
    obtain ⟨k, -, -, hn', -⟩ := mem_hitsFrom_iff.1 hbelow
    have hlt : place.1 < place'.1 := by
      have hfirst : place.1 = n := hn
      have hlater : place'.1 = n + 1 + k := hn'
      omega
    exact Prod.Lex.toLex_lt_toLex.2 (.inl hlt)

/-! ## A text in two parts -/

/-- The findings on a line that stands further down are the same ones further down. -/
theorem findingsOn_add (patterns : List InkPattern) (line : Text) (n count : Nat) :
    findingsOn patterns line (n + count) =
      (findingsOn patterns line n).map (Finding.below count) := by
  rw [findingsOn, findingsOn]
  split
  · rfl
  · rw [List.map_filterMap]
    simp only [InkPattern.finding?_add]

/-- Lines have the same findings wherever their numbers begin. -/
theorem findingsFrom_add (patterns : List InkPattern) (n count : Nat) (ls : List Text) :
    findingsFrom patterns (n + count) ls =
      (findingsFrom patterns n ls).map (Finding.below count) := by
  induction ls generalizing n with
  | nil => rfl
  | cons line ls ih =>
    rw [findingsFrom, findingsFrom, List.map_append, findingsOn_add, Nat.add_right_comm, ih]

/-- The findings on some lines and on others below them are those on the first and those on the
others. -/
theorem findingsFrom_append (patterns : List InkPattern) (n : Nat) (ls ms : List Text) :
    findingsFrom patterns n (ls ++ ms) =
      findingsFrom patterns n ls ++ findingsFrom patterns (n + ls.length) ms := by
  induction ls generalizing n with
  | nil => rfl
  | cons line ls ih =>
    rw [List.cons_append, findingsFrom, findingsFrom, ih, List.append_assoc, List.length_cons,
      Nat.add_assoc n 1, Nat.add_comm 1]

theorem counted_map_below (count : Nat) (fs : List Finding) :
    Tally.counted (fs.map (Finding.below count)) = Tally.counted fs := by
  simp only [Tally.counted, List.countP_map]
  rfl

/-! ## A table in two parts -/

theorem findingsOn_append_patterns (p q : List InkPattern) (line : Text) (n : Nat) :
    findingsOn (p ++ q) line n = findingsOn p line n ++ findingsOn q line n := by
  rw [findingsOn, findingsOn, findingsOn]
  split
  · rfl
  · exact List.filterMap_append

theorem line_of_mem_findingsOn (h : f ∈ findingsOn patterns line n) : f.line = n := by
  rw [← map_snd_hitsOn] at h
  obtain ⟨⟨place, g⟩, hg, rfl⟩ := List.mem_map.1 h
  obtain ⟨-, hn, -, -, -, rfl⟩ := mem_hitsOn_iff.1 hg
  exact hn

theorem le_line_of_mem_findingsFrom (h : f ∈ findingsFrom patterns n ls) : n ≤ f.line := by
  rw [← map_snd_hitsFrom] at h
  obtain ⟨⟨place, g⟩, hg, rfl⟩ := List.mem_map.1 h
  obtain ⟨k, -, -, hn, -, -, -, -, rfl⟩ := mem_hitsFrom_iff.1 hg
  exact hn ▸ Nat.le_add_right n k

/-- The findings with the number of the first line are those on that line. -/
theorem filter_findingsFrom_cons_self (patterns : List InkPattern) (n : Nat) (line : Text)
    (ls : List Text) :
    (findingsFrom patterns n (line :: ls)).filter (fun f => f.line = n) =
      findingsOn patterns line n := by
  have hfirst : ∀ f ∈ findingsOn patterns line n, decide (f.line = n) = true :=
    fun f hf => decide_eq_true (line_of_mem_findingsOn hf)
  have hbelow : ∀ f ∈ findingsFrom patterns (n + 1) ls, ¬decide (f.line = n) = true := by
    intro f hf
    have hle := le_line_of_mem_findingsFrom hf
    simp only [decide_eq_true_eq]
    omega
  rw [findingsFrom, List.filter_append, List.filter_eq_self.2 hfirst,
    List.filter_eq_nil_iff.2 hbelow, List.append_nil]

/-- The findings with the number of a later line are among those on the later lines. -/
theorem filter_findingsFrom_cons_of_lt (patterns : List InkPattern) (line : Text) (ls : List Text)
    (h : n < m) : (findingsFrom patterns n (line :: ls)).filter (fun f => f.line = m) =
      (findingsFrom patterns (n + 1) ls).filter fun f => f.line = m := by
  have hfirst : ∀ f ∈ findingsOn patterns line n, ¬decide (f.line = m) = true := by
    intro f hf
    simp only [line_of_mem_findingsOn hf, decide_eq_true_eq]
    omega
  rw [findingsFrom, List.filter_append, List.filter_eq_nil_iff.2 hfirst, List.nil_append]

/-- Against two tables there are on each line the findings against the one and then those against
the other. -/
theorem findingsFrom_append_patterns (p q : List InkPattern) (n : Nat) (ls : List Text) :
    findingsFrom (p ++ q) n ls = (List.range' n ls.length).flatMap fun m =>
      (findingsFrom p n ls).filter (fun f => f.line = m) ++
        (findingsFrom q n ls).filter fun f => f.line = m := by
  induction ls generalizing n with
  | nil => rfl
  | cons line ls ih =>
    rw [List.length_cons, List.range'_succ, List.flatMap_cons, filter_findingsFrom_cons_self,
      filter_findingsFrom_cons_self, ← findingsOn_append_patterns, findingsFrom, ih]
    refine congrArg (findingsOn (p ++ q) line n ++ ·) (List.flatMap_congr fun m hm => ?_)
    have hlt : n < m := (List.mem_range'_1.1 hm).1
    rw [filter_findingsFrom_cons_of_lt p line ls hlt, filter_findingsFrom_cons_of_lt q line ls hlt]

theorem counted_findingsFrom_append_patterns (p q : List InkPattern) (n : Nat) (ls : List Text) :
    Tally.counted (findingsFrom (p ++ q) n ls) =
      (Tally.counted (findingsFrom p n ls)).add (Tally.counted (findingsFrom q n ls)) := by
  induction ls generalizing n with
  | nil => rfl
  | cons line ls ih =>
    simp only [findingsFrom, findingsOn_append_patterns, Tally.counted_append, ih, Tally.add,
      Tally.mk.injEq]
    omega

/-- The summary of an audit counts its findings. -/
theorem summary_withPatterns (patterns : List InkPattern) (source : Text) :
    (withPatterns patterns source).summary =
      Tally.counted (withPatterns patterns source).findings :=
  Tally.ofFindings_eq_counted _

/-! ## Audits of a whole and of its parts -/

/-- An audit of two texts, one behind the other, has the findings of both. -/
theorem withPatterns_append {s : Text} (patterns : List InkPattern) (h : EndsLine s) (t : Text) :
    withPatterns patterns (s ++ t) =
      { findings := (withPatterns patterns s).findings ++
          (withPatterns patterns t).findings.map (Finding.below (lines s).length)
        summary := (withPatterns patterns s).summary.add (withPatterns patterns t).summary } := by
  have hfindings : (withPatterns patterns (s ++ t)).findings = (withPatterns patterns s).findings ++
      (withPatterns patterns t).findings.map (Finding.below (lines s).length) := by
    show findingsFrom patterns 1 (lines (s ++ t)) = _
    rw [lines_append h, findingsFrom_append, findingsFrom_add]
    rfl
  rw [mk.injEq]
  refine ⟨hfindings, ?_⟩
  rw [summary_withPatterns, hfindings, Tally.counted_append, counted_map_below,
    ← summary_withPatterns, ← summary_withPatterns]

/-- An audit with two lists of patterns has the findings with each of them. -/
theorem withPatterns_append_patterns (p q : List InkPattern) (source : Text) :
    withPatterns (p ++ q) source =
      { findings := (List.range' 1 (lines source).length).flatMap fun n =>
          (withPatterns p source).onLine n ++ (withPatterns q source).onLine n
        summary := (withPatterns p source).summary.add (withPatterns q source).summary } := by
  rw [mk.injEq]
  refine ⟨findingsFrom_append_patterns p q 1 (lines source), ?_⟩
  rw [summary_withPatterns, summary_withPatterns, summary_withPatterns]
  exact counted_findingsFrom_append_patterns p q 1 (lines source)

/-- Audits are local and additive. A text that goes on behind a line end has the findings of its
two parts, those of the second so many lines further down. Two tables together have on each line
the findings of the one and then those of the other. And the findings are all hits in the order of
their places, counted by severity. -/
theorem local_and_additive :
    (∀ (patterns : List InkPattern) (s t : Text), EndsLine s →
      withPatterns patterns (s ++ t) =
        { findings := (withPatterns patterns s).findings ++
            (withPatterns patterns t).findings.map (Finding.below (lines s).length)
          summary := (withPatterns patterns s).summary.add (withPatterns patterns t).summary }) ∧
    (∀ (p q : List InkPattern) (source : Text), withPatterns (p ++ q) source =
        { findings := (List.range' 1 (lines source).length).flatMap fun n =>
            (withPatterns p source).onLine n ++ (withPatterns q source).onLine n
          summary := (withPatterns p source).summary.add (withPatterns q source).summary }) ∧
    ∀ (patterns : List InkPattern) (source : Text),
      (∃ hits : List ((Nat × Nat) × Finding),
        (withPatterns patterns source).findings = hits.map (·.2) ∧
          hits.Pairwise (fun h h' => toLex h.1 < toLex h'.1) ∧
          ∀ place f, (place, f) ∈ hits ↔ IsHit patterns 1 (lines source) place f) ∧
      (withPatterns patterns source).summary =
        Tally.counted (withPatterns patterns source).findings := by
  refine ⟨fun patterns s t h => withPatterns_append patterns h t, withPatterns_append_patterns,
    fun patterns source => ⟨⟨hitsFrom patterns 1 (lines source), ?_, ?_, ?_⟩, ?_⟩⟩
  · exact (map_snd_hitsFrom patterns 1 (lines source)).symm
  · exact pairwise_hitsFrom patterns 1 (lines source)
  · exact fun place f => mem_hitsFrom_iff
  · exact summary_withPatterns patterns source

/-- A line with a finding, and a line end of two characters. -/
def firstPart : Text := "a: Vec<u8>, b: String\r\n"

/-- A comment, and a line with two findings. -/
def secondPart : Text := "// c: HashMap\nlet d = Box::new(b.clone());"

/-- Two parts of a source, the first of which ends with a line. -/
theorem local_and_additive_twoParts :
    EndsLine firstPart ∧
      let a := withPatterns InkPattern.table (firstPart ++ secondPart)
      a.findings.map (fun f => (f.patternId, f.line)) =
          ([("string-in-storage", 1), ("clone-usage", 3), ("box-new", 3)] : List (Text × Nat)) ∧
        a.summary = { high := 1, medium := 2 } := by
  have hline : EndsLine firstPart := by decide
  have hwhole := local_and_additive.1 InkPattern.table firstPart secondPart hline
  refine ⟨hline, ?_⟩
  rw [hwhole]
  decide +kernel

end Audit

end StylusSurvey
