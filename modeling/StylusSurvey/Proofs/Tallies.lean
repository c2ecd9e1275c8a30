import StylusSurvey.Report.Basic

/-!
# Tallies of findings

A tally is kept while findings are listed, and the tallies of several files are added up. Both
ways lead to the numbers of findings of each severity: `Tally.counted` counts them in the list
itself (`Tally.ofFindings_eq_counted`, `FileAudit.tally_ofSources`).
-/

namespace StylusSurvey

open Text

namespace Tally

/-- How many of the findings are of each severity. -/
def counted (fs : List Finding) : Tally where
  high := fs.countP (·.severity = .high)
  medium := fs.countP (·.severity = .medium)
  low := fs.countP (·.severity = .low)

theorem add_zero (t : Tally) : t.add {} = t :=
  rfl

theorem zero_add (t : Tally) : Tally.add {} t = t := by
  simp [add]

theorem add_assoc (t u v : Tally) : (t.add u).add v = t.add (u.add v) := by
  simp [add, Nat.add_assoc]

/-- Findings of two lists are counted together. -/
theorem counted_append (fs gs : List Finding) :
    counted (fs ++ gs) = (counted fs).add (counted gs) := by
  simp [counted, add]

/-- Recording a finding adds one of its severity. -/
theorem record_eq_add (t : Tally) (f : Finding) : t.record f.severity = t.add (counted [f]) := by
  cases hf : f.severity <;> simp [record, add, counted, hf]

/-- The tally that is kept of a list of findings is their count. -/
theorem ofFindings_eq_counted (fs : List Finding) : ofFindings fs = counted fs := by
  have hfold : ∀ t : Tally, fs.foldl (fun t f => t.record f.severity) t = t.add (counted fs) := by
    induction fs with
    | nil => exact fun t => (add_zero t).symm
    | cons f fs ih =>
      intro t
      rw [List.foldl_cons, ih, record_eq_add, add_assoc, ← counted_append, List.singleton_append]
  rw [ofFindings, hfold, zero_add]

theorem total_add (t u : Tally) : (t.add u).total = t.total + u.total := by
  simp only [add, total]
  omega

/-- Each finding is of exactly one severity. -/
theorem total_counted (fs : List Finding) : (counted fs).total = fs.length := by
  induction fs with
  | nil => rfl
  | cons f fs ih =>
    have hone : (counted [f]).total = 1 := by
      cases hf : f.severity <;> simp [counted, total, hf]
    rw [← List.singleton_append, counted_append, total_add, hone, ih, List.length_append,
      List.length_singleton]

end Tally

/-- The summary of an audited source counts its findings. -/
theorem Audit.summary_ofSource (source : Text) :
    (Audit.ofSource source).summary = Tally.counted (Audit.ofSource source).findings :=
  Tally.ofFindings_eq_counted _

namespace FileAudit

/-- The audits of sources, each with its path. -/
def ofSources (files : List (Text × Text)) : List FileAudit :=
  files.map fun f => ofSource f.1 f.2

/-- A file that is audited is a source under a path. -/
theorem exists_ofSource_of_mem {files : List (Text × Text)} {f : FileAudit}
    (h : f ∈ ofSources files) : ∃ path source, f = ofSource path source := by
  obtain ⟨file, -, rfl⟩ := List.mem_map.1 h
  exact ⟨file.1, file.2, rfl⟩

/-- In every audited file the summary counts the findings. -/
theorem summary_eq_counted {files : List (Text × Text)} {f : FileAudit} (h : f ∈ ofSources files) :
    f.audit.summary = Tally.counted f.audit.findings := by
  obtain ⟨path, source, rfl⟩ := exists_ofSource_of_mem h
  exact Audit.summary_ofSource source

/-- The tallies of all files together are the count of all findings. -/
theorem tally_ofSources (files : List (Text × Text)) :
    tally (ofSources files) = Tally.counted (findings (ofSources files)) := by
  have hfold : ∀ (fs : List FileAudit) (t : Tally),
      (∀ f ∈ fs, f.audit.summary = Tally.counted f.audit.findings) →
      fs.foldl (fun t f => t.add f.audit.summary) t = t.add (Tally.counted (findings fs)) := by
    intro fs
    induction fs with
    | nil => exact fun t _ => (Tally.add_zero t).symm
    | cons f fs ih =>
      intro t h
      obtain ⟨hf, hfs⟩ := List.forall_mem_cons.1 h
      rw [List.foldl_cons, ih _ hfs, hf, Tally.add_assoc, ← Tally.counted_append]
      rfl
  rw [tally, hfold _ _ fun f hf => summary_eq_counted hf, Tally.zero_add]

end FileAudit

/-! ## Where findings come from -/

namespace InkPattern

/-- What is found where a pattern shows on line number `n`. -/
def findingOn (p : InkPattern) (line : Text) (n : Nat) : Finding where
  patternId := p.id
  severity := p.severity
  title := p.title
  suggestion := p.suggestion
  line := n
  code := trim line

theorem finding?_eq_some_iff {p : InkPattern} {line : Text} {n : Nat} {f : Finding} :
    p.finding? line n = some f ↔ p.trigger.fires line = true ∧ f = p.findingOn line n := by
  rw [finding?, findingOn]
  split <;> simp [*, eq_comm]

end InkPattern

namespace Audit

variable {patterns : List InkPattern} {f : Finding}

/-- Every finding comes from a pattern that fires on a line. -/
theorem exists_of_mem_findingsFrom {n : Nat} {ls : List Text}
    (h : f ∈ findingsFrom patterns n ls) :
    ∃ p ∈ patterns, ∃ line ∈ ls, ∃ m, p.finding? line m = some f := by
  induction ls generalizing n with
  | nil => exact absurd h List.not_mem_nil
  | cons line ls ih =>
    rw [findingsFrom, List.mem_append] at h
    rcases h with h | h
    · rw [findingsOn] at h
      split at h
      · exact absurd h List.not_mem_nil
      · obtain ⟨p, hp, hf⟩ := List.mem_filterMap.1 h
        exact ⟨p, hp, line, List.mem_cons_self, n, hf⟩
    · obtain ⟨p, hp, l, hl, m, hf⟩ := ih h
      exact ⟨p, hp, l, List.mem_cons_of_mem _ hl, m, hf⟩

/-- A finding in a source is that of a pattern of the table on one of its lines. -/
theorem exists_findingOn_of_mem {source : Text} (h : f ∈ (ofSource source).findings) :
    ∃ p ∈ InkPattern.table, ∃ line ∈ lines source, ∃ n, f = p.findingOn line n := by
  obtain ⟨p, hp, line, hline, n, hf⟩ := exists_of_mem_findingsFrom h
  exact ⟨p, hp, line, hline, n, (InkPattern.finding?_eq_some_iff.1 hf).2⟩

/-- A finding shows a pattern of the table on a line of the source. -/
theorem exists_pattern_of_mem {source : Text} (h : f ∈ (ofSource source).findings) :
    ∃ p ∈ InkPattern.table, ∃ line ∈ lines source, f.patternId = p.id ∧ f.severity = p.severity ∧
      f.title = p.title ∧ f.code = trim line := by
  obtain ⟨p, hp, line, hline, n, rfl⟩ := exists_findingOn_of_mem h
  exact ⟨p, hp, line, hline, rfl, rfl, rfl, rfl⟩

end Audit

end StylusSurvey
