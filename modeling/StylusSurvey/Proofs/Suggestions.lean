import StylusSurvey.Proofs.Reports

/-!
# Advice on the patterns that were found

A report as Markdown ends with advice on the patterns that were found. The findings of all files
are gone over with a list of the patterns seen so far, and the first finding of each pattern is
kept: all ids are kept, each once and in the order of their first places
(`firstPlaces_firstOfEach`). Findings of one pattern have one title and one suggestion, so it does
not matter which of them is kept (`advice_once_per_pattern`).
-/

namespace StylusSurvey

open Text

variable {id : Text} {f : Finding} {xs : List Finding} {p : InkPattern} {ps : List InkPattern}
  {fs : List FileAudit}

/-! ## First places -/

/-- What is kept are the members of the list, each once, in the order of their first places. -/
structure FirstPlaces (all kept : List Text) : Prop where
  mem_iff : ∀ id, id ∈ kept ↔ id ∈ all
  nodup : kept.Nodup
  order : kept.Pairwise fun id id' => all.idxOf id < all.idxOf id'

/-- The ids of the patterns that the findings show. -/
def Finding.ids (xs : List Finding) : List Text :=
  xs.map (·.patternId)

namespace MarkdownReport

open Finding (ids)

theorem firstOfEach_cons (seen : List Text) (f : Finding) (xs : List Finding) :
    firstOfEach seen (f :: xs) = if f.patternId ∈ seen then firstOfEach seen xs
      else f :: firstOfEach (f.patternId :: seen) xs :=
  rfl

/-- The ids that are kept are those that have not been seen. -/
theorem mem_ids_firstOfEach_iff (seen : List Text) :
    id ∈ ids (firstOfEach seen xs) ↔ id ∈ ids xs ∧ id ∉ seen := by
  induction xs generalizing seen with
  | nil => exact iff_of_false List.not_mem_nil fun h => List.not_mem_nil h.1
  | cons f xs ih =>
    have hcons (xs : List Finding) : id ∈ ids (f :: xs) ↔ id = f.patternId ∨ id ∈ ids xs :=
      List.mem_cons
    rw [firstOfEach_cons, hcons]
    split
    case isTrue hseen =>
      rw [ih]
      constructor
      · exact fun h => ⟨.inr h.1, h.2⟩
      · rintro ⟨rfl | h, hnot⟩
        · exact absurd hseen hnot
        · exact ⟨h, hnot⟩
    case isFalse hnew =>
      rw [hcons, ih, List.mem_cons, not_or]
      constructor
      · rintro (rfl | ⟨h, -, hnot⟩)
        · exact ⟨.inl rfl, hnew⟩
        · exact ⟨.inr h, hnot⟩
      · rintro ⟨rfl | h, hnot⟩
        · exact .inl rfl
        · exact or_iff_not_imp_left.2 fun hne => ⟨h, hne, hnot⟩

/-- Behind a finding, the order of the other ids is that of their first places. -/
theorem pairwise_idxOf_cons {kept : List Text} (h : ∀ id ∈ kept, id ≠ f.patternId)
    (horder : kept.Pairwise fun id id' => (ids xs).idxOf id < (ids xs).idxOf id') :
    kept.Pairwise fun id id' => (ids (f :: xs)).idxOf id < (ids (f :: xs)).idxOf id' := by
  refine horder.imp_of_mem fun hid hid' hlt => ?_
  rw [ids, List.map_cons, List.idxOf_cons_ne _ (h _ hid).symm, List.idxOf_cons_ne _ (h _ hid').symm]
  exact Nat.succ_lt_succ hlt

/-- The first findings of each pattern are in the order in which their patterns first occur. -/
theorem order_firstOfEach (seen : List Text) : (ids (firstOfEach seen xs)).Pairwise
    fun id id' => (ids xs).idxOf id < (ids xs).idxOf id' := by
  induction xs generalizing seen with
  | nil => exact List.Pairwise.nil
  | cons f xs ih =>
    rw [firstOfEach_cons]
    split
    case isTrue hseen =>
      refine pairwise_idxOf_cons (fun id hid => ?_) (ih seen)
      rintro rfl
      exact ((mem_ids_firstOfEach_iff seen).1 hid).2 hseen
    case isFalse =>
      have hne : ∀ id ∈ ids (firstOfEach (f.patternId :: seen) xs), id ≠ f.patternId := by
        rintro id hid rfl
        exact ((mem_ids_firstOfEach_iff _).1 hid).2 List.mem_cons_self
      refine List.pairwise_cons.2 ⟨fun id hid => ?_, pairwise_idxOf_cons hne (ih _)⟩
      rw [ids, List.map_cons, List.idxOf_cons_self, List.idxOf_cons_ne _ (hne id hid).symm]
      exact Nat.succ_pos _

theorem mem_of_mem_firstOfEach {seen : List Text} (h : f ∈ firstOfEach seen xs) : f ∈ xs := by
  induction xs generalizing seen with
  | nil => exact h
  | cons x xs ih =>
    rw [firstOfEach_cons] at h
    split at h
    · exact List.mem_cons_of_mem x (ih h)
    · rcases List.mem_cons.1 h with rfl | h
      · exact List.mem_cons_self
      · exact List.mem_cons_of_mem x (ih h)

/-- Each pattern with a finding has one first finding, in the order of their first places. -/
theorem firstPlaces_firstOfEach (xs : List Finding) :
    FirstPlaces (ids xs) (ids (firstOfEach [] xs)) where
  mem_iff id := by simp [mem_ids_firstOfEach_iff]
  nodup := (order_firstOfEach []).imp fun hlt heq => by simp [heq] at hlt
  order := order_firstOfEach []

/-! ## The patterns of the findings -/

/-- The finding shows the pattern and has its title and suggestion. -/
def Shows (f : Finding) (p : InkPattern) : Prop :=
  p ∈ InkPattern.table ∧ f.patternId = p.id ∧ f.title = p.title ∧ f.suggestion = p.suggestion

/-- Every finding shows the pattern that it comes from. -/
theorem exists_shows_of_mem {files : List (Text × Text)}
    (h : f ∈ FileAudit.findings (FileAudit.ofSources files)) : ∃ p, Shows f p := by
  obtain ⟨file, hfile, hf⟩ := List.mem_flatMap.1 h
  obtain ⟨path, source, rfl⟩ := FileAudit.exists_ofSource_of_mem hfile
  obtain ⟨p, hp, line, -, n, rfl⟩ := Audit.exists_findingOn_of_mem hf
  exact ⟨p, hp, rfl, rfl, rfl⟩

theorem nodup_table_ids : (InkPattern.table.map (·.id)).Nodup := by
  decide

/-- No other pattern has the id of the finding. -/
theorem Shows.advice (h : Shows f p) {q : InkPattern} (hq : q ∈ InkPattern.table)
    (hid : f.patternId = q.id) : f.title = q.title ∧ f.suggestion = q.suggestion := by
  obtain ⟨hp, hpid, htitle, hsuggestion⟩ := h
  obtain rfl := List.inj_on_of_nodup_map nodup_table_ids hp hq (hpid.symm.trans hid)
  exact ⟨htitle, hsuggestion⟩

/-- Findings that show patterns show a list of them. -/
theorem exists_patterns (h : ∀ f ∈ xs, ∃ p, Shows f p) : ∃ ps, List.Forall₂ Shows xs ps := by
  induction xs with
  | nil => exact ⟨[], .nil⟩
  | cons f xs ih =>
    obtain ⟨hf, hxs⟩ := List.forall_mem_cons.1 h
    obtain ⟨p, hp⟩ := hf
    obtain ⟨ps, hps⟩ := ih hxs
    exact ⟨p :: ps, .cons hp hps⟩

/-! ## The section -/

/-- The lines of the advice on a pattern. -/
def entryLines (p : InkPattern) : List Text :=
  ["### " ++ p.title, [], p.suggestion, []]

/-- The lines of the section with the advice on the patterns. There is none without patterns. -/
def sectionLines (ps : List InkPattern) : List Text :=
  if ps = [] then [] else ([[], "## Suggestions", []] : List Text) ++ ps.flatMap entryLines

/-- The report up to the end of the table. -/
def upToTable (fs : List FileAudit) : Text :=
  "# Stylus Ink Audit Report\n\n" ++ summary fs ++ table fs

/-- Behind the table the report has the advice on the patterns and nothing else. These are the
patterns that the findings show, each once, in the order in which they are first found over the
files and then the findings. -/
structure Advises (report : Text) (fs : List FileAudit) (ps : List InkPattern) : Prop where
  text : report = upToTable fs ++ (sectionLines ps).flatMap fun l => l ++ ['\n']
  lines : lines report = lines (upToTable fs) ++ sectionLines ps
  known : ∀ p ∈ ps, p ∈ InkPattern.table
  places : FirstPlaces (ids (FileAudit.findings fs)) (ps.map (·.id))
  advice : ∀ p ∈ ps, ∀ f ∈ FileAudit.findings fs, f.patternId = p.id →
    f.title = p.title ∧ f.suggestion = p.suggestion

theorem suggestion_eq (h : Shows f p) :
    suggestion f = (entryLines p).flatMap fun l => l ++ ['\n'] := by
  obtain ⟨-, -, htitle, hsuggestion⟩ := h
  have hparts (mark title advice : Text) {ends : Text} (hends : ends = ['\n', '\n']) :
      mark ++ title ++ ends ++ advice ++ ends =
        ([mark ++ title, [], advice, []] : List Text).flatMap fun l => l ++ ['\n'] := by
    rw [hends]
    simp
  unfold suggestion
  rw [htitle, hsuggestion]
  exact hparts "### " p.title p.suggestion (by decide)

theorem ids_eq_of_shows (h : List.Forall₂ Shows xs ps) : ids xs = ps.map (·.id) := by
  induction h with
  | nil => rfl
  | cons hp _ ih => exact congrArg₂ List.cons hp.2.1 ih

theorem mem_table_of_shows (h : List.Forall₂ Shows xs ps) : ∀ p ∈ ps, p ∈ InkPattern.table := by
  induction h with
  | nil => exact fun _ hp => absurd hp List.not_mem_nil
  | cons hp _ ih => exact List.forall_mem_cons.2 ⟨hp.1, ih⟩

theorem flatMap_suggestion_eq (h : List.Forall₂ Shows xs ps) :
    xs.flatMap suggestion = (ps.flatMap entryLines).flatMap fun l => l ++ ['\n'] := by
  induction h with
  | nil => rfl
  | cons hp _ ih => rw [List.flatMap_cons, List.flatMap_cons, List.flatMap_append, suggestion_eq hp,
      ih]

/-- The section is printed line by line. -/
theorem suggestions_eq (h : List.Forall₂ Shows (firstOfEach [] (FileAudit.findings fs)) ps) :
    suggestions fs = (sectionLines ps).flatMap fun l => l ++ ['\n'] := by
  unfold suggestions
  generalize firstOfEach [] (FileAudit.findings fs) = xs at h
  cases h with
  | nil => rfl
  | cons hp hps =>
    have hhead : ("\n## Suggestions\n\n" : Text) =
        ([[], "## Suggestions", []] : List Text).flatMap fun l => l ++ ['\n'] := by decide
    rw [sectionLines, if_neg (List.cons_ne_nil _ _), List.flatMap_append, ← hhead,
      ← flatMap_suggestion_eq (.cons hp hps)]

/-- The suggestions are told by the lists of their characters, which are shorter to check. -/
theorem isLine_suggestion : ∀ p ∈ InkPattern.table, IsLine p.suggestion := by
  have hone {l : List Char} (h : IsLine l) : IsLine (String.ofList l).toList := by
    rwa [String.toList_ofList]
  have htwo {l m : List Char} (h : IsLine (l ++ m)) :
      IsLine ((String.ofList l).toList ++ (String.ofList m).toList) := by
    rwa [String.toList_ofList, String.toList_ofList]
  refine List.forall_mem_cons.2 ⟨htwo (by decide), ?_⟩
  refine List.forall_mem_cons.2 ⟨htwo (by decide), ?_⟩
  refine List.forall_mem_cons.2 ⟨htwo (by decide), ?_⟩
  refine List.forall_mem_cons.2 ⟨htwo (by decide), ?_⟩
  refine List.forall_mem_cons.2 ⟨htwo (by decide), ?_⟩
  refine List.forall_mem_cons.2 ⟨hone (by decide), ?_⟩
  exact List.forall_mem_singleton.2 (htwo (by decide))

/-- The section consists of lines. -/
theorem isLine_of_mem_sectionLines (h : ∀ p ∈ ps, p ∈ InkPattern.table) :
    ∀ l ∈ sectionLines ps, IsLine l := by
  have htitle : ∀ p ∈ InkPattern.table, IsLine ("### " ++ p.title) := by decide
  have hhead : ∀ l ∈ ([[], "## Suggestions", []] : List Text), IsLine l := by decide
  intro l hl
  rw [sectionLines] at hl
  split at hl
  · exact absurd hl List.not_mem_nil
  · rcases List.mem_append.1 hl with hl | hl
    · exact hhead l hl
    · obtain ⟨p, hp, hl⟩ := List.mem_flatMap.1 hl
      simp only [entryLines, List.mem_cons, List.not_mem_nil, or_false] at hl
      rcases hl with rfl | rfl | rfl | rfl
      · exact htitle p (h p hp)
      · decide
      · exact isLine_suggestion p (h p hp)
      · decide

/-- The section begins on a line of its own. -/
theorem endsLine_upToTable (fs : List FileAudit) : EndsLine (upToTable fs) := by
  have hrow (r : Text × Finding) : EndsLine (row r.1 r.2) :=
    .inr (by rw [row_eq_rowLine, List.getLast?_concat])
  have hline (l : Text) : EndsLine (l ++ ['\n']) := .inr List.getLast?_concat
  have hsummary : EndsLine (summary fs) := summary_eq fs ▸ endsLine_flatMap hline _
  have htable : EndsLine (table fs) :=
    table_eq fs ▸ (endsLine_flatMap hline _).append (endsLine_flatMap hrow _)
  exact (EndsLine.append (by decide) hsummary).append htable

/-! ## Reports without findings -/

/-- The head of a report has no heading like that of the section. -/
theorem not_mem_headLines (files : Nat) (t : Tally) :
    ("## Suggestions" : Text) ∉ headLines files t := by
  have hcount {label rest : Text} (hlabel : label.head? = some '-') :
      ("## Suggestions" : Text) ≠ label ++ rest := by
    intro h
    have hhead := congrArg List.head? h
    rw [List.head?_append, hlabel, Option.some_or] at hhead
    exact absurd hhead (by decide)
  have htable : ("## Suggestions" : Text) ∉ tableLines := by decide
  simp only [headLines, summaryLines, List.mem_append, List.mem_cons, List.not_mem_nil, or_false,
    List.append_assoc, not_or]
  refine ⟨by decide, ⟨by decide, by decide, hcount rfl, hcount rfl, hcount rfl, hcount rfl,
    by decide⟩, htable⟩

/-- A report without findings is its head. -/
theorem lines_of_no_findings (h : FileAudit.findings fs = []) :
    lines (text fs) = headLines fs.length (FileAudit.tally fs) := by
  have hlisted : listed fs = [] := List.map_eq_nil_iff.1 ((order_listed fs).trans h)
  have hsuggestions : suggestions fs = [] := by
    unfold suggestions
    rw [h]
    rfl
  rw [text_eq, hlisted, hsuggestions]
  exact lines_unlines_append_newline (by simp [headLines]) isLine_of_mem_headLines

/-- There are findings exactly if there are some in a file. -/
theorem findings_ne_nil_iff :
    FileAudit.findings fs ≠ [] ↔ ∃ f ∈ fs, f.audit.findings ≠ [] := by
  simp [FileAudit.findings]

/-- The section is in the report exactly if there are findings. -/
theorem Advises.mem_lines_iff {report : Text} (h : Advises report fs ps)
    (hreport : report = MarkdownReport.text fs) :
    ("## Suggestions" : Text) ∈ Text.lines report ↔ FileAudit.findings fs ≠ [] := by
  constructor
  · intro hmem hnone
    rw [hreport, lines_of_no_findings hnone] at hmem
    exact not_mem_headLines _ _ hmem
  · intro hsome
    obtain ⟨f, hf⟩ := List.exists_mem_of_ne_nil _ hsome
    have hid := (h.places.mem_iff f.patternId).2 (List.mem_map_of_mem hf)
    have hps : ps ≠ [] := by
      rintro rfl
      exact absurd hid List.not_mem_nil
    rw [h.lines, sectionLines, if_neg hps]
    simp

/-- The report on audited sources advises on a list of patterns. -/
theorem exists_advises (files : List (Text × Text)) :
    let fs := FileAudit.ofSources files
    ∃ ps, Advises (text fs) fs ps := by
  intro fs
  have hshows : ∀ f ∈ FileAudit.findings fs, ∃ p, Shows f p := fun _ hf => exists_shows_of_mem hf
  obtain ⟨ps, hps⟩ := exists_patterns fun f hf => hshows f (mem_of_mem_firstOfEach hf)
  have hknown := mem_table_of_shows hps
  have htext : text fs = upToTable fs ++ (sectionLines ps).flatMap fun l => l ++ ['\n'] := by
    rw [← suggestions_eq hps]
    rfl
  have hsection : lines ((sectionLines ps).flatMap fun l => l ++ ['\n']) = sectionLines ps := by
    have happend := lines_flatMap_append (isLine_of_mem_sectionLines hknown) []
    rwa [List.append_nil, List.map_id', show lines [] = [] from rfl, List.append_nil] at happend
  refine ⟨ps, htext, ?_, hknown, ?_, fun p hp f hf hid => ?_⟩
  · rw [htext, lines_append (endsLine_upToTable fs), hsection]
  · rw [← ids_eq_of_shows hps]
    exact firstPlaces_firstOfEach _
  · obtain ⟨q, hq⟩ := hshows f hf
    exact hq.advice (hknown p hp) hid

/-- There is a section with advice exactly if something was found. It has the title and the
suggestion of each pattern that was found, once, in the order in which the patterns are first
found. -/
theorem advice_once_per_pattern (files : List (Text × Text)) :
    let fs := FileAudit.ofSources files
    let report := auditReport fs .markdown
    (("## Suggestions" : Text) ∈ lines report ↔ ∃ f ∈ fs, f.audit.findings ≠ []) ∧
      ∃ ps, Advises report fs ps := by
  intro fs report
  obtain ⟨ps, hps⟩ := exists_advises files
  exact ⟨(hps.mem_lines_iff rfl).trans findings_ne_nil_iff, ps, hps⟩

end MarkdownReport

end StylusSurvey
