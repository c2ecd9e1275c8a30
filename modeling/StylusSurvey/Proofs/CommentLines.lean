import StylusSurvey.Proofs.Declarations
import StylusSurvey.Proofs.Scan

/-!
# Comment lines

The scanners do not know comments: they count the braces of a line and look for
declarations in it wherever they stand. What a comment line cannot be is a marker, an `impl`
header or an attribute, and an empty line is nothing of all this (`IsFiller`). So outside a
marked block the function scanner passes over fillers (`ScanState.run_fillers_of_outside`,
`ScanState.run_fillers_of_armed`). Inside one it passes over lines that begin no function
(`ScanState.run_region_of_notClosed`) and collects lines (`ScanState.run_collecting_of_notClosed`)
as long as the block stays open, and it is then where it was if their braces balance
(`BraceDepth.StaysOpen.foldl_feed`).
-/

namespace StylusSurvey

namespace Declaration

open Text

variable {l : Text}

/-- The first characters of the line that are not blank are two slashes. -/
def isComment (l : Text) : Bool :=
  startsWith "//" (trimStart l)

/-- The line is empty or a comment. -/
def IsFiller (l : Text) : Prop :=
  l = [] ∨ isComment l = true

theorem isFiller_of_mem_replicate {count : Nat} (h : l ∈ List.replicate count ([] : Text)) :
    IsFiller l :=
  .inl (List.eq_of_mem_replicate h)

/-- Fillers may stand between a marker and the header of its block. -/
theorem isPreamble_of_isFiller (h : IsFiller l) : isPreamble l = true := by
  rcases h with rfl | h
  · rfl
  · rw [isComment] at h
    unfold isPreamble
    simp only [h, Bool.or_true, Bool.true_or]

/-- Behind its blanks a comment line begins with two slashes. -/
theorem exists_trimStart_of_isComment (h : isComment l = true) :
    ∃ s, trimStart l = '/' :: '/' :: s := by
  rw [isComment, startsWith, List.isPrefixOf_iff_prefix] at h
  obtain ⟨s, hs⟩ := h
  exact ⟨s, hs.symm⟩

theorem afterAttribute?_of_isFiller {names : List Text} (h : IsFiller l) :
    afterAttribute? names l = none := by
  rcases h with rfl | h
  · rfl
  · obtain ⟨s, hs⟩ := exists_trimStart_of_isComment h
    rw [afterAttribute?, hs]
    rfl

theorem isImplHeader_of_isFiller (h : IsFiller l) : isImplHeader l = false :=
  isImplHeader_eq_false_of_isPreamble (isPreamble_of_isFiller h)

end Declaration

open Declaration

variable {cs acc : List Text} {n s : Nat}

/-! ## Lines that keep a block open -/

namespace BraceDepth

variable {d f : BraceDepth}

/-- The block is not closed, and it has opened if its depth says so. -/
structure Live (d : BraceDepth) : Prop where
  notClosed : d.isClosed = false
  opened : 0 < d.depth → d.opened = true

/-- The braces of the lines balance, and the block is closed after none of them. -/
structure StaysOpen (d : BraceDepth) (cs : List Text) : Prop where
  balanced : braceSum cs = 0
  notClosed : ∀ p, p <+: cs → (p.foldl feed d).isClosed = false

instance (d : BraceDepth) (cs : List Text) : Decidable (d.StaysOpen cs) :=
  decidable_of_iff (braceSum cs = 0 ∧ ∀ p ∈ cs.inits, (p.foldl feed d).isClosed = false)
    ⟨fun h => ⟨h.1, fun p hp => h.2 p ((List.mem_inits p cs).2 hp)⟩,
      fun h => ⟨h.balanced, fun p hp => h.notClosed p ((List.mem_inits p cs).1 hp)⟩⟩

theorem live_add {delta : Int} (h : (d.add delta).isClosed = false) : (d.add delta).Live where
  notClosed := h
  opened hpos := by simp [add, show 0 < d.depth + delta from hpos]

/-- A block that none of the lines closes is open after the first of them, and stays so. -/
theorem notClosed_cons {c : Text}
    (h : ∀ p, p <+: c :: cs → (p.foldl feed d).isClosed = false) :
    (d.feed c).isClosed = false ∧ ∀ p, p <+: cs → (p.foldl feed (d.feed c)).isClosed = false :=
  ⟨h [c] (by simp), fun p hp => h (c :: p) ((List.prefix_cons_inj c).2 hp)⟩

/-- Lines change the depth by the sum of their braces. -/
theorem depth_foldl_feed (d : BraceDepth) (cs : List Text) :
    (cs.foldl feed d).depth = d.depth + braceSum cs := by
  induction cs generalizing d with
  | nil => simp
  | cons c cs ih =>
    rw [List.foldl_cons, ih, feed, depth_add, braceSum_cons]
    omega

theorem opened_foldl_feed (h : d.opened = true) (cs : List Text) :
    (cs.foldl feed d).opened = true := by
  induction cs generalizing d with
  | nil => exact h
  | cons c cs ih => exact ih ((opened_add d _).2 (.inl h))

/-- Lines that keep a block open leave its depth as it was. -/
theorem StaysOpen.foldl_feed (h : d.StaysOpen cs) (hd : d.Live) : cs.foldl feed d = d := by
  have hdepth : (cs.foldl feed d).depth = d.depth := by
    rw [depth_foldl_feed, h.balanced, Int.add_zero]
  have hopened : (cs.foldl feed d).opened = d.opened := by
    cases hopen : d.opened with
    | true => exact opened_foldl_feed hopen cs
    | false =>
      -- A block that had opened on the way would be closed at the end.
      have hend := h.notClosed cs List.prefix_rfl
      have hle : d.depth ≤ 0 := by
        by_contra hlt
        rw [hd.opened (by omega)] at hopen
        cases hopen
      rw [Bool.eq_false_iff]
      intro hopened
      rw [isClosed, hopened, hdepth] at hend
      simp [hle] at hend
  cases hd' : cs.foldl feed d
  rw [hd'] at hdepth hopened
  exact congr (congrArg BraceDepth.mk hdepth) hopened

theorem feed_nil (hd : d.Live) : d.feed [] = d := by
  have hopened : (d.opened || decide (0 < d.depth)) = d.opened := by
    cases hopen : d.opened with
    | true => rfl
    | false =>
      rw [Bool.false_or, decide_eq_false_iff_not]
      intro hpos
      rw [hd.opened hpos] at hopen
      cases hopen
  rw [feed, add, braceDelta_nil, Int.add_zero, hopened]

/-- Empty lines keep a block open. -/
theorem staysOpen_replicate_nil (hd : d.Live) (count : Nat) :
    d.StaysOpen (List.replicate count []) where
  balanced := by
    induction count with
    | zero => rfl
    | succ count ih => rw [List.replicate_succ, braceSum_cons, ih, braceDelta_nil, Int.add_zero]
  notClosed := by
    intro p hp
    obtain ⟨-, hp⟩ := List.prefix_replicate_iff.1 hp
    have hfold : ∀ k : Nat, (List.replicate k ([] : Text)).foldl feed d = d := by
      intro k
      induction k with
      | zero => rfl
      | succ k ih => rw [List.replicate_succ, List.foldl_cons, feed_nil hd, ih]
    rw [hp, hfold]
    exact hd.notClosed

end BraceDepth

namespace ScanState

variable {d f : BraceDepth} {q : ScanState}

/-! ## Lines that are passed over -/

/-- Lines that change nothing one by one change nothing together. -/
theorem run_of_step_eq (h : ∀ c ∈ cs, ∀ n, q.step c n = (q, none)) : q.run n cs = (q, []) := by
  induction cs generalizing n with
  | nil => rfl
  | cons c cs ih =>
    obtain ⟨hc, hcs⟩ := List.forall_mem_cons.1 h
    rw [run_cons, hc, ih hcs]
    rfl

/-- Fillers outside of a block are passed over. -/
theorem run_fillers_of_outside (h : ∀ c ∈ cs, IsFiller c) : outside.run n cs = (outside, []) := by
  refine run_of_step_eq fun c hc n => ?_
  have hmarker : afterMarker? c = none := afterAttribute?_of_isFiller (h c hc)
  rw [step_outside, stepOutside, hmarker]

theorem run_fillers_of_armed (h : ∀ c ∈ cs, IsFiller c) : armed.run n cs = (armed, []) := by
  refine run_of_step_eq fun c hc n => ?_
  rw [step_armed, stepArmed, isImplHeader_of_isFiller (h c hc), isPreamble_of_isFiller (h c hc)]
  rfl

/-- Lines between functions that begin none are passed over while the block stays open. -/
theorem run_region_of_notClosed (hpub : ∀ c ∈ cs, isPublicFunction c = false)
    (h : ∀ p, p <+: cs → (p.foldl BraceDepth.feed d).isClosed = false) :
    (region d).run n cs = (region (cs.foldl BraceDepth.feed d), []) := by
  induction cs generalizing d n with
  | nil => rfl
  | cons c cs ih =>
    obtain ⟨hc, hcs⟩ := List.forall_mem_cons.1 hpub
    obtain ⟨hopen, hrest⟩ := BraceDepth.notClosed_cons h
    rw [run_cons, step_region_of_not_public hc, afterFunction, hopen]
    simp only [Bool.false_eq_true, if_false, ih hcs hrest]
    rfl

/-- Lines of a function are collected while it stays open. -/
theorem run_collecting_of_notClosed
    (h : ∀ p, p <+: cs → (p.foldl BraceDepth.feed f).isClosed = false) :
    (collecting d f s acc).run n cs =
      (collecting d (cs.foldl BraceDepth.feed f) s (acc ++ cs), []) := by
  induction cs generalizing f acc n with
  | nil => rw [run_nil, List.append_nil, List.foldl_nil]
  | cons c cs ih =>
    obtain ⟨hopen, hrest⟩ := BraceDepth.notClosed_cons h
    simp only [run_cons, step, stepCollecting, hopen, Bool.false_eq_true, if_false, ih hrest,
      List.append_assoc, List.singleton_append, List.foldl_cons, Option.toList_none,
      List.append_nil]

end ScanState

end StylusSurvey
