import StylusSurvey.Contract.Block
import StylusSurvey.Proofs.Braces

/-!
# Runs of the function scanner

What one line does to the scanner is stated once for each of its states
(`step_region_of_endsOnLine` and the lemmas after it); `Transition` lists all that a
line can do, for proofs that go through every case. A run over several lines is a run
over the first of them and then over the others (`run_append`).

`FunctionLines` says which lines the scanner takes for one public function. From a
region it reads them as one block, and the depth of the region changes by their
brace sum (`run_region_function`).
-/

namespace StylusSurvey

open Declaration

/-! ## The lines of a function -/

/-- The braces of the line open and close a block. -/
def EndsOnLine (l : Text) : Prop :=
  '{' ∈ l ∧ '}' ∈ l ∧ braceDelta l ≤ 0

instance (l : Text) : Decidable (EndsOnLine l) :=
  inferInstanceAs (Decidable (_ ∧ _ ∧ _))

/-- The lines of one public function: a single line that ends it, or the lines from
the one that begins it to the first after which its braces are closed. -/
inductive FunctionLines : List Text → Prop
  | oneLine {l : Text} (hpub : isPublicFunction l = true) (hends : EndsOnLine l) :
    FunctionLines [l]
  | block {l : Text} {ls : List Text} (hpub : isPublicFunction l = true) (hends : ¬EndsOnLine l)
    (hclose : ClosesAtLast (l :: ls)) : FunctionLines (l :: ls)

theorem FunctionLines.ne_nil {ls : List Text} (h : FunctionLines ls) : ls ≠ [] := by
  cases h <;> simp

namespace ScanState

variable {d e f : BraceDepth} {l : Text} {acc ls ms : List Text} {n s : Nat} {q : ScanState}

/-! ## One line -/

theorem step_outside (l : Text) (n : Nat) : outside.step l n = (stepOutside l, none) :=
  rfl

theorem step_armed (l : Text) (n : Nat) : armed.step l n = (stepArmed l, none) :=
  rfl

/-- The scanner's test whether a function ends on its first line. -/
theorem endsOnLine_test (l : Text) : (decide ((BraceDepth.startingAt l).depth ≤ 0) &&
    l.contains '{' && l.contains '}') = decide (EndsOnLine l) := by
  have hdepth : (BraceDepth.startingAt l).depth = braceDelta l := by
    simp [BraceDepth.startingAt_eq]
  rw [hdepth, Bool.eq_iff_iff]
  simp only [Bool.and_eq_true, decide_eq_true_eq, List.contains_iff_mem]
  constructor
  · rintro ⟨⟨hsum, hopen⟩, hclose⟩
    exact ⟨hopen, hclose, hsum⟩
  · rintro ⟨hopen, hclose, hsum⟩
    exact ⟨⟨hsum, hopen⟩, hclose⟩

/-- A function that ends on its first line is complete with it. -/
theorem step_region_of_endsOnLine (hpub : isPublicFunction l = true) (hends : EndsOnLine l) :
    (region d).step l n = (afterFunction (d.add (braceDelta l)), some ⟨l, n⟩) := by
  simp only [step, stepRegion, hpub, endsOnLine_test, hends, decide_true, if_true]
  simp [BraceDepth.startingAt_eq]

/-- Any other function is collected from its first line on. -/
theorem step_region_of_not_endsOnLine (hpub : isPublicFunction l = true)
    (hends : ¬EndsOnLine l) :
    (region d).step l n = (collecting d (BraceDepth.after [l]) n [l], none) := by
  simp only [step, stepRegion, hpub, endsOnLine_test, hends, decide_false, if_true]
  simp [BraceDepth.startingAt_eq]

/-- A line of a region that begins no function changes the depth only. -/
theorem step_region_of_not_public (hpub : isPublicFunction l = false) :
    (region d).step l n = (afterFunction (d.feed l), none) := by
  simp [step, stepRegion, hpub, afterFunction]

/-- A function goes on while its braces are not closed. -/
theorem step_collecting_of_not_closed (h : ¬BraceClosed (acc ++ [l])) :
    (collecting d (BraceDepth.after acc) s acc).step l n =
      (collecting d (BraceDepth.after (acc ++ [l])) s (acc ++ [l]), none) := by
  have hfeed : (((BraceDepth.after acc).feed l).isClosed) = false := by
    rw [← BraceDepth.after_append_singleton, Bool.eq_false_iff, ne_eq, BraceDepth.isClosed_after]
    exact h
  simp [step, stepCollecting, hfeed, BraceDepth.after_append_singleton]

/-- A function ends with the line that closes its braces. -/
theorem step_collecting_of_closed (h : BraceClosed (acc ++ [l])) :
    (collecting d (BraceDepth.after acc) s acc).step l n =
      (afterFunction (d.add (braceSum (acc ++ [l]))), some ⟨Text.unlines (acc ++ [l]), s⟩) := by
  have hfeed : (((BraceDepth.after acc).feed l).isClosed) = true := by
    rw [← BraceDepth.after_append_singleton, BraceDepth.isClosed_after]
    exact h
  have hdepth : ((BraceDepth.after acc).feed l).depth = braceSum (acc ++ [l]) := by
    rw [← BraceDepth.after_append_singleton, BraceDepth.depth_after]
  simp only [step, stepCollecting, hfeed, hdepth, if_true]

/-- Behind a function the scanner is outside, or in a region that is not closed. -/
theorem afterFunction_cases (d : BraceDepth) :
    afterFunction d = outside ∨ afterFunction d = region d ∧ d.isClosed = false := by
  unfold afterFunction
  split_ifs with h
  · exact Or.inl rfl
  · exact Or.inr ⟨rfl, Bool.eq_false_iff.2 h⟩

/-- At a header the scanner is outside, or in the region of the block. -/
theorem atHeader_cases (l : Text) :
    atHeader l = outside ∨ atHeader l = region (BraceDepth.after [l]) := by
  unfold atHeader
  dsimp only
  split_ifs
  · exact Or.inl rfl
  · exact Or.inr rfl

theorem afterFunction_ne_collecting : afterFunction d ≠ collecting e f s acc := by
  intro h
  rcases afterFunction_cases d with hd | ⟨hd, -⟩ <;> simp [hd] at h

theorem atHeader_ne_collecting : atHeader l ≠ collecting e f s acc := by
  intro h
  rcases atHeader_cases l with hl | hl <;> simp [hl] at h

/-- All that line number `n` can do to the scanner, with the function it completes. -/
inductive Transition (l : Text) (n : Nat) : ScanState → ScanState → Option FunctionBlock → Prop
  | pass (h : afterMarker? l = none) : Transition l n outside outside none
  | marker {rest : Text} (h : afterMarker? l = some rest) (hrest : isImplHeader rest = false) :
    Transition l n outside armed none
  | joined {rest : Text} (h : afterMarker? l = some rest) (hrest : isImplHeader rest = true) :
    Transition l n outside (atHeader rest) none
  | preamble (h : isPreamble l = true) : Transition l n armed armed none
  | header (h : isImplHeader l = true) : Transition l n armed (atHeader l) none
  | disarm : Transition l n armed outside none
  | filler {d : BraceDepth} (h : isPublicFunction l = false) :
    Transition l n (region d) (afterFunction (d.feed l)) none
  | oneLine {d : BraceDepth} (h : isPublicFunction l = true) (hends : EndsOnLine l) :
    Transition l n (region d) (afterFunction (d.add (braceDelta l))) (some ⟨l, n⟩)
  | start {d : BraceDepth} (h : isPublicFunction l = true) (hends : ¬EndsOnLine l) :
    Transition l n (region d) (collecting d (BraceDepth.after [l]) n [l]) none
  | more {d f : BraceDepth} {s : Nat} {acc : List Text} (h : (f.feed l).isClosed = false) :
    Transition l n (collecting d f s acc) (collecting d (f.feed l) s (acc ++ [l])) none
  | finish {d f : BraceDepth} {s : Nat} {acc : List Text} (h : (f.feed l).isClosed = true) :
    Transition l n (collecting d f s acc) (afterFunction (d.add (f.feed l).depth))
      (some ⟨Text.unlines (acc ++ [l]), s⟩)

/-- A line does one of the things that it can do. -/
theorem transition_step (q : ScanState) (l : Text) (n : Nat) :
    Transition l n q (q.step l n).1 (q.step l n).2 := by
  cases q with
  | outside =>
    rw [step_outside, stepOutside]
    cases hm : afterMarker? l with
    | none => exact .pass hm
    | some rest =>
      cases hr : isImplHeader rest with
      | false => simpa [hr] using .marker hm hr
      | true => simpa [hr] using .joined hm hr
  | armed =>
    rw [step_armed, stepArmed]
    cases hh : isImplHeader l with
    | true => exact .header hh
    | false =>
      cases hp : isPreamble l with
      | true => exact .preamble hp
      | false => exact .disarm
  | region d =>
    cases hpub : isPublicFunction l with
    | false =>
      rw [step_region_of_not_public hpub]
      exact .filler hpub
    | true =>
      by_cases hends : EndsOnLine l
      · rw [step_region_of_endsOnLine hpub hends]
        exact .oneLine hpub hends
      · rw [step_region_of_not_endsOnLine hpub hends]
        exact .start hpub hends
  | collecting d f s acc =>
    cases hclosed : (f.feed l).isClosed with
    | false => simpa [step, stepCollecting, hclosed] using .more hclosed
    | true => simpa [step, stepCollecting, hclosed] using .finish hclosed

theorem afterFunction_of_pos (h : 0 < d.depth) : afterFunction d = region d := by
  have : d.isClosed = false := by
    rw [Bool.eq_false_iff, ne_eq, BraceDepth.isClosed_iff]
    omega
  simp [afterFunction, this]

/-! ## Several lines -/

@[simp] theorem run_nil (q : ScanState) (n : Nat) : q.run n [] = (q, []) :=
  rfl

theorem run_cons (q : ScanState) (n : Nat) (l : Text) (ls : List Text) :
    q.run n (l :: ls) = (((q.step l n).1.run (n + 1) ls).1,
      (q.step l n).2.toList ++ ((q.step l n).1.run (n + 1) ls).2) :=
  rfl

/-- A run over some lines and others is a run over the first and then over the others. -/
theorem run_append (q : ScanState) (n : Nat) (ls ms : List Text) :
    q.run n (ls ++ ms) = (((q.run n ls).1.run (n + ls.length) ms).1,
      (q.run n ls).2 ++ ((q.run n ls).1.run (n + ls.length) ms).2) := by
  induction ls generalizing q n with
  | nil => rfl
  | cons l ls ih =>
    rw [List.cons_append, run_cons, ih, run_cons, List.length_cons, Nat.add_right_comm,
      Nat.add_assoc n, List.append_assoc]

/-- From inside a function, the scanner reads up to the line that closes it. -/
theorem run_collecting (hls : ls ≠ []) (h : ClosesAtLast (acc ++ ls)) :
    (collecting d (BraceDepth.after acc) s acc).run n ls =
      (afterFunction (d.add (braceSum (acc ++ ls))), [⟨Text.unlines (acc ++ ls), s⟩]) := by
  induction ls generalizing acc n with
  | nil => exact absurd rfl hls
  | cons l ls ih =>
    rw [run_cons]
    rcases eq_or_ne ls [] with rfl | hne
    · rw [step_collecting_of_closed h.1]
      rfl
    · have hsplit : acc ++ l :: ls = (acc ++ [l]) ++ ls := by simp
      have hnot : ¬BraceClosed (acc ++ [l]) := by
        refine h.2 _ ⟨ls, hsplit.symm⟩ fun heq => hne ?_
        simpa using heq.symm
      rw [hsplit] at h ⊢
      rw [step_collecting_of_not_closed hnot, ih hne h]
      rfl

/-- From a region, the scanner reads the lines of a function as one block. -/
theorem run_region_function (h : FunctionLines ls) :
    (region d).run n ls = (afterFunction (d.add (braceSum ls)), [⟨Text.unlines ls, n⟩]) := by
  cases h with
  | oneLine hpub hends =>
    rw [run_cons, step_region_of_endsOnLine hpub hends]
    simp [Text.unlines]
  | @block l ls hpub hends hclose =>
    rw [run_cons, step_region_of_not_endsOnLine hpub hends]
    have hne : ls ≠ [] := by
      rintro rfl
      exact not_braceClosed_singleton hclose.1
    exact run_collecting hne hclose

end ScanState

end StylusSurvey
