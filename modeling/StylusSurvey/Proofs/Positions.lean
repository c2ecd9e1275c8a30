import StylusSurvey.Proofs.Lines
import StylusSurvey.Proofs.Scan

/-!
# The scanner line by line

`ScanState.stateAfter ls k` is where the scanner stands after the first `k` of the
lines `ls`. A run emits a function exactly where a step from one of these states does
(`mem_run_iff`). A function that the scanner is collecting consists of the lines from
its start line on (`collecting_stateAfter`), so an emitted block is a slice of the
source: the lines from its start line to the one that completed it, which are the lines
of a function (`emitted_block`).
-/

namespace StylusSurvey

open Declaration

variable {ls : List Text} {i j k s : Nat}

/-! ## Slices -/

/-- The line with the given number, counted from one. -/
def lineAt : List Text → Nat → Option Text
  | _, 0 => none
  | ls, n + 1 => ls[n]?

theorem lineAt_succ (hk : k < ls.length) : lineAt ls (k + 1) = some ls[k] :=
  List.getElem?_eq_getElem hk

/-- The lines number `i` to `k`, counted from one. -/
def linesFromTo (ls : List Text) (i k : Nat) : List Text :=
  (ls.take k).drop (i - 1)

theorem linesFromTo_of_lt (h : k < i) : linesFromTo ls i k = [] := by
  rw [linesFromTo, List.drop_eq_nil_iff, List.length_take]
  omega

theorem linesFromTo_succ (hi : i ≤ k + 1) (hk : k < ls.length) :
    linesFromTo ls i (k + 1) = linesFromTo ls i k ++ [ls[k]] := by
  rw [linesFromTo, linesFromTo, List.take_succ_eq_append_getElem hk, List.drop_append_of_le_length]
  rw [List.length_take]
  omega

theorem linesFromTo_self (hk : k < ls.length) : linesFromTo ls (k + 1) (k + 1) = [ls[k]] := by
  rw [linesFromTo_succ le_rfl hk, linesFromTo_of_lt (Nat.lt_succ_self k), List.nil_append]

/-- There are as many lines as their numbers say. -/
theorem length_linesFromTo (hk : k ≤ ls.length) :
    (linesFromTo ls i k).length = k - (i - 1) := by
  rw [linesFromTo, List.length_drop, List.length_take, Nat.min_eq_left hk]

theorem linesFromTo_prefix (h : j ≤ k) : linesFromTo ls i j <+: linesFromTo ls i k := by
  rw [linesFromTo, linesFromTo]
  exact (List.take_prefix_take_left h).drop (i - 1)

/-- Lines up to a place and from there on are all of them. -/
theorem linesFromTo_append (his : i ≤ s) (hsk : s ≤ k + 1) (hk : k ≤ ls.length) :
    linesFromTo ls i (s - 1) ++ linesFromTo ls s k = linesFromTo ls i k := by
  have htake : ls.take (s - 1) = (ls.take k).take (s - 1) := by
    rw [List.take_take, Nat.min_eq_left (by omega)]
  have hlen : i - 1 ≤ ((ls.take k).take (s - 1)).length := by
    simp only [List.length_take]
    omega
  rw [linesFromTo, linesFromTo, linesFromTo, htake, ← List.drop_append_of_le_length hlen,
    List.take_append_drop]

/-- A slice has opened when the slice up to one of its lines has a positive sum. -/
theorem braceOpened_linesFromTo :
    BraceOpened (linesFromTo ls i k) ↔ ∃ j ≤ k, 0 < braceSum (linesFromTo ls i j) := by
  constructor
  · rintro ⟨p, hp, hpos⟩
    have hslice : p = linesFromTo ls i (min (i - 1 + p.length) k) := by
      have htake := List.prefix_iff_eq_take.1 hp
      rwa [linesFromTo, List.take_drop, List.take_take] at htake
    exact ⟨_, Nat.min_le_right _ _, hslice ▸ hpos⟩
  · rintro ⟨j, hj, hpos⟩
    exact ⟨_, linesFromTo_prefix hj, hpos⟩

/-- The number of the last line of the block. -/
def FunctionBlock.lastLine (b : FunctionBlock) : Nat :=
  b.startLine + b.text.count '\n'

namespace ScanState

/-! ## States and emitted blocks -/

/-- The state of the scanner after the first `k` lines. -/
def stateAfter (ls : List Text) (k : Nat) : ScanState :=
  (outside.run 1 (ls.take k)).1

@[simp] theorem stateAfter_zero (ls : List Text) : stateAfter ls 0 = outside :=
  rfl

/-- The state behind a line is one step from the state ahead of it. -/
theorem stateAfter_succ (hk : k < ls.length) :
    stateAfter ls (k + 1) = ((stateAfter ls k).step ls[k] (k + 1)).1 := by
  have hlen : (ls.take k).length = k := by simp; omega
  rw [stateAfter, List.take_succ_eq_append_getElem hk, run_append, run_cons, hlen, Nat.add_comm 1 k]
  rfl

/-- A run emits what the steps from its states emit. -/
theorem mem_run_iff {q : ScanState} {n : Nat} {b : FunctionBlock} :
    b ∈ (q.run n ls).2 ↔
      ∃ k, ∃ hk : k < ls.length, ((q.run n (ls.take k)).1.step ls[k] (n + k)).2 = some b := by
  induction ls generalizing q n with
  | nil => simp
  | cons l ls ih =>
    rw [run_cons, List.mem_append, Option.mem_toList, ih]
    constructor
    · rintro (h | ⟨k, hk, h⟩)
      · exact ⟨0, by simp, h⟩
      · refine ⟨k + 1, by simpa using hk, ?_⟩
        rw [Nat.add_assoc, Nat.add_comm 1 k] at h
        exact h
    · rintro ⟨k, hk, h⟩
      cases k with
      | zero => exact Or.inl h
      | succ k =>
        refine Or.inr ⟨k, by simpa using hk, ?_⟩
        rw [Nat.add_assoc, Nat.add_comm 1 k]
        exact h

/-- From each state to the next, the scanner makes one of its transitions. -/
theorem transition_stateAfter (hk : k < ls.length) :
    Transition ls[k] (k + 1) (stateAfter ls k) (stateAfter ls (k + 1))
      ((stateAfter ls k).step ls[k] (k + 1)).2 := by
  rw [stateAfter_succ hk]
  exact transition_step _ _ _

/-! ## The function being collected -/

/-- The lines begin a function that is not complete yet. -/
def FunctionBegins (acc : List Text) : Prop :=
  ∃ l rest, acc = l :: rest ∧ isPublicFunction l = true ∧ ¬EndsOnLine l ∧
    ∀ p, p <+: acc → ¬BraceClosed p

theorem functionBegins_singleton {l : Text} (hpub : isPublicFunction l = true)
    (hends : ¬EndsOnLine l) : FunctionBegins [l] := by
  refine ⟨l, [], rfl, hpub, hends, fun p hp => ?_⟩
  rcases List.prefix_concat_iff.1 (show p <+: [] ++ [l] from hp) with rfl | hp
  · exact not_braceClosed_singleton
  · rw [List.prefix_nil.1 hp]
    exact not_braceClosed_nil

/-- A function that is not closed goes on. -/
theorem FunctionBegins.append {acc : List Text} {l : Text} (h : FunctionBegins acc)
    (hl : ¬BraceClosed (acc ++ [l])) : FunctionBegins (acc ++ [l]) := by
  obtain ⟨m, rest, rfl, hpub, hends, hopen⟩ := h
  refine ⟨m, rest ++ [l], rfl, hpub, hends, fun p hp => ?_⟩
  rcases List.prefix_concat_iff.1 (show p <+: (m :: rest) ++ [l] from hp) with rfl | hp
  · exact hl
  · exact hopen p hp

/-- The line that closes a begun function completes it. -/
theorem FunctionBegins.functionLines {acc : List Text} {l : Text} (h : FunctionBegins acc)
    (hl : BraceClosed (acc ++ [l])) : FunctionLines (acc ++ [l]) := by
  obtain ⟨m, rest, rfl, hpub, hends, hopen⟩ := h
  refine .block hpub hends ⟨hl, fun p hp hne => ?_⟩
  rcases List.prefix_concat_iff.1 (show p <+: (m :: rest) ++ [l] from hp) with rfl | hp
  · exact absurd rfl hne
  · exact hopen p hp

/-- The scanner collects a function because a line has begun it or because it did so before. -/
theorem Transition.to_collecting {l : Text} {n : Nat} {q : ScanState} {o : Option FunctionBlock}
    {d f : BraceDepth} {acc : List Text} (h : Transition l n q (collecting d f s acc) o) :
    (q = region d ∧ isPublicFunction l = true ∧ ¬EndsOnLine l ∧ s = n ∧ acc = [l] ∧
        f = BraceDepth.after [l]) ∨
      ∃ f' acc', q = collecting d f' s acc' ∧ acc = acc' ++ [l] ∧ f = f'.feed l ∧
        f.isClosed = false := by
  generalize hq' : collecting d f s acc = q' at h
  cases h with
  | pass | marker | preamble | disarm => cases hq'
  | joined | header => exact absurd hq'.symm atHeader_ne_collecting
  | filler | oneLine | finish => exact absurd hq'.symm afterFunction_ne_collecting
  | start hpub hends =>
    cases hq'
    exact Or.inl ⟨rfl, hpub, hends, rfl, rfl, rfl⟩
  | more hopen =>
    cases hq'
    exact Or.inr ⟨_, _, rfl, rfl, rfl, hopen⟩

/-- A function being collected after `k` lines consists of the lines from its start on, and the
scanner has counted their braces. -/
theorem collecting_stateAfter {d f : BraceDepth} {acc : List Text} (hk : k ≤ ls.length)
    (h : stateAfter ls k = collecting d f s acc) :
    1 ≤ s ∧ s ≤ k ∧ acc = linesFromTo ls s k ∧ f = BraceDepth.after acc ∧ FunctionBegins acc := by
  induction k generalizing f acc with
  | zero => cases h
  | succ k ih =>
    have hstep := transition_stateAfter hk
    rw [h] at hstep
    rcases hstep.to_collecting with ⟨-, hpub, hends, rfl, rfl, rfl⟩ |
      ⟨f', acc', hq, rfl, rfl, hopen⟩
    · exact ⟨by omega, le_rfl, (linesFromTo_self hk).symm, rfl, functionBegins_singleton hpub hends⟩
    · obtain ⟨hs, hsk, hacc, rfl, hbegins⟩ := ih (by omega) hq
      rw [← BraceDepth.after_append_singleton, Bool.eq_false_iff, ne_eq,
        BraceDepth.isClosed_after] at hopen
      refine ⟨hs, by omega, ?_, (BraceDepth.after_append_singleton _ _).symm,
        hbegins.append hopen⟩
      rw [linesFromTo_succ (by omega) hk, hacc]

/-- A block that line `k + 1` completes consists of the lines of a function, those from its start
line to that line. -/
theorem emitted_block {b : FunctionBlock} (hk : k < ls.length)
    (h : ((stateAfter ls k).step ls[k] (k + 1)).2 = some b) :
    1 ≤ b.startLine ∧ b.startLine ≤ k + 1 ∧ FunctionLines (linesFromTo ls b.startLine (k + 1)) ∧
      b.text = Text.unlines (linesFromTo ls b.startLine (k + 1)) := by
  have hstep := transition_stateAfter hk
  rw [h] at hstep
  generalize hq : stateAfter ls k = q at hstep
  generalize stateAfter ls (k + 1) = q' at hstep
  cases hstep with
  | oneLine hpub hends =>
    rw [linesFromTo_self hk]
    exact ⟨Nat.succ_pos k, le_rfl, .oneLine hpub hends, by simp [Text.unlines]⟩
  | @finish d f s acc hclosed =>
    obtain ⟨hs, hsk, hacc, rfl, hbegins⟩ := collecting_stateAfter hk.le hq
    rw [← BraceDepth.after_append_singleton, BraceDepth.isClosed_after] at hclosed
    have hlines := linesFromTo_succ (show s ≤ k + 1 by omega) hk
    rw [← hacc] at hlines
    rw [hlines]
    exact ⟨hs, Nat.le_succ_of_le hsk, hbegins.functionLines hclosed, rfl⟩

/-- The last line of a block is the line that completes it. -/
theorem lastLine_emitted {b : FunctionBlock} (hls : ∀ l ∈ ls, '\n' ∉ l) (hk : k < ls.length)
    (h : ((stateAfter ls k).step ls[k] (k + 1)).2 = some b) : b.lastLine = k + 1 := by
  obtain ⟨hs, hsk, hlines, htext⟩ := emitted_block hk h
  have hcount := Text.count_newline_unlines hlines.ne_nil fun l hl =>
    hls l (List.mem_of_mem_take (List.mem_of_mem_drop hl))
  rw [length_linesFromTo hk] at hcount
  rw [FunctionBlock.lastLine, htext]
  omega

end ScanState

end StylusSurvey
