import StylusSurvey.Proofs.Lines
import StylusSurvey.Proofs.Scan

/-!
# Blocks of a text in two parts

The function scanner keeps the number of a line only to say where a function starts. So it makes
the same steps wherever the numbers begin, with each start so many lines further down
(`ScanState.step_below`, `ScanState.run_below`). Lines that follow do not undo a block, and the
blocks of a text that goes on behind a line end are those of its first part and then those which
the scanner finds from where it stands (`functionBlocks_append_eq`). If it stands outside, these
are the blocks of the second part (`functionBlocks_append`).
-/

namespace StylusSurvey

open Text Declaration

variable {s : Text}

/-- The block, so many lines further down. -/
def FunctionBlock.below (count : Nat) (b : FunctionBlock) : FunctionBlock :=
  { b with startLine := b.startLine + count }

namespace ScanState

/-- The state, with the start of a function that is being collected so many lines further down. -/
def below (count : Nat) : ScanState → ScanState
  | collecting d f s acc => collecting d f (s + count) acc
  | q => q

theorem below_afterFunction (count : Nat) (d : BraceDepth) :
    (afterFunction d).below count = afterFunction d := by
  rcases afterFunction_cases d with h | ⟨h, -⟩ <;> rw [h] <;> rfl

theorem below_atHeader (count : Nat) (l : Text) : (atHeader l).below count = atHeader l := by
  rcases atHeader_cases l with h | h <;> rw [h] <;> rfl

theorem below_stepOutside (count : Nat) (l : Text) :
    (stepOutside l).below count = stepOutside l := by
  unfold stepOutside
  split
  · rfl
  · split_ifs
    · exact below_atHeader count _
    · rfl

theorem below_stepArmed (count : Nat) (l : Text) : (stepArmed l).below count = stepArmed l := by
  unfold stepArmed
  split_ifs
  · exact below_atHeader count l
  · rfl
  · rfl

/-- A line of a region that stands further down does the same, and moves the start of a function
with it. -/
theorem stepRegion_add (d : BraceDepth) (l : Text) (n count : Nat) :
    stepRegion d l (n + count) =
      ((stepRegion d l n).1.below count,
        (stepRegion d l n).2.map (FunctionBlock.below count)) := by
  cases hpub : isPublicFunction l with
  | false =>
    have hstep (m : Nat) : stepRegion d l m = (afterFunction (d.feed l), none) :=
      step_region_of_not_public hpub
    rw [hstep, hstep, below_afterFunction]
    rfl
  | true =>
    by_cases hends : EndsOnLine l
    · have hstep (m : Nat) :
          stepRegion d l m = (afterFunction (d.add (braceDelta l)), some ⟨l, m⟩) :=
        step_region_of_endsOnLine hpub hends
      rw [hstep, hstep, below_afterFunction]
      rfl
    · have hstep (m : Nat) :
          stepRegion d l m = (collecting d (BraceDepth.after [l]) m [l], none) :=
        step_region_of_not_endsOnLine hpub hends
      rw [hstep, hstep]
      rfl

/-- A line of a function that begins further down does the same to it. -/
theorem stepCollecting_add (d f : BraceDepth) (start count : Nat) (acc : List Text) (l : Text) :
    stepCollecting d f (start + count) acc l =
      ((stepCollecting d f start acc l).1.below count,
        (stepCollecting d f start acc l).2.map (FunctionBlock.below count)) := by
  unfold stepCollecting
  dsimp only
  split_ifs
  · rw [below_afterFunction]
    rfl
  · rfl

/-- A step is the same further down. -/
theorem step_below (q : ScanState) (l : Text) (n count : Nat) :
    (q.below count).step l (n + count) =
      ((q.step l n).1.below count, (q.step l n).2.map (FunctionBlock.below count)) := by
  cases q with
  | outside => exact Prod.ext (below_stepOutside count l).symm rfl
  | armed => exact Prod.ext (below_stepArmed count l).symm rfl
  | region d => exact stepRegion_add d l n count
  | collecting d f start acc => exact stepCollecting_add d f start count acc l

/-- A run is the same further down. -/
theorem run_below (q : ScanState) (n count : Nat) (ls : List Text) :
    (q.below count).run (n + count) ls =
      ((q.run n ls).1.below count, (q.run n ls).2.map (FunctionBlock.below count)) := by
  induction ls generalizing q n with
  | nil => rfl
  | cons l ls ih =>
    have htoList (b : Option FunctionBlock) :
        (b.map (FunctionBlock.below count)).toList = b.toList.map (FunctionBlock.below count) := by
      cases b <;> rfl
    rw [run_cons, run_cons, step_below, Nat.add_right_comm, ih, List.map_append, htoList]

end ScanState

open ScanState

/-- The scanner goes on behind a line end from where it stands. -/
theorem functionBlocks_append_eq (h : EndsLine s) (t : Text) :
    functionBlocks (s ++ t) = functionBlocks s ++
      ((outside.run 1 (lines s)).1.run (1 + (lines s).length) (lines t)).2 := by
  rw [functionBlocks, lines_append h, run_append]
  rfl

/-- Behind a line end a text has the blocks of its first part first. If the scanner stands outside
there, it has no others than those of the second part, so many lines further down. -/
theorem functionBlocks_append (h : EndsLine s) (t : Text) :
    functionBlocks s <+: functionBlocks (s ++ t) ∧
      ((outside.run 1 (lines s)).1 = outside →
        functionBlocks (s ++ t) =
          functionBlocks s ++ (functionBlocks t).map (FunctionBlock.below (lines s).length)) := by
  have happend := functionBlocks_append_eq h t
  refine ⟨⟨_, happend.symm⟩, fun houtside => ?_⟩
  have hbelow := run_below outside 1 (lines s).length (lines t)
  rw [happend, houtside]
  exact congrArg (functionBlocks s ++ ·.2) hbelow

/-- A marked block that is closed, behind a line end of two characters. -/
def closedPart : Text :=
  "#[public]\r\nimpl Vault \x7b\r\n    pub fn one(&self) -> u8 \x7b 1 \x7d\r\n\x7d\r\n"

/-- A helper that is not marked, and a marked block that is never closed. -/
def nextPart : Text :=
  unlines ["impl Vault \x7b", "    pub fn helper(&self) \x7b\x7d", "\x7d", "#[external]",
    "impl Vault \x7b", "    pub fn two(&self) -> u8 \x7b", "        2", "    \x7d"]

/-- A part whose blocks are all closed, and another one behind it. -/
theorem functionBlocks_append_closedPart :
    EndsLine closedPart ∧ (outside.run 1 (lines closedPart)).1 = outside ∧
      functionBlocks closedPart <+: functionBlocks (closedPart ++ nextPart) ∧
      (functionBlocks (closedPart ++ nextPart)).map (·.startLine) = [3, 10] := by
  have hline : EndsLine closedPart := by decide +kernel
  have houtside : (outside.run 1 (lines closedPart)).1 = outside := by decide +kernel
  have hstarts : (functionBlocks closedPart ++
      (functionBlocks nextPart).map (FunctionBlock.below (lines closedPart).length)).map
        (·.startLine) = [3, 10] := by decide +kernel
  have happend := functionBlocks_append hline nextPart
  refine ⟨hline, houtside, happend.1, ?_⟩
  rw [happend.2 houtside]
  exact hstarts

end StylusSurvey
