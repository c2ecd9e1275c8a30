import Mathlib.Data.List.Infix
import StylusSurvey.Contract.BraceDepth

/-!
# Brace sums

A brace depth is a counter that sees one line at a time. What it says about the lines
it has seen is a property of their brace sums: its depth is the brace sum
(`BraceDepth.depth_after`), it has opened when the sum was positive after some of the
lines (`BraceDepth.opened_after`), and it is closed when the lines are
(`BraceDepth.isClosed_after`).

`ClosesAtLast` is the shape of a block that a counter delimits: closed after its last
line and not before.
-/

namespace StylusSurvey

variable {p ls ms : List Text} {l : Text}

/-! ## The braces of a line -/

@[simp] theorem braceDelta_nil : braceDelta [] = 0 :=
  rfl

@[simp] theorem braceDelta_append (s t : Text) :
    braceDelta (s ++ t) = braceDelta s + braceDelta t := by
  induction s with
  | nil => simp
  | cons c s ih =>
    rw [List.cons_append, braceDelta, braceDelta, ih]
    omega

/-- A line without braces changes no depth. -/
theorem braceDelta_eq_zero {s : Text} (hopen : '{' ∉ s) (hclose : '}' ∉ s) :
    braceDelta s = 0 := by
  induction s with
  | nil => rfl
  | cons c s ih =>
    rw [List.mem_cons, not_or] at hopen hclose
    rw [braceDelta, ih hopen.2 hclose.2, if_neg (Ne.symm hopen.1), if_neg (Ne.symm hclose.1)]
    rfl

/-! ## Lines that open and close -/

/-- Opening minus closing braces of the lines. -/
def braceSum : List Text → Int
  | [] => 0
  | l :: ls => braceDelta l + braceSum ls

@[simp] theorem braceSum_nil : braceSum [] = 0 :=
  rfl

@[simp] theorem braceSum_cons (l : Text) (ls : List Text) :
    braceSum (l :: ls) = braceDelta l + braceSum ls :=
  rfl

@[simp] theorem braceSum_append (ls ms : List Text) :
    braceSum (ls ++ ms) = braceSum ls + braceSum ms := by
  induction ls with
  | nil => simp
  | cons l ls ih =>
    rw [List.cons_append, braceSum_cons, braceSum_cons, ih]
    omega

/-- The brace sum is positive after some of the lines. -/
def BraceOpened (ls : List Text) : Prop :=
  ∃ p, p <+: ls ∧ 0 < braceSum p

/-- The lines have opened, and their brace sum is back at zero or below. -/
def BraceClosed (ls : List Text) : Prop :=
  BraceOpened ls ∧ braceSum ls ≤ 0

/-- The lines are closed after the last of them and not before. -/
def ClosesAtLast (ls : List Text) : Prop :=
  BraceClosed ls ∧ ∀ p, p <+: ls → p ≠ ls → ¬BraceClosed p

theorem not_braceOpened_nil : ¬BraceOpened [] := by
  rintro ⟨p, hp, hpos⟩
  rw [List.prefix_nil.1 hp] at hpos
  exact absurd hpos (by simp)

/-- A block that some lines have opened stays opened on all lines behind them. -/
theorem BraceOpened.of_prefix (h : BraceOpened p) (hp : p <+: ls) : BraceOpened ls := by
  obtain ⟨q, hq, hpos⟩ := h
  exact ⟨q, hq.trans hp, hpos⟩

/-- One more line opens a block if it makes the sum positive. -/
theorem braceOpened_append_singleton :
    BraceOpened (ls ++ [l]) ↔ BraceOpened ls ∨ 0 < braceSum (ls ++ [l]) := by
  constructor
  · rintro ⟨p, hp, hpos⟩
    rcases List.prefix_concat_iff.1 hp with rfl | hp
    · exact Or.inr hpos
    · exact Or.inl ⟨p, hp, hpos⟩
  · rintro (h | hpos)
    · exact h.of_prefix (List.prefix_append ls [l])
    · exact ⟨ls ++ [l], List.prefix_rfl, hpos⟩

theorem not_braceClosed_nil : ¬BraceClosed [] :=
  fun h => not_braceOpened_nil h.1

/-- A single line opens and closes nothing. -/
theorem not_braceClosed_singleton : ¬BraceClosed [l] := by
  rintro ⟨hopen, hsum⟩
  rcases (@braceOpened_append_singleton [] l).1 hopen with h | hpos
  · exact not_braceOpened_nil h
  · exact absurd hpos (by simpa using hsum)

/-- What is not closed stays so while its sum is positive. -/
theorem not_braceClosed_of_pos (h : 0 < braceSum ls) : ¬BraceClosed ls :=
  fun hc => absurd hc.2 (Int.not_le.2 h)

/-! ## The counter -/

namespace BraceDepth

/-- The depth of a block after its lines so far. -/
def after (ls : List Text) : BraceDepth :=
  ls.foldl feed {}

theorem after_append_singleton (ls : List Text) (l : Text) :
    after (ls ++ [l]) = (after ls).feed l := by
  simp [after]

theorem startingAt_eq (l : Text) : startingAt l = after [l] :=
  rfl

@[simp] theorem depth_add (b : BraceDepth) (d : Int) : (b.add d).depth = b.depth + d :=
  rfl

@[simp] theorem opened_add (b : BraceDepth) (d : Int) :
    (b.add d).opened = true ↔ b.opened = true ∨ 0 < b.depth + d := by
  simp [add]

@[simp] theorem isClosed_iff (b : BraceDepth) :
    b.isClosed = true ↔ b.opened = true ∧ b.depth ≤ 0 := by
  simp [isClosed]

@[simp] theorem depth_after (ls : List Text) : (after ls).depth = braceSum ls := by
  induction ls using List.reverseRecOn with
  | nil => rfl
  | append_singleton ls l ih => simp [after_append_singleton, feed, ih]

/-- The depth has been positive exactly if the lines open a block. -/
theorem opened_after (ls : List Text) : (after ls).opened = true ↔ BraceOpened ls := by
  induction ls using List.reverseRecOn with
  | nil => exact iff_of_false (by simp [after]) not_braceOpened_nil
  | append_singleton ls l ih =>
    rw [after_append_singleton, feed, opened_add, ih, braceOpened_append_singleton]
    simp

/-- The depth says that a block is closed exactly if the lines close one. -/
theorem isClosed_after (ls : List Text) : (after ls).isClosed = true ↔ BraceClosed ls := by
  rw [isClosed_iff, opened_after, depth_after, BraceClosed]

end BraceDepth

/-! The counter decides whether given lines open or close. -/

instance (ls : List Text) : Decidable (BraceOpened ls) :=
  decidable_of_iff _ (BraceDepth.opened_after ls)

instance (ls : List Text) : Decidable (BraceClosed ls) :=
  decidable_of_iff _ (BraceDepth.isClosed_after ls)

instance (ls : List Text) : Decidable (ClosesAtLast ls) :=
  decidable_of_iff (BraceClosed ls ∧ ∀ p ∈ ls.inits, p ≠ ls → ¬BraceClosed p)
    (by simp [ClosesAtLast, List.mem_inits])

end StylusSurvey
