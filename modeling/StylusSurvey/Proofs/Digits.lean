import StylusSurvey.Manifest.Intent

/-!
# Runs of digits

The numbers of a request are the maximal runs of ASCII digits in it, from left to right.
`DigitRuns` says so of a text and a list without following the scan: each run has only
digits, and what stands next to it on either side is no digit. A text has exactly one such
list, the one that is scanned (`digitRuns_eq_iff`), and a character that is no digit
divides the runs before it from those after it (`digitRuns_append_cons`).
-/

namespace StylusSurvey

namespace Intent

variable {s t : Text} {c : Char} {run : Text} {runs runs' : List Text}

/-- The maximal runs of ASCII digits in a text, in order. -/
inductive DigitRuns : Text → List Text → Prop
  | none {s : Text} (h : ∀ c ∈ s, c.isDigit = false) : DigitRuns s []
  | run (gap : Text) {run rest : Text} {runs : List Text} (hgap : ∀ c ∈ gap, c.isDigit = false)
    (hne : run ≠ []) (hrun : ∀ c ∈ run, c.isDigit = true)
    (hend : ∀ c ∈ rest.head?, c.isDigit = false) (hrest : DigitRuns rest runs) :
    DigitRuns (gap ++ (run ++ rest)) (run :: runs)

theorem DigitRuns.cons (hc : c.isDigit = false) (h : DigitRuns s runs) :
    DigitRuns (c :: s) runs := by
  cases h with
  | none hs => exact .none (List.forall_mem_cons.2 ⟨hc, hs⟩)
  | @run gap run rest runs hgap hne hrun hend hrest =>
    rw [← List.cons_append]
    exact .run _ (List.forall_mem_cons.2 ⟨hc, hgap⟩) hne hrun hend hrest

/-! ## The scan -/

theorem digitRunsAfter_cons_of_digit (hc : c.isDigit = true) :
    digitRunsAfter run (c :: s) = digitRunsAfter (run ++ [c]) s := by
  rw [digitRunsAfter, if_pos hc]

/-- A character that is no digit ends the run before it. -/
theorem digitRunsAfter_cons_of_not_digit (hc : c.isDigit = false) :
    digitRunsAfter run (c :: s) = (if run = [] then [] else [run]) ++ digitRuns s := by
  rw [digitRunsAfter, if_neg (by simp [hc]), digitRuns]
  split <;> rfl

theorem digitRuns_cons_of_not_digit (hc : c.isDigit = false) :
    digitRuns (c :: s) = digitRuns s := by
  rw [digitRuns, digitRunsAfter_cons_of_not_digit hc, if_pos rfl, List.nil_append]

theorem digitRuns_append_of_gap (h : ∀ c ∈ s, c.isDigit = false) :
    digitRuns (s ++ t) = digitRuns t := by
  induction s with
  | nil => rfl
  | cons c s ih =>
    obtain ⟨hc, hs⟩ := List.forall_mem_cons.1 h
    rw [List.cons_append, digitRuns_cons_of_not_digit hc, ih hs]

theorem digitRunsAfter_append_of_digits (h : ∀ c ∈ s, c.isDigit = true) :
    digitRunsAfter run (s ++ t) = digitRunsAfter (run ++ s) t := by
  induction s generalizing run with
  | nil => rw [List.nil_append, List.append_nil]
  | cons c s ih =>
    obtain ⟨hc, hs⟩ := List.forall_mem_cons.1 h
    rw [List.cons_append, digitRunsAfter_cons_of_digit hc, ih hs, List.append_assoc,
      List.singleton_append]

theorem digitRunsAfter_append_cons (hc : c.isDigit = false) :
    digitRunsAfter run (s ++ c :: t) = digitRunsAfter run s ++ digitRuns t := by
  induction s generalizing run with
  | nil => exact digitRunsAfter_cons_of_not_digit hc
  | cons d s ih =>
    rw [List.cons_append]
    cases hd : d.isDigit with
    | true => rw [digitRunsAfter_cons_of_digit hd, digitRunsAfter_cons_of_digit hd, ih]
    | false =>
      have hs : digitRuns (s ++ c :: t) = digitRuns s ++ digitRuns t := ih
      rw [digitRunsAfter_cons_of_not_digit hd, digitRunsAfter_cons_of_not_digit hd, hs,
        List.append_assoc]

/-- A character that is no digit divides the runs into those before and those behind it. -/
theorem digitRuns_append_cons (hc : c.isDigit = false) :
    digitRuns (s ++ c :: t) = digitRuns s ++ digitRuns t :=
  digitRunsAfter_append_cons hc

/-- A run that ends where it should is the first of the runs. -/
theorem digitRuns_append_run (hne : run ≠ []) (hrun : ∀ c ∈ run, c.isDigit = true)
    (hend : ∀ c ∈ t.head?, c.isDigit = false) : digitRuns (run ++ t) = run :: digitRuns t := by
  rw [digitRuns, digitRunsAfter_append_of_digits hrun, List.nil_append]
  cases t with
  | nil =>
    rw [digitRunsAfter, if_neg hne]
    rfl
  | cons c t =>
    have hc : c.isDigit = false := hend c rfl
    rw [digitRunsAfter_cons_of_not_digit hc, if_neg hne, digitRuns_cons_of_not_digit hc,
      List.singleton_append]

/-- The scan finds maximal runs, the one that it is in included. -/
theorem digitRuns_digitRunsAfter (hrun : ∀ c ∈ run, c.isDigit = true) :
    DigitRuns (run ++ s) (digitRunsAfter run s) := by
  induction s generalizing run with
  | nil =>
    rw [digitRunsAfter]
    split
    case isTrue hnil =>
      subst hnil
      exact .none (by simp)
    case isFalse hne => exact .run [] (by simp) hne hrun (by simp) (.none (by simp))
  | cons c s ih =>
    cases hc : c.isDigit with
    | true =>
      rw [digitRunsAfter_cons_of_digit hc, ← List.singleton_append, ← List.append_assoc]
      refine ih fun d hd => ?_
      rcases List.mem_append.1 hd with hd | hd
      · exact hrun d hd
      · rwa [List.mem_singleton.1 hd]
    | false =>
      have hrest : DigitRuns (c :: s) (digitRuns s) := (@ih [] (by simp)).cons hc
      rw [digitRunsAfter_cons_of_not_digit hc]
      split
      case isTrue hnil =>
        subst hnil
        exact hrest
      case isFalse hne => exact .run [] (by simp) hne hrun (by simpa using hc) hrest

/-- The runs that are scanned are the maximal ones, and a text has no others. -/
theorem digitRuns_eq_iff : digitRuns s = runs ↔ DigitRuns s runs := by
  constructor
  · rintro rfl
    exact @digitRuns_digitRunsAfter s [] (by simp)
  · intro h
    induction h with
    | @none s hs =>
      have hgap := digitRuns_append_of_gap (t := []) hs
      rwa [List.append_nil] at hgap
    | run gap hgap hne hrun hend hrest ih =>
      rw [digitRuns_append_of_gap hgap, digitRuns_append_run hne hrun hend, ih]

end Intent

end StylusSurvey
