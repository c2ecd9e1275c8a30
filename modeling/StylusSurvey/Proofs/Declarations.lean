import StylusSurvey.Contract.Declaration
import StylusSurvey.Proofs.Braces
import StylusSurvey.Proofs.Texts

/-!
# What the recognisers of a line exclude

A marker holds no brace, so a header that follows it on one line has the braces of the
line (`braceDelta_afterMarker?`). A line that may stand between a marker and its header
is no header (`isImplHeader_eq_false_of_isPreamble`).
-/

namespace StylusSurvey

namespace Declaration

open Text

variable {l rest : Text}

theorem braceDelta_blanks {b : Text} (h : ∀ c ∈ b, isBlank c = true) : braceDelta b = 0 :=
  braceDelta_eq_zero (not_mem_of_blanks h rfl) (not_mem_of_blanks h rfl)

/-- What stands before the rest of an attribute line is blanks and the attribute. -/
theorem eq_append_of_afterAttribute? {names : List Text}
    (h : afterAttribute? names l = some rest) :
    ∃ b, (∀ c ∈ b, isBlank c = true) ∧ ∃ name ∈ names, l = b ++ "#[" ++ name ++ "]" ++ rest := by
  obtain ⟨b, hb, hl⟩ := exists_blanks_append_trimStart l
  obtain ⟨s, hs, hfind⟩ := Option.bind_eq_some_iff.1 h
  obtain ⟨name, hname, hafter⟩ := List.exists_of_findSome?_eq_some hfind
  rw [after?_eq_some_iff] at hs hafter
  refine ⟨b, hb, name, hname, ?_⟩
  rw [hs, hafter] at hl
  simpa using hl

/-- What stands behind a marker on a line has the braces of the line. -/
theorem braceDelta_afterMarker? (h : afterMarker? l = some rest) :
    braceDelta rest = braceDelta l := by
  obtain ⟨b, hb, name, hname, rfl⟩ := eq_append_of_afterAttribute? h
  have hzero : braceDelta name = 0 := by
    simp only [List.mem_cons, List.not_mem_nil, or_false] at hname
    rcases hname with rfl | rfl <;> rfl
  have hopen : braceDelta "#[" = 0 := rfl
  have hclose : braceDelta "]" = 0 := rfl
  simp only [braceDelta_append, braceDelta_blanks hb, hzero, hopen, hclose]
  omega

theorem afterMarker?_eq_none (h : '#' ∉ (trimStart l).head?) : afterMarker? l = none := by
  have hno : after? "#[" (trimStart l) = none := by
    rw [Option.eq_none_iff_forall_ne_some]
    intro t ht
    rw [after?_eq_some_iff] at ht
    exact h (by rw [ht]; rfl)
  rw [afterMarker?, afterAttribute?, hno]
  rfl

/-- What may stand between a marker and a header is no header. -/
theorem isImplHeader_eq_false_of_isPreamble (h : isPreamble l = true) :
    isImplHeader l = false := by
  have hno : after? "impl" (trimStart l) = none := by
    rw [Option.eq_none_iff_forall_ne_some]
    intro t ht
    rw [after?_eq_some_iff] at ht
    simp [isPreamble, startsWith, ht] at h
  rw [isImplHeader, hno]
  rfl

end Declaration

end StylusSurvey
