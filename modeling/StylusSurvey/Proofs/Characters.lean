import Mathlib.Tactic.SplitIfs
import StylusSurvey.Text.Blank
import StylusSurvey.Text.Word

/-!
# Classes of characters

A character of a class lies in one of its ranges (`exists_of_inRanges`), so two classes
whose ranges lie apart have no character in common. Blanks and word characters are such
classes (`isBlank_eq_false_of_isWord`).
-/

namespace StylusSurvey

variable {c : Char} {rs : List (Nat × Nat)}

/-- A character in a table of ranges is in one of the ranges. -/
theorem exists_of_inRanges (h : inRanges rs c = true) :
    ∃ r ∈ rs, r.1 ≤ c.toNat ∧ c.toNat ≤ r.2 := by
  induction rs with
  | nil => cases h
  | cons r rs ih =>
    rw [inRanges] at h
    split_ifs at h with hlt hle
    · exact ⟨r, List.mem_cons_self, Nat.le_of_not_lt hlt, hle⟩
    · obtain ⟨q, hq, hc⟩ := ih h
      exact ⟨q, List.mem_cons_of_mem r hq, hc⟩

/-- No range of blanks meets a range of word characters. -/
theorem blankRanges_apart_wordRanges :
    ∀ r ∈ blankRanges, ∀ q ∈ wordRanges, r.2 < q.1 ∨ q.2 < r.1 := by
  decide +kernel

theorem isBlank_eq_false_of_isWord (h : isWord c = true) : isBlank c = false := by
  rw [Bool.eq_false_iff]
  intro hblank
  obtain ⟨r, hr, hrc, hcr⟩ := exists_of_inRanges hblank
  obtain ⟨q, hq, hqc, hcq⟩ := exists_of_inRanges h
  have hapart := blankRanges_apart_wordRanges r hr q hq
  omega

theorem isWord_of_isDigit (h : c.isDigit = true) : isWord c = true := by
  rw [Char.isDigit, Bool.and_eq_true, decide_eq_true_eq, decide_eq_true_eq] at h
  have hlow : 0x30 ≤ c.toNat := h.1
  have hhigh : c.toNat ≤ 0x39 := h.2
  rw [isWord, wordRanges, inRanges, if_neg (Nat.not_lt.2 hlow), if_pos hhigh]

/-- Characters that end a word and are no blanks, a newline among them. -/
def punctuation : List Char := ['\n', '(', ';', '<', '{', '}']

/-- The marks that stand between words are no characters of words. -/
theorem isWord_eq_false_of_mem_punctuation (h : c ∈ punctuation) : isWord c = false := by
  have hall : (punctuation.all fun d => !isWord d) = true := by decide
  simpa using List.all_eq_true.1 hall c h

theorem isWord_eq_false_of_isBlank (h : isBlank c = true) : isWord c = false := by
  rw [Bool.eq_false_iff]
  intro hword
  rw [isBlank_eq_false_of_isWord hword] at h
  cases h

end StylusSurvey
