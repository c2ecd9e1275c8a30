import StylusSurvey.Proofs.Digits
import StylusSurvey.Proofs.Texts
import StylusSurvey.Text.Lowercase

/-!
# What lower case leaves alone

Digits, underscores and blanks have no case (`isCaseless`), and no other character becomes
one of them in lower case. Such a character of a text is found in its lower case at the
same place (`lowerAfter_cons_of_isCaseless`), and any other one becomes characters that are
not among them (`exists_lowerAfter_cons`). So the digit runs of a text are those of its
lower case (`digitRuns_lowercase`). A space ends the word in which a sigma has its form, so
that the lower case of what stands before it does not depend on what follows
(`lowerAfter_append_space`).
-/

namespace StylusSurvey

variable {c d : Char}

/-! ## Characters without case -/

/-- A digit, an underscore or a blank. -/
def isCaseless (c : Char) : Bool :=
  c.isDigit || c == '_' || isBlank c

/-- The ranges of the characters without case. -/
def caselessRanges : List (Nat × Nat) :=
  (0x30, 0x39) :: (0x5F, 0x5F) :: blankRanges

theorem isCaseless_of_isDigit (h : c.isDigit = true) : isCaseless c = true := by
  rw [isCaseless, h]
  rfl

theorem exists_range_of_isCaseless (h : isCaseless c = true) :
    ∃ q ∈ caselessRanges, q.1 ≤ c.toNat ∧ c.toNat ≤ q.2 := by
  rw [isCaseless, Bool.or_eq_true, Bool.or_eq_true] at h
  rcases h with (hdigit | hunderscore) | hblank
  · rw [Char.isDigit, Bool.and_eq_true, decide_eq_true_eq, decide_eq_true_eq] at hdigit
    exact ⟨(0x30, 0x39), List.mem_cons_self, hdigit⟩
  · rw [beq_iff_eq] at hunderscore
    subst hunderscore
    exact ⟨(0x5F, 0x5F), List.mem_cons_of_mem _ List.mem_cons_self, by decide⟩
  · obtain ⟨q, hq, hc⟩ := exists_of_inRanges hblank
    exact ⟨q, List.mem_cons_of_mem _ (List.mem_cons_of_mem _ hq), hc⟩

/-- No capital and no small letter of the table lies in a range without case. -/
theorem lowercaseRuns_apart_caselessRanges : ∀ r ∈ lowercaseRuns, ∀ q ∈ caselessRanges,
    0 < q.1 ∧ (r.2.1 < q.1 ∨ q.2 < r.1) ∧
      ((r.2.1 + r.2.2.2 : Int) < q.1 ∨ (q.2 : Int) < r.1 + r.2.2.2) := by
  decide +kernel

/-- A character is left where it is, or moved by the distance of its row. -/
theorem lowercaseShift_eq_zero_or (n : Nat) (table : List (Nat × Nat × Nat × Int)) :
    lowercaseShift n table = 0 ∨
      ∃ r ∈ table, r.1 ≤ n ∧ n ≤ r.2.1 ∧ lowercaseShift n table = r.2.2.2 := by
  induction table with
  | nil => exact .inl rfl
  | cons r table ih =>
    obtain ⟨first, last, step, shift⟩ := r
    rw [lowercaseShift]
    split_ifs with hlt hle
    · exact .inl rfl
    · exact .inr ⟨_, List.mem_cons_self, Nat.le_of_not_lt hlt, hle.1, rfl⟩
    · refine ih.imp_right fun ⟨r, hr, hrange⟩ => ⟨r, List.mem_cons_of_mem _ hr, hrange⟩

/-- A character is its own small letter unless it and its small letter have case. -/
theorem lowerChar_eq_self_or (c : Char) :
    lowerChar c = c ∨ isCaseless c = false ∧ isCaseless (lowerChar c) = false := by
  rcases lowercaseShift_eq_zero_or c.toNat lowercaseRuns with
    hzero | ⟨r, hr, hfirst, hlast, hshift⟩
  · left
    rw [lowerChar, hzero, Int.add_zero, Int.toNat_natCast, Char.ofNat_toNat]
  · right
    have hsmall : (lowerChar c).toNat = (c.toNat + r.2.2.2).toNat ∨ (lowerChar c).toNat = 0 := by
      rw [lowerChar, hshift, Char.ofNat]
      by_cases hvalid : (c.toNat + r.2.2.2).toNat.isValidChar
      · rw [dif_pos hvalid]
        exact .inl rfl
      · rw [dif_neg hvalid]
        exact .inr rfl
    rw [Bool.eq_false_iff, Bool.eq_false_iff]
    constructor
    · intro h
      obtain ⟨q, hq, hc⟩ := exists_range_of_isCaseless h
      have hapart := lowercaseRuns_apart_caselessRanges r hr q hq
      omega
    · intro h
      obtain ⟨q, hq, hc⟩ := exists_range_of_isCaseless h
      have hapart := lowercaseRuns_apart_caselessRanges r hr q hq
      omega

namespace Text

variable {before s t : Text}

/-! ## Lower case of a text -/

theorem lowerAfter_cons_of_isCaseless (h : isCaseless c = true) :
    lowerAfter before (c :: s) = c :: lowerAfter (c :: before) s := by
  have hdotted : c ≠ 'İ' := by
    rintro rfl
    exact absurd h (by decide)
  have hsigma : c ≠ 'Σ' := by
    rintro rfl
    exact absurd h (by decide)
  have hsmall : lowerChar c = c := by
    rcases lowerChar_eq_self_or c with hself | ⟨hc, -⟩
    · exact hself
    · rw [h] at hc
      cases hc
  rw [lowerAfter, if_neg hdotted, if_neg hsigma, hsmall, List.singleton_append]

/-- A character that has case, or might have, becomes characters of the same kind. -/
theorem exists_lowerAfter_cons (before s : Text) (h : isCaseless c = false) :
    ∃ small, small ≠ [] ∧ (∀ d ∈ small, isCaseless d = false) ∧
      lowerAfter before (c :: s) = small ++ lowerAfter (c :: before) s := by
  refine ⟨_, ?_, ?_, rfl⟩
  · split_ifs <;> exact List.cons_ne_nil _ _
  · split_ifs
    · exact List.forall_mem_cons.2
        ⟨by decide, List.forall_mem_singleton.2 (by decide)⟩
    · exact List.forall_mem_singleton.2 (by decide)
    · exact List.forall_mem_singleton.2 (by decide)
    · intro d hd
      rw [List.mem_singleton.1 hd]
      rcases lowerChar_eq_self_or c with hself | ⟨-, hsmall⟩
      · rwa [hself]
      · exact hsmall

/-- A text without case is its own lower case. -/
theorem lowerAfter_of_forall_isCaseless (h : ∀ c ∈ s, isCaseless c = true) :
    lowerAfter before s = s := by
  induction s generalizing before with
  | nil => rfl
  | cons c s ih =>
    obtain ⟨hc, hs⟩ := List.forall_mem_cons.1 h
    rw [lowerAfter_cons_of_isCaseless hc, ih hs]

/-- What has no case in a lower case was in the text. -/
theorem mem_of_mem_lowerAfter (hd : isCaseless d = true) (h : d ∈ lowerAfter before s) :
    d ∈ s := by
  induction s generalizing before with
  | nil => exact absurd h List.not_mem_nil
  | cons c s ih =>
    cases hc : isCaseless c with
    | true =>
      rw [lowerAfter_cons_of_isCaseless hc] at h
      rcases List.mem_cons.1 h with rfl | h
      · exact List.mem_cons_self
      · exact List.mem_cons_of_mem c (ih h)
    | false =>
      obtain ⟨small, -, hsmall, heq⟩ := exists_lowerAfter_cons before s hc
      rw [heq] at h
      rcases List.mem_append.1 h with h | h
      · rw [hsmall d h] at hd
        cases hd
      · exact List.mem_cons_of_mem c (ih h)

/-- Each character of a text leaves one in its lower case, itself or one that has case. -/
theorem exists_mem_lowerAfter (h : c ∈ s) :
    ∃ d ∈ lowerAfter before s, d = c ∨ isCaseless d = false := by
  induction s generalizing before with
  | nil => exact absurd h List.not_mem_nil
  | cons b s ih =>
    cases hb : isCaseless b with
    | true =>
      rw [lowerAfter_cons_of_isCaseless hb]
      rcases List.mem_cons.1 h with rfl | h
      · exact ⟨c, List.mem_cons_self, .inl rfl⟩
      · obtain ⟨d, hd, hcase⟩ := @ih (b :: before) h
        exact ⟨d, List.mem_cons_of_mem _ hd, hcase⟩
    | false =>
      obtain ⟨small, hne, hsmall, heq⟩ := exists_lowerAfter_cons before s hb
      obtain ⟨d, small, rfl⟩ := List.exists_cons_of_ne_nil hne
      rw [heq]
      exact ⟨d, List.mem_cons_self, .inr (hsmall d List.mem_cons_self)⟩

/-! ## The end of a word -/

/-- Behind a space no character counts for what stands ahead of it. -/
theorem caseFollows_append_space : caseFollows (s ++ ' ' :: t) = caseFollows s := by
  have hignorable : isCaseIgnorable ' ' = false := by decide
  rw [caseFollows, dropWhile_append_cons hignorable, caseFollows]
  cases s.dropWhile isCaseIgnorable with
  | nil =>
    have hcased : isCased ' ' = false := by decide
    exact hcased
  | cons c s => rfl

/-- A space keeps the lower case of what stands before it from depending on what follows. -/
theorem lowerAfter_append_space : lowerAfter before (s ++ ' ' :: t) =
    lowerAfter before s ++ lowerAfter (s.reverse ++ before) (' ' :: t) := by
  induction s generalizing before with
  | nil => rfl
  | cons c s ih =>
    conv_rhs => lhs; rw [lowerAfter]
    rw [List.cons_append, lowerAfter, caseFollows_append_space, ih, List.append_assoc,
      List.reverse_cons, List.append_assoc s.reverse, List.singleton_append]

end Text

/-! ## Digits -/

namespace Intent

open Text

variable {before run s : Text}

theorem isDigit_eq_false_of_isCaseless (h : isCaseless c = false) : c.isDigit = false := by
  rw [isCaseless, Bool.or_eq_false_iff, Bool.or_eq_false_iff] at h
  exact h.1.1

/-- The lower case of a text has the digits of the text. -/
theorem digitRunsAfter_lowerAfter :
    digitRunsAfter run (lowerAfter before s) = digitRunsAfter run s := by
  induction s generalizing before run with
  | nil => rfl
  | cons c s ih =>
    have hruns : digitRuns (lowerAfter (c :: before) s) = digitRuns s := ih
    cases hc : isCaseless c with
    | true =>
      rw [lowerAfter_cons_of_isCaseless hc]
      cases hdigit : c.isDigit with
      | true => rw [digitRunsAfter_cons_of_digit hdigit, digitRunsAfter_cons_of_digit hdigit, ih]
      | false =>
        rw [digitRunsAfter_cons_of_not_digit hdigit, digitRunsAfter_cons_of_not_digit hdigit,
          hruns]
    | false =>
      obtain ⟨small, hne, hsmall, heq⟩ := exists_lowerAfter_cons before s hc
      obtain ⟨d, small, rfl⟩ := List.exists_cons_of_ne_nil hne
      obtain ⟨hd, hsmall⟩ := List.forall_mem_cons.1 hsmall
      have hgap : ∀ e ∈ small, e.isDigit = false :=
        fun e he => isDigit_eq_false_of_isCaseless (hsmall e he)
      rw [heq, List.cons_append,
        digitRunsAfter_cons_of_not_digit (isDigit_eq_false_of_isCaseless hd),
        digitRuns_append_of_gap hgap, hruns,
        digitRunsAfter_cons_of_not_digit (isDigit_eq_false_of_isCaseless hc)]

/-- The numbers of a text do not depend on case. -/
theorem digitRuns_lowercase (s : Text) : digitRuns (lowercase s) = digitRuns s :=
  digitRunsAfter_lowerAfter

end Intent

end StylusSurvey
