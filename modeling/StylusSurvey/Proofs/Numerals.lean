import StylusSurvey.Proofs.Texts
import StylusSurvey.Text.Numeral

/-!
# Numerals read back

A numeral holds nothing but ASCII digits and stands for its number (`ofNumeral?_numeral`). It is
not empty, and only the numeral of zero begins with a zero (`exists_numeral_eq_cons`). What
is read as a number is its numeral with any number of zeros in front (`Denotes`,
`ofNumeral?_eq_some_iff`), and nothing is read exactly where a digit is missing or something
else stands in place of one (`ofNumeral?_eq_none_iff`). An integer has a sign in front of its
numeral if it is negative (`DenotesInt`).
-/

namespace StylusSurvey

namespace Text

variable {s : Text} {n : Nat}

theorem isDigit_of_mem_numeral {c : Char} (h : c ∈ numeral n) : c.isDigit = true :=
  Nat.isDigit_of_mem_toDigits (by decide) (by decide) h

/-- A numeral stands for its number. -/
theorem valueOfDigits_numeral (n : Nat) : valueOfDigits (numeral n) = n :=
  Nat.ofDigitChars_ten_toDigits

theorem numeral_of_lt (h : n < 10) : numeral n = [n.digitChar] :=
  Nat.toDigits_of_lt_base h

/-- A number of two digits or more is written with its last digit behind the others. -/
theorem numeral_of_le (h : 10 ≤ n) : numeral n = numeral (n / 10) ++ [(n % 10).digitChar] :=
  Nat.toDigits_of_base_le (by decide) h

/-- Only the numeral of zero begins with a zero. -/
theorem exists_numeral_eq_cons (n : Nat) :
    ∃ c t, numeral n = c :: t ∧ (c = '0' → n = 0 ∧ t = []) := by
  induction n using Nat.strongRecOn with
  | ind n ih =>
    by_cases hn : n < 10
    · refine ⟨n.digitChar, [], numeral_of_lt hn, fun h => ⟨?_, rfl⟩⟩
      have hall : ∀ m : Fin 10, m.val.digitChar = '0' → m.val = 0 := by decide
      exact hall ⟨n, hn⟩ h
    · obtain ⟨c, t, hnumeral, hzero⟩ := ih (n / 10) (by omega)
      refine ⟨c, t ++ [(n % 10).digitChar], ?_, fun h => ?_⟩
      · rw [numeral_of_le (by omega), hnumeral, List.cons_append]
      · obtain ⟨hdiv, -⟩ := hzero h
        omega

theorem exists_digit_cons_eq_numeral (n : Nat) :
    ∃ c t, c.isDigit = true ∧ numeral n = c :: t := by
  obtain ⟨c, t, hnumeral, -⟩ := exists_numeral_eq_cons n
  exact ⟨c, t, isDigit_of_mem_numeral (hnumeral ▸ List.mem_cons_self), hnumeral⟩

/-- A character that is no digit does not occur in a numeral. -/
theorem not_mem_numeral {c : Char} (h : c.isDigit = false) (n : Nat) : c ∉ numeral n := by
  intro hmem
  rw [isDigit_of_mem_numeral hmem] at h
  exact absurd h (by decide)

/-! ## Runs of digits -/

/-- A numeral is made of digits, one at least. -/
theorem isNumeral_iff : isNumeral s = true ↔ s ≠ [] ∧ ∀ c ∈ s, c.isDigit = true := by
  rw [isNumeral, Bool.and_eq_true, List.all_eq_true, Bool.not_eq_true', List.isEmpty_eq_false_iff]

theorem isNumeral_numeral (n : Nat) : isNumeral (numeral n) = true := by
  obtain ⟨c, t, hcons, -⟩ := exists_numeral_eq_cons n
  exact isNumeral_iff.2 ⟨hcons ▸ List.cons_ne_nil c t, fun c hc => isDigit_of_mem_numeral hc⟩

theorem trim_of_isNumeral (h : isNumeral s = true) : trim s = s :=
  trim_of_forall_not_blank fun c hc =>
    isBlank_eq_false_of_isWord (isWord_of_isDigit ((isNumeral_iff.1 h).2 c hc))

theorem ofNumeral?_numeral (n : Nat) : ofNumeral? (numeral n) = some n := by
  rw [ofNumeral?, if_pos (isNumeral_numeral n), valueOfDigits_numeral]

theorem valueOfDigits_append_singleton (s : Text) (c : Char) :
    valueOfDigits (s ++ [c]) = 10 * valueOfDigits s + digitValue c := by
  rw [valueOfDigits, List.foldl_append]
  rfl

theorem valueOfDigits_zeros_append (zeros : Nat) (s : Text) :
    valueOfDigits (List.replicate zeros '0' ++ s) = valueOfDigits s := by
  induction zeros with
  | zero => rfl
  | succ zeros ih =>
    rw [← ih]
    rfl

/-- A digit is the digit of its value. -/
theorem digitValue_lt_and_digitChar {c : Char} (h : c.isDigit = true) :
    digitValue c < 10 ∧ (digitValue c).digitChar = c := by
  rw [Char.isDigit, Bool.and_eq_true, decide_eq_true_eq, decide_eq_true_eq] at h
  have hlow : 48 ≤ c.toNat := h.1
  have hhigh : c.toNat ≤ 57 := h.2
  have hvalue : digitValue c = c.toNat - 48 := rfl
  refine ⟨by omega, Char.toNat_inj.1 ?_⟩
  rw [Nat.toNat_digitChar_of_lt_ten (by omega)]
  omega

/-! ## Zeros in front -/

/-- The text is the numeral of the number, with zeros in front or none. -/
def Denotes (s : Text) (n : Nat) : Prop :=
  ∃ zeros, s = List.replicate zeros '0' ++ numeral n

theorem denotes_numeral (n : Nat) : Denotes (numeral n) n :=
  ⟨0, rfl⟩

theorem Denotes.isNumeral (h : Denotes s n) : isNumeral s = true := by
  obtain ⟨zeros, rfl⟩ := h
  obtain ⟨hne, hdigits⟩ := isNumeral_iff.1 (isNumeral_numeral n)
  have hzeros : ∀ c ∈ List.replicate zeros '0', c.isDigit = true := by
    intro c hc
    obtain rfl := List.eq_of_mem_replicate hc
    rfl
  exact isNumeral_iff.2 ⟨List.append_ne_nil_of_right_ne_nil _ hne,
    List.forall_mem_append.2 ⟨hzeros, hdigits⟩⟩

theorem Denotes.value_eq (h : Denotes s n) : valueOfDigits s = n := by
  obtain ⟨zeros, rfl⟩ := h
  rw [valueOfDigits_zeros_append, valueOfDigits_numeral]

/-- A digit behind a number makes the ten times greater number with that digit. -/
theorem Denotes.append_singleton {c : Char} (h : Denotes s n) (hc : c.isDigit = true) :
    Denotes (s ++ [c]) (10 * n + digitValue c) := by
  obtain ⟨zeros, rfl⟩ := h
  obtain ⟨hlt, hchar⟩ := digitValue_lt_and_digitChar hc
  by_cases hn : n = 0
  · -- The zero is one of those in front.
    subst hn
    refine ⟨zeros + 1, ?_⟩
    rw [Nat.mul_zero, Nat.zero_add, numeral_of_lt hlt, hchar, List.replicate_succ', numeral_of_lt]
    · rfl
    · decide
  · have hle : 10 ≤ 10 * n + digitValue c := by omega
    have hdiv : (10 * n + digitValue c) / 10 = n := by omega
    have hmod : (10 * n + digitValue c) % 10 = digitValue c := by omega
    refine ⟨zeros, ?_⟩
    rw [numeral_of_le hle, hdiv, hmod, hchar, List.append_assoc]

/-- Digits stand for some number. -/
theorem denotes_valueOfDigits (h : isNumeral s = true) : Denotes s (valueOfDigits s) := by
  induction s using List.reverseRecOn with
  | nil => cases h
  | append_singleton s c ih =>
    obtain ⟨-, hdigits⟩ := isNumeral_iff.1 h
    obtain ⟨hs, hc⟩ := List.forall_mem_append.1 hdigits
    have hc : c.isDigit = true := hc c (by simp)
    by_cases hne : s = []
    · subst hne
      obtain ⟨hlt, hchar⟩ := digitValue_lt_and_digitChar hc
      refine ⟨0, ?_⟩
      rw [valueOfDigits_append_singleton]
      simp [valueOfDigits, numeral_of_lt hlt, hchar]
    · rw [valueOfDigits_append_singleton]
      exact (ih (isNumeral_iff.2 ⟨hne, hs⟩)).append_singleton hc

/-- The numerals of a number are the nonempty runs of digits with its value. -/
theorem denotes_iff : Denotes s n ↔ isNumeral s = true ∧ valueOfDigits s = n := by
  constructor
  · exact fun h => ⟨h.isNumeral, h.value_eq⟩
  · rintro ⟨h, rfl⟩
    exact denotes_valueOfDigits h

/-- A text is read as a number exactly if it denotes it. -/
theorem ofNumeral?_eq_some_iff : ofNumeral? s = some n ↔ Denotes s n := by
  rw [ofNumeral?, denotes_iff]
  split
  case isTrue hs => rw [Option.some.injEq, and_iff_right hs]
  case isFalse hs => exact iff_of_false nofun fun h => hs h.1

/-- A text is no numeral exactly if it is empty or has something else than digits in it. -/
theorem ofNumeral?_eq_none_iff :
    ofNumeral? s = none ↔ s = [] ∨ ∃ c ∈ s, c.isDigit = false := by
  have hsome : ofNumeral? s = none ↔ ¬isNumeral s = true := by
    rw [ofNumeral?, ite_eq_right_iff, imp_iff_not]
    simp
  rw [hsome, isNumeral_iff, not_and_or, not_not]
  simp

/-! ## Signs -/

/-- The integer in decimal, with a minus sign if it is negative. -/
def signedNumeral (v : Int) : Text :=
  if v < 0 then '-' :: numeral v.natAbs else numeral v.natAbs

/-- The text without a minus sign in front. -/
def dropSign : Text → Text
  | '-' :: s => s
  | s => s

/-- The text is a numeral of the integer, with one minus sign in front or none. -/
inductive DenotesInt : Text → Int → Prop
  | plain {s : Text} {n : Nat} (h : Denotes s n) : DenotesInt s n
  | minus {s : Text} {n : Nat} (h : Denotes s n) : DenotesInt ('-' :: s) (-n)

/-- What an integer is written as denotes it. -/
theorem denotesInt_signedNumeral (v : Int) : DenotesInt (signedNumeral v) v := by
  rw [signedNumeral]
  split
  case isTrue hv =>
    have habs : v = -(v.natAbs : Int) := by omega
    conv_rhs => rw [habs]
    exact .minus (denotes_numeral _)
  case isFalse hv =>
    have habs : v = (v.natAbs : Int) := by omega
    conv_rhs => rw [habs]
    exact .plain (denotes_numeral _)

/-- A text without its sign is the text itself, or the text had a sign. -/
theorem dropSign_cases (s : Text) : dropSign s = s ∨ ∃ t, s = '-' :: t := by
  rw [dropSign.eq_def]
  split
  case h_1 t => exact .inr ⟨t, rfl⟩
  case h_2 => exact .inl rfl

/-- Where the digits behind the sign are a numeral, the text denotes an integer. -/
theorem exists_denotesInt (h : Denotes (dropSign s) n) : ∃ v, DenotesInt s v := by
  rcases dropSign_cases s with hplain | ⟨t, rfl⟩
  · exact ⟨_, .plain (hplain ▸ h)⟩
  · exact ⟨_, .minus h⟩

theorem dropSign_of_isNumeral (h : isNumeral s = true) : dropSign s = s := by
  rw [dropSign.eq_def]
  split
  case h_1 s =>
    have hsign : ('-' : Char).isDigit = true := (isNumeral_iff.1 h).2 '-' List.mem_cons_self
    cases hsign
  case h_2 => rfl

end Text

end StylusSurvey
