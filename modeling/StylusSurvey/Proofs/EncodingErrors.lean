import StylusSurvey.Proofs.Decoding
import StylusSurvey.Proofs.Numerals

/-!
# Errors of encoding

Arguments are read from left to right, and the first one that cannot be read gives the error of
them all (`FirstError`, `parseArgs_eq_error_iff`). Its error names the type, and gives the value as
it was written but for the blanks around it (`refuses_of_ofType`). One value is given otherwise: the
digits of a signed integer are read behind its minus sign, and where they are no numeral or one of a
number that does not fit in a word, the error gives what follows the sign (`LosesSign`).
-/

namespace StylusSurvey

namespace Abi

open Text

variable {type raw value digits : Text} {t : ElementaryType} {e e' : EncodeError} {n : Nat}
  {arg : Text × Text} {args : List (Text × Text)}

section Except

variable {α β : Type}

theorem bind_eq_error_iff {x : Except EncodeError α} {f : α → Except EncodeError β} :
    (x >>= f) = .error e ↔ x = .error e ∨ ∃ a, x = .ok a ∧ f a = .error e := by
  cases x <;> simp [bind, Except.bind]

theorem eq_of_ite_eq_error {p : Prop} [Decidable p] {a : α}
    (h : (if p then .ok a else .error e') = Except.error e) : e' = e := by
  split at h
  · cases h
  · exact Except.error.inj h

theorem not_exists_pure {x : Except EncodeError α} {f : α → β} :
    ¬∃ a, x = .ok a ∧ (pure (f a) : Except EncodeError β) = .error e := by
  rintro ⟨a, -, h⟩
  cases h

end Except

/-! ## Refused values -/

/-- The error is about the value of the named type. -/
def Refuses (type value : Text) (e : EncodeError) : Prop :=
  e = .invalidValue type value ∨ e = .outOfRange type value

/-- The type is one of signed integers, and the value has a minus sign, but behind it no numeral of
a number that fits in a word. -/
def LosesSign (t : ElementaryType) (raw : Text) : Prop :=
  (∃ bits, t = .int bits) ∧ ∃ digits, trim raw = '-' :: digits ∧ ∀ n, Denotes digits n → 2 ^ 256 ≤ n

/-- The value is what an error gives in place of what was to be read as one of the type. -/
inductive Reports (t : ElementaryType) (raw value : Text) : Prop
  | whole (hsign : ¬LosesSign t raw) (h : trim value = trim raw)
  | unsigned (hsign : LosesSign t raw) (h : trim raw = '-' :: value)

/-- For a type of no signed integers the value may be reported as it was written. -/
theorem reports_self (ht : ∀ bits, t ≠ .int bits) : Reports t raw raw :=
  .whole (fun ⟨⟨bits, h⟩, _⟩ => ht bits h) rfl

theorem reports_trim (hsign : ¬LosesSign t raw) : Reports t raw (trim raw) :=
  .whole hsign (trim_trim raw)

/-- Digits are read as the number that they denote, if it fits in a word. -/
theorem decimal_eq_ok_iff : Token.decimal type digits = .ok n ↔ Denotes digits n ∧ n < 2 ^ 256 := by
  rw [← ofNumeral?_eq_some_iff, Token.decimal]
  cases ofNumeral? digits with
  | none => simp
  | some m =>
    by_cases hm : m < Nat.pow 2 256
    · simp only [hm, if_true, Except.ok.injEq, Option.some.injEq]
      exact ⟨fun h => ⟨h, h ▸ hm⟩, fun h => h.1⟩
    · simp only [hm, if_false, Option.some.injEq]
      exact iff_of_false nofun fun ⟨h, hn⟩ => hm (h ▸ hn)

theorem refuses_of_decimal (h : Token.decimal type digits = .error e) :
    Refuses type digits e ∧ ∀ n, Denotes digits n → 2 ^ 256 ≤ n := by
  constructor
  · rw [Token.decimal] at h
    split at h
    · exact .inl (Except.error.inj h).symm
    · exact .inr (eq_of_ite_eq_error h).symm
  · intro n hn
    by_contra hlt
    rw [decimal_eq_ok_iff.2 ⟨hn, Nat.lt_of_not_le hlt⟩] at h
    cases h

/-- A value is refused if it is not made of hexadecimal digits. -/
theorem refuses_of_parseHex (h : Token.parseHex type raw = .error e) : Refuses type raw e := by
  rw [Token.parseHex] at h
  split at h
  · cases h
  · exact .inl (Except.error.inj h).symm

/-- A signed value is refused, and reported but for its sign. -/
theorem refuses_of_parseInt {bits : Nat} (h : Token.parseInt type bits (trim raw) = .error e) :
    ∃ value, Refuses type value e ∧ Reports (.int bits) raw value := by
  rw [Token.parseInt.eq_def] at h
  split at h
  case h_1 digits htrim =>
    rcases bind_eq_error_iff.1 h with h | ⟨n, hn, h⟩
    · obtain ⟨hrefuses, hdigits⟩ := refuses_of_decimal h
      exact ⟨digits, hrefuses, .unsigned ⟨⟨bits, rfl⟩, digits, htrim, hdigits⟩ htrim⟩
    · -- The magnitude is a number that fits in a word, so the sign is kept.
      obtain ⟨hn, hlt⟩ := decimal_eq_ok_iff.1 hn
      refine ⟨trim raw, .inr (eq_of_ite_eq_error h).symm, reports_trim ?_⟩
      rintro ⟨-, digits', htrim', hdigits'⟩
      obtain ⟨-, rfl⟩ := List.cons.inj (htrim.symm.trans htrim')
      exact absurd hlt (Nat.not_lt.2 (hdigits' n hn))
  case h_2 hplain =>
    have hsign : ¬LosesSign (.int bits) raw := by
      rintro ⟨-, digits, htrim, -⟩
      exact hplain digits htrim
    rcases bind_eq_error_iff.1 h with h | ⟨n, -, h⟩
    · exact ⟨trim raw, (refuses_of_decimal h).1, reports_trim hsign⟩
    · exact ⟨trim raw, .inr (eq_of_ite_eq_error h).symm, reports_trim hsign⟩

/-- Once the type is known, what is refused is the value. -/
theorem refuses_of_ofType (h : Token.ofType t type raw = .error e) :
    ∃ value, Refuses type value e ∧ Reports t raw value := by
  cases t with
  | string => cases h
  | bool =>
    simp only [Token.ofType] at h
    split_ifs at h
    exact ⟨raw, .inl (Except.error.inj h).symm, reports_self (by simp)⟩
  | bytes =>
    rcases bind_eq_error_iff.1 h with h | ⟨bs, -, h⟩
    · exact ⟨raw, refuses_of_parseHex h, reports_self (by simp)⟩
    · cases h
  | address =>
    rcases bind_eq_error_iff.1 h with h | ⟨bs, -, h⟩
    · exact ⟨raw, refuses_of_parseHex h, reports_self (by simp)⟩
    · split at h
      · cases h
      · exact ⟨raw, .inl (Except.error.inj h).symm, reports_self (by simp)⟩
  | fixedBytes size =>
    rcases bind_eq_error_iff.1 h with h | ⟨bs, -, h⟩
    · exact ⟨raw, refuses_of_parseHex h, reports_self (by simp)⟩
    · exact ⟨raw, .inl (eq_of_ite_eq_error h).symm, reports_self (by simp)⟩
  | uint bits =>
    have hsign : ¬LosesSign (.uint bits) raw := by
      rintro ⟨⟨_, hint⟩, -⟩
      cases hint
    rcases bind_eq_error_iff.1 h with h | ⟨n, -, h⟩
    · exact ⟨trim raw, (refuses_of_decimal h).1, reports_trim hsign⟩
    · exact ⟨trim raw, .inr (eq_of_ite_eq_error h).symm, reports_trim hsign⟩
  | int bits => exact refuses_of_parseInt h

/-- A value cannot be read because its type is not known, or because of the value. -/
theorem parse_eq_error (h : Token.parse type raw = .error e) :
    e = .unsupportedType (trim type) ∨ ∃ t value, ElementaryType.ofName? (trim type) = some t ∧
      Refuses (trim type) value e ∧ Reports t raw value := by
  rw [Token.parse] at h
  split at h
  case h_1 t ht =>
    obtain ⟨value, hrefuses, hreports⟩ := refuses_of_ofType h
    exact .inr ⟨t, value, ht, hrefuses, hreports⟩
  case h_2 => exact .inl (Except.error.inj h).symm

/-- An error gives the value as it was written exactly if it does not lose the sign. -/
theorem Reports.trim_eq_iff (h : Reports t raw value) :
    (trim value = trim raw ↔ ¬LosesSign t raw) ∧ (LosesSign t raw → trim raw = '-' :: value) := by
  cases h with
  | whole hsign h => exact ⟨iff_of_true h hsign, fun hlost => absurd hlost hsign⟩
  | unsigned hsign h =>
    refine ⟨iff_of_false (fun heq => ?_) (not_not_intro hsign), fun _ => h⟩
    -- What follows the sign is shorter than the value with the sign.
    have hlen : (trim value).length ≤ value.length := by
      obtain ⟨b, b', -, -, hvalue⟩ := exists_blanks_append_trim value
      conv_rhs => rw [hvalue]
      simp only [List.length_append]
      omega
    rw [heq, h, List.length_cons] at hlen
    omega

/-- An error tells the type and the value that it refuses. -/
theorem Refuses.eq {subject value' : Text} (h : Refuses type value e)
    (h' : Refuses subject value' e) : subject = type ∧ value' = value := by
  rcases h with rfl | rfl <;> simpa [Refuses, eq_comm] using h'

/-! ## The first error -/

/-- The error is that of the first argument that cannot be read. -/
def FirstError (args : List (Text × Text)) (e : EncodeError) : Prop :=
  ∃ before type value after, args = before ++ (type, value) :: after ∧
    (∀ arg ∈ before, ∃ t, Token.parse arg.1 arg.2 = .ok t) ∧ Token.parse type value = .error e

theorem not_firstError_nil : ¬FirstError [] e := by
  rintro ⟨before, type, value, after, h, -⟩
  exact List.append_ne_nil_of_right_ne_nil before (List.cons_ne_nil _ _) h.symm

/-- The first error is that of the first argument, or else of the first among the others. -/
theorem firstError_cons_iff : FirstError (arg :: args) e ↔
    Token.parse arg.1 arg.2 = .error e ∨
      ∃ t, Token.parse arg.1 arg.2 = .ok t ∧ FirstError args e := by
  constructor
  · rintro ⟨before, type, value, after, h, hbefore, herror⟩
    cases before with
    | nil =>
      obtain ⟨rfl, rfl⟩ := List.cons.inj h
      exact .inl herror
    | cons first before =>
      obtain ⟨rfl, rfl⟩ := List.cons.inj h
      obtain ⟨⟨t, ht⟩, hbefore⟩ := List.forall_mem_cons.1 hbefore
      exact .inr ⟨t, ht, before, type, value, after, rfl, hbefore, herror⟩
  · rintro (herror | ⟨t, ht, before, type, value, after, rfl, hbefore, herror⟩)
    · exact ⟨[], arg.1, arg.2, args, rfl, by simp, herror⟩
    · exact ⟨arg :: before, type, value, after, rfl, List.forall_mem_cons.2 ⟨⟨t, ht⟩, hbefore⟩,
        herror⟩

/-- Parsing arguments fails with the first error among them. -/
theorem parseArgs_eq_error_iff : parseArgs args = .error e ↔ FirstError args e := by
  induction args with
  | nil => exact iff_of_false (fun h => by cases h) not_firstError_nil
  | cons arg args ih =>
    rw [firstError_cons_iff, ← ih, parseArgs, bind_eq_error_iff]
    refine or_congr_right (exists_congr fun t => and_congr_right fun _ => ?_)
    rw [bind_eq_error_iff]
    exact or_iff_left not_exists_pure

/-- Parsing arguments fails exactly if one of them is refused. -/
theorem exists_parseArgs_eq_error_iff : (∃ e, parseArgs args = .error e) ↔
    ∃ arg ∈ args, ∃ e, Token.parse arg.1 arg.2 = .error e := by
  induction args with
  | nil => simp [parseArgs_eq_error_iff, not_firstError_nil]
  | cons arg args ih =>
    simp only [parseArgs_eq_error_iff] at ih
    simp only [parseArgs_eq_error_iff, firstError_cons_iff, List.exists_mem_cons_iff, ← ih]
    cases Token.parse arg.1 arg.2 <;> simp

theorem encodeArgs_of_length_ne {types values : List Text} (h : types.length ≠ values.length) :
    encodeArgs types values = .error (.arityMismatch types.length values.length) :=
  if_neg h

/-- With a value for each type, encoding fails as parsing does. -/
theorem encodeArgs_eq_error_iff {types values : List Text} (h : types.length = values.length) :
    encodeArgs types values = .error e ↔ parseArgs (types.zip values) = .error e := by
  rw [encodeArgs, if_pos h, bind_eq_error_iff]
  exact or_iff_left not_exists_pure

/-- No argument is at fault for a number of values that is wrong. -/
theorem parse_ne_arityMismatch (m n : Nat) :
    Token.parse type raw ≠ .error (.arityMismatch m n) := by
  intro h
  rcases parse_eq_error h with hunsupported | ⟨t, value, -, hinvalid | hrange, -⟩
  · cases hunsupported
  · cases hinvalid
  · cases hrange

/-- A mismatch is reported exactly where the numbers of types and values differ, with both of them.
-/
theorem encodeArgs_eq_arityMismatch_iff {types values : List Text} {m n : Nat} :
    encodeArgs types values = .error (.arityMismatch m n) ↔
      types.length ≠ values.length ∧ m = types.length ∧ n = values.length := by
  by_cases h : types.length = values.length
  · refine iff_of_false (fun herror => ?_) fun hne => hne.1 h
    rw [encodeArgs_eq_error_iff h, parseArgs_eq_error_iff] at herror
    obtain ⟨before, type, value, after, -, -, herror⟩ := herror
    exact parse_ne_arityMismatch m n herror
  · rw [encodeArgs_of_length_ne h, and_iff_right h]
    simp [eq_comm]

/-- Arguments that cannot be encoded are too many or too few, or the error is that of the first one
that cannot be read. An error about a value names the type, and gives the value as it was written
exactly if it does not lose the sign. -/
theorem encodeArgs_reports_input (types values : List Text) :
    (∀ m n, encodeArgs types values = .error (.arityMismatch m n) ↔
      types.length ≠ values.length ∧ m = types.length ∧ n = values.length) ∧
    (types.length = values.length →
      ((∃ e, encodeArgs types values = .error e) ↔
        ∃ arg ∈ types.zip values, ∃ e, Token.parse arg.1 arg.2 = .error e) ∧
      ∀ e, encodeArgs types values = .error e ↔ FirstError (types.zip values) e) ∧
    ∀ type raw e subject value, Token.parse type raw = .error e → Refuses subject value e →
      subject = trim type ∧ ∃ t, ElementaryType.ofName? (trim type) = some t ∧
        (trim value = trim raw ↔ ¬LosesSign t raw) ∧
        (LosesSign t raw → trim raw = '-' :: value) := by
  refine ⟨fun m n => encodeArgs_eq_arityMismatch_iff, fun h => ?_, ?_⟩
  · simp only [encodeArgs_eq_error_iff h]
    exact ⟨exists_parseArgs_eq_error_iff, fun e => parseArgs_eq_error_iff⟩
  · intro type raw e subject value h hsubject
    rcases parse_eq_error h with rfl | ⟨t, value', ht, hrefuses, hreports⟩
    · rcases hsubject with hinvalid | hrange
      · cases hinvalid
      · cases hrange
    · obtain ⟨rfl, rfl⟩ := hrefuses.eq hsubject
      exact ⟨rfl, t, ht, hreports.trim_eq_iff⟩

/-- Too many values, a value behind one that can be read and before one that cannot, and a number
outside its range with blanks around it. -/
theorem encodeArgs_reports_input_flags :
    encodeArgs ["uint256"] ["1", "2"] = .error (.arityMismatch 1 2) ∧
      encodeArgs ["uint8", "bool", "int8"] ["7", " yes", "-x"] =
        .error (.invalidValue "bool" " yes") ∧
      Token.parse "int8" " -129 " = .error (.outOfRange "int8" "-129") ∧
      ¬LosesSign (.int 8) " -129 " := by
  have harity := (encodeArgs_reports_input ["uint256"] ["1", "2"]).1 1 2
  have hfirst :=
    ((encodeArgs_reports_input ["uint8", "bool", "int8"] ["7", " yes", "-x"]).2.1 rfl).2
    (.invalidValue "bool" " yes")
  have hrange : Token.parse "int8" " -129 " = .error (.outOfRange "int8" "-129") := by
    decide
  refine ⟨harity.2 ⟨by decide, rfl, rfl⟩, hfirst.2 ?_, hrange, ?_⟩
  · have hread : ∃ t, Token.parse "uint8" "7" = .ok t := ⟨.uint 7, by decide⟩
    exact ⟨[("uint8", "7")], "bool", " yes", [("int8", "-x")], rfl, by simpa using hread,
      by decide⟩
  · obtain ⟨-, t, ht, hsign, -⟩ := (encodeArgs_reports_input [] []).2.2 "int8" " -129 " _ "int8"
      "-129" hrange (.inr rfl)
    have hint : ElementaryType.ofName? (trim "int8") = some (.int 8) := by decide
    obtain rfl : t = .int 8 := Option.some.inj (ht.symm.trans hint)
    exact hsign.1 (by decide)

/-- A value that is no number, and one that does not fit in a word, are reported without their
sign, though the sign of a smaller number outside the range is kept. -/
theorem sign_lost :
    Token.parse "int8" "-x" = .error (.invalidValue "int8" "x") ∧ trim "x" ≠ trim "-x" ∧
      Token.parse "int8" ("-" ++ numeral (2 ^ 256)) =
        .error (.outOfRange "int8" (numeral (2 ^ 256))) ∧
      Token.parse "int8" "-129" = .error (.outOfRange "int8" "-129") := by
  decide +kernel

end Abi

end StylusSurvey
