import StylusSurvey.Json.Reader.Literal
import StylusSurvey.Json.Reader.Number
import StylusSurvey.Proofs.Bytes
import StylusSurvey.Proofs.Numerals

/-!
# Printed tokens read back

The tokens of JSON are read as they are printed. A string literal is read back whatever is
in it (`literalBody_flatMap_escapeChar`): each character is written in such a way that it
is read alone, a control character without a name by its code. A natural number of at most
64 bits is read back from its numeral if what follows can follow a printed value
(`number_numeral`). Space before a token does not count (`peekToken_bind`).
-/

namespace StylusSurvey

namespace Json

open Text

variable {α β : Type} {s t rest : Text} {c : Char} {n limit : Nat}

/-- The text can follow a printed value: nothing, a comma or the end of a line. -/
def Follows (rest : Text) : Prop :=
  ∀ c ∈ rest.head?, c = ',' ∨ c = '\n'

/-! ## Sequencing and space -/

namespace Reader

theorem bind_apply {r : Reader α} {k : α → Reader β} {a : α} (h : r s = .ok (a, t)) :
    (r >>= k) s = k a t := by
  simp [bind, StateT.bind, h, Except.bind]

theorem skip_bind {k : Unit → Reader β} : (skip >>= k) (c :: s) = k () s :=
  bind_apply rfl

/-- Space before a token is passed over. -/
theorem peekToken_bind {k : Option Char → Reader β} (h : s.dropWhile isSpace = c :: t) :
    (peekToken >>= k) s = k (some c) (c :: t) := by
  refine bind_apply (a := some c) ?_
  rw [← h]
  simp [peekToken, bind, StateT.bind, space, peek, Except.bind, h]

theorem ident_append (word rest : Text) : ident word (word ++ rest) = .ok ((), rest) := by
  induction word with
  | nil => rfl
  | cons k word ih =>
    rw [ident, List.cons_append, bind_apply (a := some k) rfl]
    simp only [if_pos]
    rw [skip_bind, ih]

/-- A word is read to its end, behind its first character. -/
theorem word_bind (word : Text) {k : Unit → Reader β} :
    (skip >>= fun _ => ident word >>= k) (c :: (word ++ s)) = k () s := by
  rw [skip_bind, bind_apply (ident_append word s)]

/-- The beginning of a printed line is space. -/
theorem dropWhile_newline (level : Nat) (s : Text) :
    (newline level ++ s).dropWhile isSpace = s.dropWhile isSpace := by
  refine List.dropWhile_append_of_pos fun c hc => ?_
  rcases List.mem_cons.1 hc with rfl | hc
  · rfl
  · rw [List.eq_of_mem_replicate hc]
    rfl

end Reader

/-! ## String literals -/

theorem literalBody_append (s t : Text) : literalBody s.length (s ++ t) = literalBody 0 t := by
  induction s with
  | nil => rfl
  | cons c s ih => rw [List.length_cons, List.cons_append, literalBody, ih]

/-- The characters of an escape are read together. -/
theorem literalBody_escape {e : Text} (h : escape (e ++ t) = .ok (c, e.length)) :
    literalBody 0 ('\\' :: (e ++ t)) = (literalBody 0 t).map fun p => (c :: p.1, p.2) := by
  have hquote : ('\\' : Char) ≠ '"' := by decide
  rw [literalBody, if_neg hquote, if_pos rfl, h]
  show (literalBody e.length (e ++ t) >>= fun p => pure (c :: p.1, p.2)) = _
  rw [literalBody_append]
  cases literalBody 0 t <;> rfl

/-- A character with a name of its own is read from it. -/
theorem escape_of_shortEscape? {e : Char} (h : shortEscape? e = some c) (t : Text) :
    escape (e :: t) = .ok (c, 1) := by
  rw [escape, h]

/-- A control character is read from its code. -/
theorem escape_escapeCode (h : c < ' ') (t : Text) :
    escape (['u', '0', '0', Nat.digitChar (c.toNat / 16), Nat.digitChar (c.toNat % 16)] ++ t) =
      .ok (c, 5) := by
  have hlt : c.toNat < 32 := h
  have hhigh := (hexDigit_mem_and_value (n := c.toNat / 16) (by omega)).2
  have hlow := (hexDigit_mem_and_value (n := c.toNat % 16) (by omega)).2
  have hzero : hexValue? '0' = some 0 := rfl
  have hfour : fourHex? ('0' :: '0' :: Nat.digitChar (c.toNat / 16) ::
      Nat.digitChar (c.toNat % 16) :: t) = some c.toNat := by
    rw [hexDigit] at hhigh hlow
    simp only [fourHex?, hzero, hhigh, hlow, Option.bind_eq_bind, Option.bind_some]
    exact congrArg some (by omega)
  have htrailing : isTrailing c.toNat = false := by
    rw [isTrailing, Bool.and_eq_false_iff]
    exact .inl (decide_eq_false (by omega))
  have hleading : isLeading c.toNat = false := by
    rw [isLeading, Bool.and_eq_false_iff]
    exact .inl (decide_eq_false (by omega))
  have hletter : shortEscape? 'u' = none := rfl
  simp only [List.cons_append, List.nil_append, escape, hletter, if_true, codeEscape, fourHex,
    hfour]
  simp only [bind, Except.bind, htrailing, hleading, Bool.false_eq_true, if_false]
  rw [Char.ofNat_toNat]
  rfl

/-- A character is printed as itself, or else escaped in such a way that it is read. -/
theorem escapeChar_cases (c : Char) :
    (escapeChar c = [c] ∧ c ≠ '"' ∧ c ≠ '\\' ∧ ¬c < ' ') ∨
      ∃ e, escapeChar c = '\\' :: e ∧ ∀ t, escape (e ++ t) = .ok (c, e.length) := by
  have hshort {e : Char} (h : shortEscape? e = some c) (hc : escapeChar c = ['\\', e]) :
      ∃ e, escapeChar c = '\\' :: e ∧ ∀ t, escape (e ++ t) = .ok (c, e.length) :=
    ⟨[e], hc, escape_of_shortEscape? h⟩
  by_cases hplain : c ∈ ['"', '\\', '\x08', '\t', '\n', '\x0c', '\r']
  · right
    simp only [List.mem_cons, List.not_mem_nil, or_false] at hplain
    rcases hplain with rfl | rfl | rfl | rfl | rfl | rfl | rfl
    · exact hshort (e := '"') rfl rfl
    · exact hshort (e := '\\') rfl rfl
    · exact hshort (e := 'b') rfl rfl
    · exact hshort (e := 't') rfl rfl
    · exact hshort (e := 'n') rfl rfl
    · exact hshort (e := 'f') rfl rfl
    · exact hshort (e := 'r') rfl rfl
  · simp only [List.mem_cons, List.not_mem_nil, or_false, not_or] at hplain
    obtain ⟨hquote, hslash, hb, ht, hn, hf, hr⟩ := hplain
    rw [escapeChar, if_neg hquote, if_neg hslash, if_neg hb, if_neg ht, if_neg hn, if_neg hf,
      if_neg hr]
    split
    case isTrue hlt => exact .inr ⟨_, rfl, escape_escapeCode hlt⟩
    case isFalse hge => exact .inl ⟨rfl, hquote, hslash, hge⟩

/-- A printed character is read, and then the rest of the literal. -/
theorem literalBody_escapeChar (c : Char) (t : Text) :
    literalBody 0 (escapeChar c ++ t) = (literalBody 0 t).map fun p => (c :: p.1, p.2) := by
  rcases escapeChar_cases c with ⟨hc, hquote, hslash, hge⟩ | ⟨e, hc, he⟩
  · rw [hc, List.singleton_append, literalBody, if_neg hquote, if_neg hslash, if_neg hge]
    cases literalBody 0 t <;> rfl
  · rw [hc, List.cons_append, literalBody_escape (he t)]

/-- A string is read back from its literal, behind the opening quote. -/
theorem literalBody_flatMap_escapeChar (s rest : Text) :
    literalBody 0 (s.flatMap escapeChar ++ '"' :: rest) = .ok (s, rest) := by
  induction s with
  | nil => rfl
  | cons c s ih =>
    rw [List.flatMap_cons, List.append_assoc, literalBody_escapeChar, ih]
    rfl

theorem stringText_append (s rest : Text) :
    stringText s ++ rest = '"' :: (s.flatMap escapeChar ++ '"' :: rest) := by
  simp [stringText]

/-! ## Numbers -/

/-- The numeral without the first digits `n` stands for at least what these stand for. -/
theorem le_foldl_digits (n : Nat) (s : Text) :
    n ≤ s.foldl (fun n c => 10 * n + digitValue c) n := by
  induction s generalizing n with
  | nil => exact Nat.le_refl n
  | cons c s ih => exact Nat.le_trans (by omega) (ih (10 * n + digitValue c))

/-- Digits whose number fits are gathered up to what follows them. -/
theorem gather_append (hs : ∀ c ∈ s, c.isDigit = true) (hrest : startsDigit rest = false)
    (hle : s.foldl (fun n c => 10 * n + digitValue c) n ≤ limit) :
    gather limit n (s ++ rest) = (s.foldl (fun n c => 10 * n + digitValue c) n, rest) := by
  induction s generalizing n with
  | nil =>
    cases rest with
    | nil => rfl
    | cons c rest =>
      have hc : c.isDigit = false := hrest
      simp [gather, hc]
  | cons c s ih =>
    obtain ⟨hc, hs⟩ := List.forall_mem_cons.1 hs
    rw [List.foldl_cons] at hle
    have hfits : 10 * n + digitValue c ≤ limit := Nat.le_trans (le_foldl_digits _ s) hle
    rw [List.cons_append, gather, if_pos (by simp [hc, hfits]), ih hs hle, List.foldl_cons]

theorem Follows.startsDigit_eq (h : Follows rest) : startsDigit rest = false := by
  cases rest with
  | nil => rfl
  | cons c rest =>
    rcases h c rfl with rfl | rfl
    · rfl
    · rfl

/-- The number ends with its whole part. -/
theorem afterWhole_of_follows (h : Follows rest) (positive : Bool) (n : Nat) :
    afterWhole positive n rest = .ok (integer positive n, rest) := by
  cases rest with
  | nil => rfl
  | cons c rest =>
    rcases h c rfl with rfl | rfl
    · rfl
    · rfl

/-- A number of at most 64 bits is read back from its numeral. -/
theorem number_numeral (hn : n ≤ maxSize) (h : Follows rest) :
    Reader.number (numeral n ++ rest) = .ok (.natural n, rest) := by
  obtain ⟨c, t, hnumeral, hzero⟩ := exists_numeral_eq_cons n
  have hdigits : ∀ d ∈ c :: t, d.isDigit = true :=
    fun d hd => isDigit_of_mem_numeral (hnumeral ▸ hd)
  have hc : c.isDigit = true := hdigits c List.mem_cons_self
  have hvalue : (c :: t).foldl (fun n c => 10 * n + digitValue c) 0 = n :=
    hnumeral ▸ valueOfDigits_numeral n
  have hbody : Reader.number (c :: (t ++ rest)) = numberBody true (c :: (t ++ rest)) := by
    rw [Reader.number.eq_def]
    split
    · rename_i heq
      obtain ⟨rfl, -⟩ := List.cons.inj heq
      exact absurd hc (by decide)
    · rfl
  rw [hnumeral, List.cons_append, hbody, numberBody]
  split
  case isTrue hc0 =>
    obtain ⟨rfl, rfl⟩ := hzero hc0
    rw [List.nil_append, h.startsDigit_eq, afterWhole_of_follows h]
    rfl
  case isFalse =>
    have hgather := gather_append hdigits h.startsDigit_eq (hvalue.symm ▸ hn)
    rw [hvalue, List.cons_append] at hgather
    rw [hgather]
    simp only [h.startsDigit_eq, Bool.false_eq_true, if_false, afterWhole_of_follows h]
    rfl

end Json

end StylusSurvey
