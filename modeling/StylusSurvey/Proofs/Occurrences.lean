import StylusSurvey.Audit.Pattern
import StylusSurvey.Proofs.Texts

/-!
# Occurrences of a pattern

`Matcher.rests` goes on behind an occurrence that it has found, so it may pass over another one
that begins inside. Where no occurrence begins inside another (`Matcher.Separate`) it finds all of
them, whatever precedes them (`Matcher.mem_rests_iff`). A key at the beginning of a word, with
blanks and another key behind it, is such a pattern if the first character of the key comes in
neither of the two again (`Matcher.separate_thenKey_wordStart`). So a vector type is reported
exactly if the text has one, anywhere, that is no byte vector
(`InkPattern.fires_vectorInStorage_iff`).
-/

namespace StylusSurvey

open Text

namespace Matcher

variable {m : Matcher} {before : Option Char} {s t rest : Text} {skip : Nat}

/-- The pattern stands somewhere in the text, and `rest` follows it. -/
def OccursBefore (m : Matcher) (s rest : Text) : Prop :=
  ∃ front t : Text, s = front ++ t ∧ m front.getLast? t = some rest

/-- No occurrence begins inside another one. Each takes at least a character, and at none of the
places behind its first character and before its end does the pattern stand. -/
structure Separate (m : Matcher) : Prop where
  takes : ∀ {before s rest}, m before s = some rest → ∃ c taken, s = c :: (taken ++ rest)
  apart : ∀ {before c front t rest}, m before (c :: (front ++ (t ++ rest))) = some rest → t ≠ [] →
    ∀ before', m before' (t ++ rest) = none

/-- A place at the front of a text, or behind its first character. -/
theorem exists_place_cons_iff {P : Text → Text → Prop} {c : Char} :
    (∃ front t, c :: s = front ++ t ∧ P front t) ↔
      P [] (c :: s) ∨ ∃ front t, s = front ++ t ∧ P (c :: front) t := by
  constructor
  · rintro ⟨front, t, hs, hP⟩
    cases front with
    | nil =>
      obtain rfl : c :: s = t := hs
      exact .inl hP
    | cons d front =>
      obtain ⟨rfl, rfl⟩ := List.cons.inj hs
      exact .inr ⟨front, t, rfl, hP⟩
  · rintro (hP | ⟨front, t, rfl, hP⟩)
    · exact ⟨[], c :: s, rfl, hP⟩
    · exact ⟨c :: front, t, rfl, hP⟩

theorem getLast?_cons_or (c : Char) (front : Text) (before : Option Char) :
    (c :: front).getLast?.or before = front.getLast?.or (some c) := by
  cases front with
  | nil => rfl
  | cons d front => rw [List.getLast?_cons_cons, List.getLast?_cons, Option.some_or, Option.some_or]

/-- Of a pattern that is separate all occurrences are found that begin behind the characters to be
skipped. -/
theorem mem_restsFrom_iff (hm : m.Separate) : rest ∈ restsFrom m skip before s ↔
    ∃ front t : Text, s = front ++ t ∧ skip ≤ front.length ∧
      m (front.getLast?.or before) t = some rest := by
  induction s generalizing skip before with
  | nil =>
    have hnone (b : Option Char) : m b [] = none := by
      rw [Option.eq_none_iff_forall_ne_some]
      intro r hr
      obtain ⟨c, taken, h⟩ := hm.takes hr
      cases h
    constructor
    · intro h
      rw [restsFrom, hnone] at h
      split at h <;> cases h
    · rintro ⟨front, t, hs, -, h⟩
      obtain ⟨rfl, rfl⟩ := List.append_eq_nil_iff.1 hs.symm
      rw [hnone] at h
      cases h
  | cons c s ih =>
    rw [exists_place_cons_iff]
    simp only [getLast?_cons_or]
    cases skip with
    | succ skip =>
      rw [restsFrom, ih]
      simp
    | zero =>
      rw [restsFrom]
      cases hhere : m before (c :: s) with
      | none =>
        rw [ih]
        simp [hhere]
      | some r =>
        obtain ⟨d, taken, hs⟩ := hm.takes hhere
        obtain ⟨rfl, rfl⟩ := List.cons.inj hs
        have hlength : (taken ++ r).length - r.length = taken.length := by simp
        -- Where the occurrence at the front still lasts, no other one begins.
        have hinside {front t : Text} (hsplit : taken ++ r = front ++ t)
            (h : m (front.getLast?.or (some c)) t = some rest) : taken.length ≤ front.length := by
          by_contra hlt
          rcases List.append_eq_append_iff.1 hsplit with ⟨u, rfl, -⟩ | ⟨u, rfl, rfl⟩
          · simp at hlt
          · have hne : u ≠ [] := by
              rintro rfl
              simp at hlt
            rw [List.append_assoc] at hhere
            rw [hm.apart hhere hne] at h
            cases h
        rw [List.mem_cons, ih, hlength]
        simp only [Nat.zero_le, true_and, List.getLast?_nil, Option.none_or, hhere,
          Option.some.injEq, eq_comm (a := r)]
        refine or_congr_right ⟨?_, ?_⟩
        · rintro ⟨front, t, hsplit, -, h⟩
          exact ⟨front, t, hsplit, h⟩
        · rintro ⟨front, t, hsplit, h⟩
          exact ⟨front, t, hsplit, hinside hsplit h, h⟩

/-- Of a pattern that is separate all occurrences are found. -/
theorem mem_rests_iff (hm : m.Separate) : rest ∈ rests m s ↔ OccursBefore m s rest := by
  rw [rests, mem_restsFrom_iff hm]
  simp [OccursBefore]

/-! ## Two keys with blanks between them -/

section Keys

variable {k c : Char} {key key' : Text}

/-- A word can begin where no character of a word stands before. -/
theorem startsWord_iff : startsWord before = true ↔ ∀ d, before = some d → isWord d = false := by
  cases before <;> simp [startsWord]

/-- A key is matched from the beginning of a word. -/
theorem wordStart_eq_some_iff :
    wordStart key before s = some t ↔ startsWord before = true ∧ s = key ++ t := by
  rw [wordStart]
  split <;> simp [*, after?_eq_some_iff]

/-- Two keys are matched with nothing but blanks between them. -/
theorem thenKey_wordStart_eq_some_iff (hc : isBlank c = false) :
    thenKey (wordStart key) (c :: key') before s = some rest ↔
      startsWord before = true ∧ ∃ blanks : Text,
        s = key ++ (blanks ++ c :: (key' ++ rest)) ∧ ∀ d ∈ blanks, isBlank d = true := by
  rw [thenKey, Option.bind_eq_some_iff]
  simp only [wordStart_eq_some_iff, after?_trimStart_eq_some_iff hc]
  constructor
  · rintro ⟨t, ⟨hword, rfl⟩, blanks, rfl, hblanks⟩
    exact ⟨hword, blanks, rfl, hblanks⟩
  · rintro ⟨hword, blanks, rfl, hblanks⟩
    exact ⟨_, ⟨hword, rfl⟩, blanks, rfl, hblanks⟩

/-- The first character of the key begins an occurrence, and no other character in it does. -/
theorem separate_thenKey_wordStart (hk : isBlank k = false) (hc : isBlank c = false)
    (hkey : k ∉ key) (hkey' : k ∉ c :: key') :
    Separate (thenKey (wordStart (k :: key)) (c :: key')) where
  takes := by
    intro before s rest h
    obtain ⟨-, blanks, rfl, -⟩ := (thenKey_wordStart_eq_some_iff hc).1 h
    exact ⟨k, key ++ (blanks ++ c :: key'), by simp⟩
  apart := by
    intro before d front t rest h hne before'
    obtain ⟨-, blanks, hs, hblanks⟩ := (thenKey_wordStart_eq_some_iff hc).1 h
    have htaken : front ++ t = key ++ (blanks ++ c :: key') := by
      have htail : (front ++ t) ++ rest = (key ++ (blanks ++ c :: key')) ++ rest := by
        simpa using (List.cons.inj hs).2
      exact List.append_cancel_right htail
    have hnone : k ∉ front ++ t := by
      rw [htaken]
      exact List.not_mem_append hkey (List.not_mem_append (not_mem_of_blanks hblanks hk) hkey')
    rw [Option.eq_none_iff_forall_ne_some]
    intro rest' h'
    obtain ⟨-, blanks', hs', -⟩ := (thenKey_wordStart_eq_some_iff hc).1 h'
    obtain ⟨e, t, rfl⟩ := List.exists_cons_of_ne_nil hne
    obtain rfl : e = k := (List.cons.inj hs').1
    exact hnone (by simp)

end Keys

end Matcher

namespace InkPattern

/-! ## Vector types -/

/-- A vector of bytes ends with the type of bytes and the closing bracket, blanks before it or not.
-/
theorem closesByteVector_iff {s : Text} : closesByteVector s = true ↔
    ∃ blanks rest : Text, s = "u8" ++ blanks ++ '>' :: rest ∧ ∀ c ∈ blanks, isBlank c = true := by
  have hbracket : isBlank '>' = false := by decide
  have hstarts (t : Text) : startsWith ['>'] (trimStart t) = true ↔
      ∃ rest, after? ['>'] (trimStart t) = some rest := by
    rw [startsWith, List.isPrefixOf_iff_prefix]
    simp only [after?_eq_some_iff]
    exact exists_congr fun rest => eq_comm
  rw [closesByteVector]
  cases hu : after? "u8" s with
  | none =>
    constructor
    · intro h
      cases h
    · rintro ⟨blanks, rest, rfl, -⟩
      rw [List.append_assoc, after?_append] at hu
      cases hu
  | some t =>
    obtain rfl := after?_eq_some_iff.1 hu
    simp only [hstarts, after?_trimStart_eq_some_iff hbracket, List.nil_append, List.append_assoc,
      List.append_cancel_left_eq]
    exact exists_comm

/-- The trigger for vector types fires exactly if somewhere a word begins with `Vec`, with blanks
or none and an angle bracket behind it, and what follows the bracket does not go on as the element
type of a byte vector. -/
theorem fires_vectorInStorage_iff (line : Text) : vectorInStorage.trigger.fires line = true ↔
    ∃ before blanks rest : Text, line = before ++ "Vec" ++ blanks ++ '<' :: rest ∧
      (∀ c, before.getLast? = some c → isWord c = false) ∧ (∀ c ∈ blanks, isBlank c = true) ∧
      ¬∃ blanks' rest' : Text, rest = "u8" ++ blanks' ++ '>' :: rest' ∧
        ∀ c ∈ blanks', isBlank c = true := by
  have hbracket : isBlank '<' = false := by decide
  have hseparate : (Matcher.thenKey (Matcher.wordStart "Vec") ['<']).Separate := by
    have hkey : ("Vec" : Text) = 'V' :: ['e', 'c'] := by decide
    rw [hkey]
    exact Matcher.separate_thenKey_wordStart (by decide) hbracket (by decide) (by decide)
  have hfires : vectorInStorage.trigger.fires line = true ↔
      ∃ rest ∈ Matcher.rests (Matcher.thenKey (Matcher.wordStart "Vec") ['<']) line,
        ¬closesByteVector rest = true := by
    show ((Matcher.rests _ line).any fun rest => !closesByteVector rest) = true ↔ _
    simp only [List.any_eq_true, Bool.not_eq_eq_eq_not, Bool.not_true, Bool.not_eq_true]
  simp only [hfires, Matcher.mem_rests_iff hseparate, Matcher.OccursBefore,
    Matcher.thenKey_wordStart_eq_some_iff hbracket, Matcher.startsWord_iff, closesByteVector_iff,
    List.nil_append]
  constructor
  · rintro ⟨rest, ⟨before, t, rfl, hword, blanks, rfl, hblanks⟩, hopen⟩
    exact ⟨before, blanks, rest, by simp, hword, hblanks, hopen⟩
  · rintro ⟨before, blanks, rest, rfl, hword, hblanks, hopen⟩
    exact ⟨rest, ⟨before, "Vec" ++ (blanks ++ '<' :: rest), by simp, hword, blanks, rfl, hblanks⟩,
      hopen⟩

end InkPattern

end StylusSurvey
