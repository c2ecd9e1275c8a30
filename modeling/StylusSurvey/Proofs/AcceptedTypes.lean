import StylusSurvey.Proofs.InterfaceTypes
import StylusSurvey.Proofs.TypeNames

/-!
# Type names that are accepted

The width of an integer type and the size of a byte string type are read as any other size is,
and a size may have zeros in front and a plus sign in front of these (`size?_eq_some_iff`). So the
encoder accepts the names of the elementary types, the same names with such padding
(`PaddedName`), and nothing else (`ofName?_eq_some_iff`). No padded name is the name of a type
(`PaddedName.not_names`).
-/

namespace StylusSurvey

namespace Abi

namespace ElementaryType

open Text

variable {e e' : ElementaryType} {s padding : Text} {n bits size : Nat}

/-! ## Sizes -/

/-- What may stand in front of the numeral of a size: a plus sign, zeros, or both. -/
def IsPadding (padding : Text) : Prop :=
  padding ≠ [] ∧ ∃ zeros, padding = List.replicate zeros '0' ∨
    padding = '+' :: List.replicate zeros '0'

/-- The text is the numeral of the number, with padding in front or none. -/
def IsSize (s : Text) (n : Nat) : Prop :=
  s = numeral n ∨ ∃ padding, IsPadding padding ∧ s = padding ++ numeral n

/-- A size is a numeral with any number of zeros in front, and one plus sign or none before it. -/
theorem isSize_iff : IsSize s n ↔ Denotes s n ∨ ∃ t, s = '+' :: t ∧ Denotes t n := by
  constructor
  · rintro (rfl | ⟨padding, ⟨-, zeros, rfl | rfl⟩, rfl⟩)
    · exact .inl (denotes_numeral n)
    · exact .inl ⟨zeros, rfl⟩
    · exact .inr ⟨_, rfl, zeros, rfl⟩
  · rintro (⟨zeros, rfl⟩ | ⟨_, rfl, zeros, rfl⟩)
    · cases zeros with
      | zero => exact .inl rfl
      | succ zeros => exact .inr ⟨_, ⟨List.cons_ne_nil _ _, zeros + 1, .inl rfl⟩, rfl⟩
    · exact .inr ⟨_, ⟨List.cons_ne_nil _ _, zeros, .inr rfl⟩, rfl⟩

theorem plus_not_denotes (t : Text) : ¬ Denotes ('+' :: t) n := by
  intro h
  have hplus : ('+' : Char).isDigit = true := (isNumeral_iff.1 h.isNumeral).2 '+' (by simp)
  cases hplus

/-- What is read as a size is a size in digits, perhaps behind a plus sign, of at most 64 bits. -/
theorem size?_eq_some_iff : size? s = some n ↔ IsSize s n ∧ n ≤ maxSize := by
  rw [isSize_iff, size?.eq_def]
  split
  case h_1 t =>
    rw [Option.filter_eq_some_iff, ofNumeral?_eq_some_iff, decide_eq_true_eq]
    simp [plus_not_denotes]
  case h_2 hplus =>
    rw [Option.filter_eq_some_iff, ofNumeral?_eq_some_iff, decide_eq_true_eq]
    have hnone : ¬ ∃ t, s = '+' :: t ∧ Denotes t n := by
      rintro ⟨t, ht, -⟩
      exact hplus t ht
    rw [or_iff_left hnone]

theorem not_isSize_nil : ¬ IsSize [] n := by
  have hne : numeral n ≠ [] := (isNumeral_iff.1 (isNumeral_numeral n)).1
  rintro (h | ⟨padding, -, h⟩)
  · exact hne h.symm
  · exact hne (List.append_eq_nil_iff.1 h.symm).2

/-- The number of bits behind the name of an integer type is left out or is a multiple of eight up
to 256. -/
theorem bitsOf?_eq_some_iff : bitsOf? s = some bits ↔
    (s = [] ∧ bits = 256) ∨ IsSize s bits ∧ 8 ≤ bits ∧ bits ≤ 256 ∧ bits % 8 = 0 := by
  unfold bitsOf?
  split
  case isTrue hnil =>
    subst hnil
    simp [not_isSize_nil, eq_comm]
  case isFalse hne =>
    rw [Option.filter_eq_some_iff, size?_eq_some_iff, decide_eq_true_eq]
    have hmax : 256 ≤ maxSize := by decide
    constructor
    · rintro ⟨⟨hs, -⟩, hbits⟩
      exact .inr ⟨hs, hbits⟩
    · rintro (⟨hnil, -⟩ | ⟨hs, hbits⟩)
      · exact absurd hnil hne
      · exact ⟨⟨hs, by omega⟩, hbits⟩

/-- The number of bytes behind the name of a byte string type is one up to the size of a word. -/
theorem byteSizeOf?_eq_some_iff :
    byteSizeOf? s = some size ↔ IsSize s size ∧ 1 ≤ size ∧ size ≤ wordSize := by
  unfold byteSizeOf?
  rw [Option.filter_eq_some_iff, size?_eq_some_iff, decide_eq_true_eq]
  have hmax : wordSize ≤ maxSize := by decide
  constructor
  · rintro ⟨⟨hs, -⟩, hsize⟩
    exact ⟨hs, hsize⟩
  · rintro ⟨hs, hsize⟩
    exact ⟨⟨hs, by omega⟩, hsize⟩

/-! ## Names with padding -/

/-- The text is the name of the type, but with padding ahead of its bits or bytes. -/
inductive PaddedName : Text → ElementaryType → Prop
  | uint {padding : Text} (bits : Nat) (h : IsPadding padding) :
      PaddedName ("uint" ++ (padding ++ numeral bits)) (.uint bits)
  | int {padding : Text} (bits : Nat) (h : IsPadding padding) :
      PaddedName ("int" ++ (padding ++ numeral bits)) (.int bits)
  | fixedBytes {padding : Text} (size : Nat) (h : IsPadding padding) :
      PaddedName ("bytes" ++ (padding ++ numeral size)) (.fixedBytes size)

/-- A numeral does not begin with padding. -/
theorem numeral_ne_padding_append (h : IsPadding padding) (n m : Nat) :
    numeral n ≠ padding ++ numeral m := by
  intro heq
  obtain ⟨hne, zeros, rfl | rfl⟩ := h
  · cases zeros with
    | zero => exact hne rfl
    | succ zeros =>
      -- Only zero begins with a zero, and nothing follows it there.
      obtain ⟨c, t, hnumeral, hzero⟩ := exists_numeral_eq_cons n
      have hcons : c :: t = '0' :: (List.replicate zeros '0' ++ numeral m) := hnumeral ▸ heq
      obtain ⟨rfl, rfl⟩ := List.cons.inj hcons
      have hm : numeral m ≠ [] := (isNumeral_iff.1 (isNumeral_numeral m)).1
      exact hm (List.append_eq_nil_iff.1 (hzero rfl).2).2
  · have hplus : '+' ∉ numeral n := not_mem_numeral rfl n
    exact hplus (by simp [heq])

/-- A type has its own name, and two of them also have a short one. -/
theorem names_iff : Names s e ↔
    s = e.name ∨ (s = "uint" ∧ e = .uint 256) ∨ (s = "int" ∧ e = .int 256) := by
  constructor
  · rintro (_ | _ | _)
    · exact .inl rfl
    · exact .inr (.inl ⟨rfl, rfl⟩)
    · exact .inr (.inr ⟨rfl, rfl⟩)
  · rintro (rfl | ⟨rfl, rfl⟩ | ⟨rfl, rfl⟩)
    · exact .full e
    · exact .bareUint
    · exact .bareInt

theorem ofName?_of_padded (h : PaddedName s e) (he : e.WellFormed) : ofName? s = some e := by
  cases h with
  | uint bits hpadding =>
    have hbits := bitsOf?_eq_some_iff.2 (.inr ⟨.inr ⟨_, hpadding, rfl⟩, he⟩)
    rw [ofName?_uint_append, hbits, Option.map_some]
  | int bits hpadding =>
    have hbits := bitsOf?_eq_some_iff.2 (.inr ⟨.inr ⟨_, hpadding, rfl⟩, he⟩)
    rw [ofName?_int_append, hbits, Option.map_some]
  | fixedBytes size hpadding =>
    have hsize := byteSizeOf?_eq_some_iff.2 ⟨.inr ⟨_, hpadding, rfl⟩, he⟩
    have hne := List.append_ne_nil_of_left_ne_nil hpadding.1 (numeral size)
    rw [ofName?_bytes_append hne, hsize, Option.map_some]

/-- A padded name is not the name of any type. -/
theorem PaddedName.not_names (h : PaddedName s e) (he : e.WellFormed) (he' : e'.WellFormed) :
    ¬ Names s e' := by
  intro hname
  obtain rfl : e' = e :=
    Option.some.inj ((ofName?_of_names hname he').symm.trans (ofName?_of_padded h he))
  have hne {padding : Text} (hpadding : IsPadding padding) (n : Nat) : padding ++ numeral n ≠ [] :=
    List.append_ne_nil_of_left_ne_nil hpadding.1 _
  rw [names_iff] at hname
  cases h with
  | uint bits hpadding =>
    rcases hname with hfull | ⟨hbare, -⟩ | ⟨-, hint⟩
    · exact numeral_ne_padding_append hpadding bits bits (List.append_cancel_left hfull).symm
    · exact hne hpadding bits (List.append_right_eq_self.1 hbare)
    · cases hint
  | int bits hpadding =>
    rcases hname with hfull | ⟨-, huint⟩ | ⟨hbare, -⟩
    · exact numeral_ne_padding_append hpadding bits bits (List.append_cancel_left hfull).symm
    · cases huint
    · exact hne hpadding bits (List.append_right_eq_self.1 hbare)
  | fixedBytes size hpadding =>
    rcases hname with hfull | ⟨-, huint⟩ | ⟨-, hint⟩
    · exact numeral_ne_padding_append hpadding size size (List.append_cancel_left hfull).symm
    · cases huint
    · cases hint

/-! ## Everything that is accepted -/

/-- An accepted name is a key word alone, or a key word with what is read as its bits or bytes. -/
theorem ofName?_cases (h : ofName? s = some e) :
    s = e.name ∨
      (∃ suffix bits, s = "uint" ++ suffix ∧ bitsOf? suffix = some bits ∧ e = .uint bits) ∨
      (∃ suffix bits, s = "int" ++ suffix ∧ bitsOf? suffix = some bits ∧ e = .int bits) ∨
      ∃ suffix size, s = "bytes" ++ suffix ∧ byteSizeOf? suffix = some size ∧
        e = .fixedBytes size := by
  unfold ofName? at h
  split_ifs at h with hstring haddress hbool hbytes
  · exact .inl (by rw [hstring, ← Option.some.inj h]; rfl)
  · exact .inl (by rw [haddress, ← Option.some.inj h]; rfl)
  · exact .inl (by rw [hbool, ← Option.some.inj h]; rfl)
  · exact .inl (by rw [hbytes, ← Option.some.inj h]; rfl)
  · split at h
    case h_1 suffix hkey =>
      obtain ⟨bits, hbits, rfl⟩ := Option.map_eq_some_iff.1 h
      exact .inr (.inl ⟨suffix, bits, after?_eq_some_iff.1 hkey, hbits, rfl⟩)
    case h_2 suffix hkey _ =>
      obtain ⟨bits, hbits, rfl⟩ := Option.map_eq_some_iff.1 h
      exact .inr (.inr (.inl ⟨suffix, bits, after?_eq_some_iff.1 hkey, hbits, rfl⟩))
    case h_3 suffix hkey _ _ =>
      obtain ⟨size, hsize, rfl⟩ := Option.map_eq_some_iff.1 h
      exact .inr (.inr (.inr ⟨suffix, size, after?_eq_some_iff.1 hkey, hsize, rfl⟩))
    case h_4 => cases h

/-- A text that is taken for a type is a name of it, or a name whose size is written in another way.
-/
theorem names_or_padded (h : ofName? s = some e) : Names s e ∨ PaddedName s e := by
  rcases ofName?_cases h with rfl | ⟨suffix, bits, rfl, hbits, rfl⟩ |
    ⟨suffix, bits, rfl, hbits, rfl⟩ | ⟨suffix, size, rfl, hsize, rfl⟩
  · exact .inl (.full e)
  · rcases bitsOf?_eq_some_iff.1 hbits with ⟨rfl, rfl⟩ | ⟨rfl | ⟨padding, hpadding, rfl⟩, -⟩
    · exact .inl .bareUint
    · exact .inl (.full (.uint bits))
    · exact .inr (.uint bits hpadding)
  · rcases bitsOf?_eq_some_iff.1 hbits with ⟨rfl, rfl⟩ | ⟨rfl | ⟨padding, hpadding, rfl⟩, -⟩
    · exact .inl .bareInt
    · exact .inl (.full (.int bits))
    · exact .inr (.int bits hpadding)
  · rcases byteSizeOf?_eq_some_iff.1 hsize with ⟨rfl | ⟨padding, hpadding, rfl⟩, -⟩
    · exact .inl (.full (.fixedBytes size))
    · exact .inr (.fixedBytes size hpadding)

/-- What is read as a type is a name of it, with padding or without. -/
theorem ofName?_eq_some_iff :
    ofName? s = some e ↔ e.WellFormed ∧ (Names s e ∨ PaddedName s e) := by
  constructor
  · exact fun h => ⟨wellFormed_of_ofName? h, names_or_padded h⟩
  · rintro ⟨he, hname | hpadded⟩
    · exact ofName?_of_names hname he
    · exact ofName?_of_padded hpadded he

end ElementaryType

open ElementaryType Text

/-- Whatever the value, a type is refused exactly if its name is that of no elementary type, be it
with padding or without. -/
theorem parse_refuses_type_iff (type value name : Text) :
    Token.parse type value = .error (.unsupportedType name) ↔
      name = trim type ∧ ∀ e : ElementaryType, e.WellFormed →
        ¬ Names (trim type) e ∧ ¬ PaddedName (trim type) e := by
  rw [parse_eq_unsupportedType_iff, and_comm, Option.eq_none_iff_forall_ne_some]
  refine and_congr_right fun _ => forall_congr' fun e => ?_
  rw [ne_eq, ofName?_eq_some_iff, not_and, not_or]

/-- Widths and sizes with a zero or a plus sign in front are accepted, and no type has such a
name. -/
theorem padded_names_accepted :
    Token.parse "uint008" "7" = .ok (.uint 7) ∧
      Token.parse "bytes+2" "0x01ff" = .ok (.fixedBytes [1, 255]) ∧
      ∀ e : ElementaryType, e.WellFormed → ¬ Names "uint008" e ∧ ¬ Names "bytes+2" e := by
  have hzeros : PaddedName "uint008" (.uint 8) :=
    @PaddedName.uint "00" 8 ⟨by decide, 2, .inl rfl⟩
  have hplus : PaddedName "bytes+2" (.fixedBytes 2) :=
    @PaddedName.fixedBytes "+" 2 ⟨by decide, 0, .inr rfl⟩
  refine ⟨by decide +kernel, by decide +kernel, fun e he => ?_⟩
  have hbits : (ElementaryType.uint 8).WellFormed := ⟨by decide, by decide, by decide⟩
  have hsize : (ElementaryType.fixedBytes 2).WellFormed := ⟨by decide, by decide⟩
  exact ⟨hzeros.not_names hbits he, hplus.not_names hsize he⟩

end Abi

end StylusSurvey
