import Mathlib.Algebra.Order.Ring.Int
import Mathlib.Algebra.Order.GroupWithZero.Basic
import StylusSurvey.Proofs.Decoding

/-!
# Values of named types

A value that is read as one of a named type is a token of the shape of the type and lies in
its range (`exists_type_of_parse`): the number of a signed or unsigned integer fits in the
bits of the type, and fixed bytes are as many as the type has. So the decoder for a list of
named types, which reads tokens of their shapes and refuses those outside the range of
their type, gives back the values that were encoded (`decodeAs?_encode`).
-/

namespace StylusSurvey

namespace Abi

open Text

variable {e : ElementaryType} {t : Token} {type raw : Text} {ts : List Token}

/-! ## Ranges -/

/-- The token lies in the range of the type. -/
def ElementaryType.admits : ElementaryType → Token → Bool
  | uint bits, .uint value => decide (value.toNat < 2 ^ bits)
  | int bits, .int value =>
    decide (-2 ^ (bits - 1) ≤ value.toInt) && decide (value.toInt < 2 ^ (bits - 1))
  | fixedBytes size, .fixedBytes data => decide (data.length = size)
  | address, .address _ => true
  | bool, .bool _ => true
  | bytes, .bytes _ => true
  | string, .string _ => true
  | _, _ => false

/-- An integer that fits in some bits is kept by a word. -/
theorem toInt_ofInt_of_le {n : Nat} {m : Int} (hn : n ≤ 256) (hlow : -2 ^ (n - 1) ≤ m)
    (hhigh : m < 2 ^ (n - 1)) : (BitVec.ofInt 256 m).toInt = m := by
  have hpow : (2 : Int) ^ (n - 1) ≤ 2 ^ 255 := pow_le_pow_right₀ (by decide) (by omega)
  rw [BitVec.toInt_ofInt]
  apply Int.bmod_eq_of_le <;> omega

/-- A number of so many bits is a value of the type with them. -/
theorem admits_uint {bits n : Nat} (hn : n < 2 ^ 256) (hbits : n < 2 ^ bits) :
    (ElementaryType.uint bits).admits (.uint (BitVec.ofNat 256 n)) = true := by
  rw [ElementaryType.admits, decide_eq_true_eq, BitVec.toNat_ofNat, Nat.mod_eq_of_lt hn]
  exact hbits

theorem admits_int {bits : Nat} {m : Int} (hbits : bits ≤ 256) (hlow : -2 ^ (bits - 1) ≤ m)
    (hhigh : m < 2 ^ (bits - 1)) :
    (ElementaryType.int bits).admits (.int (BitVec.ofInt 256 m)) = true := by
  rw [ElementaryType.admits, toInt_ofInt_of_le hbits hlow hhigh]
  simp [hlow, hhigh]

theorem lt_of_decimal {digits : Text} {n : Nat} (h : Token.decimal type digits = .ok n) :
    n < 2 ^ 256 := by
  rw [Token.decimal] at h
  split at h
  · cases h
  · obtain ⟨hlt, rfl⟩ := of_ite_eq_ok h
    exact hlt

/-- What is read for a signed type is a value of it. -/
theorem admits_of_parseInt {bits : Nat} (hbits : bits ≤ 256)
    (h : Token.parseInt type bits raw = .ok t) : (ElementaryType.int bits).admits t = true := by
  have hpos : (0 : Int) < 2 ^ (bits - 1) := pow_pos (by decide) _
  rw [Token.parseInt.eq_def] at h
  split at h
  all_goals
    obtain ⟨n, -, h⟩ := bind_eq_ok_iff.1 h
    obtain ⟨hn, rfl⟩ := of_ite_eq_ok h
  · have hle : (n : Int) ≤ 2 ^ (bits - 1) := by exact_mod_cast hn
    exact admits_int hbits (by omega) (by omega)
  · have hlt : (n : Int) < 2 ^ (bits - 1) := by exact_mod_cast hn
    rw [← BitVec.ofInt_natCast]
    exact admits_int hbits (by omega) hlt

/-- A value that is read lies in the range of its type. -/
theorem admits_of_ofType (he : e.WellFormed) (h : Token.ofType e type raw = .ok t) :
    e.admits t = true := by
  cases e with
  | uint bits =>
    obtain ⟨n, hdecimal, h⟩ := bind_eq_ok_iff.1 h
    obtain ⟨hbits, rfl⟩ := of_ite_eq_ok h
    exact admits_uint (lt_of_decimal hdecimal) hbits
  | int bits => exact admits_of_parseInt he.2.1 h
  | fixedBytes size =>
    obtain ⟨data, -, h⟩ := bind_eq_ok_iff.1 h
    obtain ⟨hlen, rfl⟩ := of_ite_eq_ok h
    exact decide_eq_true hlen
  | address | bool | bytes | string =>
    -- The shape alone decides these types.
    have hshape := shape_of_ofType h
    cases t <;> first | rfl | cases hshape

/-- A value that is read is one of the type of that name. -/
theorem exists_type_of_parse (h : Token.parse type raw = .ok t) :
    ∃ e, ElementaryType.ofName? (trim type) = some e ∧ t.shape = e.shape ∧
      e.admits t = true := by
  rw [Token.parse] at h
  split at h
  case h_1 e hname =>
    exact ⟨e, hname, shape_of_ofType h, admits_of_ofType (wellFormed_of_ofName? hname) h⟩
  case h_2 => cases h

/-! ## Decoding by the names of the types -/

/-- The types of the names, unless one is no name of a type. -/
def typesOf? (names : List Text) : Option (List ElementaryType) :=
  names.mapM fun name => ElementaryType.ofName? (trim name)

/-- The values of the named types that the bytes encode, unless they encode none. -/
def decodeAs? (names : List Text) (bs : Bytes) : Option (List Token) := do
  let types ← typesOf? names
  let ts ← decode? (types.map ElementaryType.shape) bs
  if (types.zip ts).all fun p => p.1.admits p.2 then some ts else none

/-- Values that are read are those of the types of these names. -/
theorem exists_types_of_parse {args : List (Text × Text)}
    (h : args.map (fun arg => Token.parse arg.1 arg.2) = ts.map .ok) :
    ∃ types, typesOf? (args.map (·.1)) = some types ∧
      ts.map Token.shape = types.map ElementaryType.shape ∧
      ((types.zip ts).all fun p => p.1.admits p.2) = true ∧ ∀ t ∈ ts, t.Fits := by
  induction args generalizing ts with
  | nil =>
    obtain rfl : ts = [] := List.map_eq_nil_iff.1 h.symm
    exact ⟨[], rfl, rfl, rfl, by simp⟩
  | cons arg args ih =>
    obtain ⟨t, ts, rfl, harg, hargs⟩ := List.map_eq_cons_iff.1 h.symm
    obtain ⟨e, hname, hshape, hadmits⟩ := exists_type_of_parse harg.symm
    obtain ⟨types, hnames, hshapes, hall, hfits⟩ := ih hargs.symm
    refine ⟨e :: types, ?_, ?_, ?_, List.forall_mem_cons.2 ⟨fits_of_parse harg.symm, hfits⟩⟩
    · rw [typesOf?] at hnames ⊢
      rw [List.map_cons, List.mapM_cons, hname, hnames]
      rfl
    · rw [List.map_cons, List.map_cons, hshape, hshapes]
    · rw [List.zip_cons_cons, List.all_cons, hadmits, hall]
      rfl

/-- Values that were read and encoded are decoded as values of the same types. -/
theorem decodeAs?_encode {args : List (Text × Text)}
    (h : args.map (fun arg => Token.parse arg.1 arg.2) = ts.map .ok)
    (hlen : (Token.encode ts).length < 2 ^ 256) :
    decodeAs? (args.map (·.1)) (Token.encode ts) = some ts := by
  obtain ⟨types, hnames, hshapes, hall, hfits⟩ := exists_types_of_parse h
  have hdecode : decode? (types.map ElementaryType.shape) (Token.encode ts) = some ts :=
    (decode?_eq_some_iff hlen).2 ⟨hshapes, hfits, rfl⟩
  simp only [decodeAs?, hnames, hdecode, Option.bind_eq_bind, Option.bind_some, hall, if_true]

end Abi

end StylusSurvey
