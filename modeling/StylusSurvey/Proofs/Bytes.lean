import Mathlib.Algebra.Group.Nat.Defs
import Mathlib.Data.List.Infix
import Mathlib.Tactic.SplitIfs
import StylusSurvey.Abi.Word
import StylusSurvey.Text.Hex

/-!
# Bytes read back

Numbers and texts determine their bytes, and their bytes determine them. `numberOf` reads
what `bigEndian` writes (`numberOf_bigEndian`, `bigEndian_numberOf`), so the word of a
number that fits in one is the only word with that number (`wordOf_eq_iff`). A text is
read from exactly the bytes that it is written as (`Text.ofBytes?_eq_some_iff`), which are in the
order of texts (`Text.bytes_lt_bytes`), and the hexadecimal digits of bytes are read as those
bytes (`Text.ofHexDigits?_hex`), capital letters like small ones
(`Text.ofHexDigits?_map_toLower`).
-/

namespace StylusSurvey

namespace Abi

/-! ## Numbers -/

/-- The number that bytes stand for, most significant byte first. -/
def numberOf (bs : Bytes) : Nat :=
  bs.foldl (fun n b => 256 * n + b.toNat) 0

@[simp] theorem numberOf_nil : numberOf [] = 0 := rfl

theorem numberOf_append_singleton (bs : Bytes) (b : UInt8) :
    numberOf (bs ++ [b]) = 256 * numberOf bs + b.toNat := by
  simp [numberOf]

@[simp] theorem length_bigEndian : ∀ count n : Nat, (bigEndian count n).length = count
  | 0, _ => rfl
  | count + 1, n => by simp [bigEndian, length_bigEndian count]

/-- The bytes of a number in so many places stand for the number, less what does not fit in them. -/
theorem numberOf_bigEndian : ∀ count n : Nat, numberOf (bigEndian count n) = n % 256 ^ count
  | 0, n => by simp [bigEndian, Nat.mod_one]
  | count + 1, n => by
    have hbyte : (UInt8.ofNat n).toNat = n % 256 := by simp
    rw [bigEndian, numberOf_append_singleton, numberOf_bigEndian count, hbyte, Nat.pow_succ,
      Nat.mul_comm (256 ^ count), Nat.mod_mul, Nat.add_comm]

/-- Bytes are those of the number that they stand for. -/
theorem bigEndian_numberOf (bs : Bytes) : bigEndian bs.length (numberOf bs) = bs := by
  induction bs using List.reverseRecOn with
  | nil => rfl
  | append_singleton bs b ih =>
    have hb : b.toNat < 256 := b.toNat_lt
    have hdiv : (256 * numberOf bs + b.toNat) / 256 = numberOf bs := by omega
    have hbyte : UInt8.ofNat (256 * numberOf bs + b.toNat) = b := by
      apply UInt8.toNat_inj.1
      rw [UInt8.toNat_ofNat']
      omega
    rw [List.length_append, List.length_singleton, numberOf_append_singleton, bigEndian, hdiv, ih,
      hbyte]

theorem numberOf_lt (bs : Bytes) : numberOf bs < 256 ^ bs.length := by
  have h := numberOf_bigEndian bs.length (numberOf bs)
  rw [bigEndian_numberOf] at h
  rw [h]
  exact Nat.mod_lt _ (Nat.pow_pos (by decide))

/-! ## Words -/

@[simp] theorem length_wordBytes (w : Word) : w.bytes.length = wordSize :=
  length_bigEndian _ _

@[simp] theorem length_wordOf (n : Nat) : (wordOf n).length = wordSize :=
  length_wordBytes _

theorem numberOf_lt_of_word {bs : Bytes} (hbs : bs.length = wordSize) : numberOf bs < 2 ^ 256 := by
  have hlt := numberOf_lt bs
  rwa [hbs] at hlt

/-- The bytes of a word are the only 32 bytes with its number. -/
theorem wordBytes_eq_iff {w : Word} {bs : Bytes} (hbs : bs.length = wordSize) :
    w.bytes = bs ↔ w = BitVec.ofNat 256 (numberOf bs) := by
  constructor
  · rintro rfl
    apply BitVec.eq_of_toNat_eq
    rw [Word.bytes, numberOf_bigEndian, BitVec.toNat_ofNat]
    have hw : w.toNat < 2 ^ 256 := w.isLt
    simp only [wordSize]
    omega
  · rintro rfl
    rw [Word.bytes, BitVec.toNat_ofNat, Nat.mod_eq_of_lt (numberOf_lt_of_word hbs), ← hbs,
      bigEndian_numberOf]

/-- The word of a number below `2 ^ 256` is the only one with that number. -/
theorem wordOf_eq_iff {n : Nat} {bs : Bytes} (hn : n < 2 ^ 256) (hbs : bs.length = wordSize) :
    wordOf n = bs ↔ numberOf bs = n := by
  rw [wordOf, wordBytes_eq_iff hbs, ← BitVec.toNat_inj, BitVec.toNat_ofNat, BitVec.toNat_ofNat,
    Nat.mod_eq_of_lt hn, Nat.mod_eq_of_lt (numberOf_lt_of_word hbs)]
  exact eq_comm

end Abi

/-! ## Texts -/

namespace Text

/-- Decoding undoes the encoding of texts, and accepts nothing but what texts are encoded as. -/
theorem ofBytes?_eq_some_iff {bs : Bytes} {s : Text} : ofBytes? bs = some s ↔ bytes s = bs := by
  have harray : ByteArray.mk bs.toArray = bs.toByteArray := by
    rw [ByteArray.ext_iff, List.data_toByteArray]
  have hencode : (bytes s).toByteArray = s.utf8Encode := rfl
  rw [ofBytes?, harray, String.fromUTF8?, ← List.toByteArray_inj, hencode]
  constructor
  · intro h
    split at h
    · obtain rfl := Option.some.inj h
      exact String.utf8Encode_toList
    · cases h
  · intro h
    have hvalid : bs.toByteArray.IsValidUTF8 := h ▸ ByteArray.isValidUTF8_utf8Encode
    have hstring : String.fromUTF8 bs.toByteArray hvalid = String.ofList s := by
      rw [← String.toByteArray_inj, String.toByteArray_ofList, h]
      rfl
    rw [dif_pos hvalid, Option.map_some, hstring, String.toList_ofList]

/-! ## The order of texts -/

/-- The character that comes first is encoded by the bytes that do, whatever follows. -/
theorem utf8EncodeChar_append_lt {c d : Char} (h : c < d) (bs cs : Bytes) :
    String.utf8EncodeChar c ++ bs < String.utf8EncodeChar d ++ cs := by
  have hlt : c.val.toNat < d.val.toNat := h
  have hd : d.val.toNat < 0x110000 := by
    rcases d.valid with hd | hd
    · exact hd.trans (by decide)
    · exact hd.2
  have hless {m n : Nat} : UInt8.ofNat m < UInt8.ofNat n ↔ m % 256 < n % 256 := by
    rw [UInt8.lt_iff_toNat_lt, UInt8.toNat_ofNat', UInt8.toNat_ofNat']
  have hequal {m n : Nat} : UInt8.ofNat m = UInt8.ofNat n ↔ m % 256 = n % 256 := by
    rw [← UInt8.toNat_inj, UInt8.toNat_ofNat', UInt8.toNat_ofNat']
  -- Each byte but the first has six bits, so the bytes are digits to the base 64.
  have hdigits (n : Nat) : n / 4096 = n / 64 / 64 ∧ n / 262144 = n / 64 / 64 / 64 := by omega
  unfold String.utf8EncodeChar
  dsimp only
  generalize c.val.toNat = m at *
  generalize d.val.toNat = n at *
  -- One case for each pair of lengths. A longer encoding has the greater first byte.
  split_ifs <;>
    simp only [List.cons_append, List.nil_append, List.cons_lt_cons_iff, hless, hequal, hdigits] <;>
    omega

/-- Texts in the order of their characters have bytes in order. -/
theorem bytes_lt_bytes {s t : Text} (h : s < t) : bytes s < bytes t := by
  induction s generalizing t with
  | nil =>
    cases t with
    | nil => exact absurd h (List.not_lt_nil [])
    | cons d t =>
      obtain ⟨b, bs, hd⟩ := List.exists_cons_of_ne_nil (String.utf8EncodeChar_ne_nil (c := d))
      rw [bytes, bytes, List.flatMap_cons, hd]
      exact List.nil_lt_cons ..
  | cons c s ih =>
    cases t with
    | nil => exact absurd h (List.not_lt_nil (c :: s))
    | cons d t =>
      rw [bytes, bytes, List.flatMap_cons, List.flatMap_cons]
      rcases List.cons_lt_cons_iff.1 h with hcd | ⟨rfl, hst⟩
      · exact utf8EncodeChar_append_lt hcd _ _
      · exact List.append_left_lt (ih hst)

/-! ## Hexadecimal digits -/

/-- The digits that bytes are written with. -/
def smallHexDigits : Text := "0123456789abcdef"

/-- A hexadecimal digit stands for the number that it is the digit of. -/
theorem hexDigit_mem_and_value {n : Nat} (h : n < 16) :
    hexDigit n ∈ smallHexDigits ∧ hexValue? (hexDigit n) = some n := by
  have hall : ∀ m : Fin 16, hexDigit m ∈ smallHexDigits ∧ hexValue? (hexDigit m) = some m.val := by
    decide
  exact hall ⟨n, h⟩

theorem mem_smallHexDigits_of_mem_hex {bs : Bytes} {c : Char} (h : c ∈ hex bs) :
    c ∈ smallHexDigits := by
  obtain ⟨b, -, hc⟩ := List.mem_flatMap.1 h
  have hb : b.toNat < 256 := b.toNat_lt
  rw [List.mem_pair] at hc
  rcases hc with rfl | rfl
  · exact (hexDigit_mem_and_value (by omega)).1
  · exact (hexDigit_mem_and_value (by omega)).1

/-- Bytes are read back from their hexadecimal digits. -/
theorem ofHexDigits?_hex (bs : Bytes) : ofHexDigits? (hex bs) = some bs := by
  induction bs with
  | nil => rfl
  | cons b bs ih =>
    have hb : b.toNat < 256 := b.toNat_lt
    have hhigh := (hexDigit_mem_and_value (n := b.toNat / 16) (by omega)).2
    have hlow := (hexDigit_mem_and_value (n := b.toNat % 16) (by omega)).2
    have hbyte : UInt8.ofNat (16 * (b.toNat / 16) + b.toNat % 16) = b := by
      rw [Nat.div_add_mod, UInt8.ofNat_toNat]
    rw [hex, List.flatMap_cons, List.cons_append, List.singleton_append, ← hex, ofHexDigits?,
      hhigh, hlow, ih]
    simp only [Option.bind_eq_bind, Option.bind_some, hbyte]
    rfl

/-- A digit has the same value in either case. -/
theorem hexValue?_toLower (c : Char) : hexValue? c.toLower = hexValue? c := by
  by_cases hc : c.val ≥ 'A'.val ∧ c.val ≤ 'Z'.val
  · have hall : ∀ m : Fin 26,
        hexValue? (Char.ofNat (65 + m)).toLower = hexValue? (Char.ofNat (65 + m)) := by decide
    have hlow : 65 ≤ c.toNat := hc.1
    have hhigh : c.toNat ≤ 90 := hc.2
    have hsum : 65 + (c.toNat - 65) = c.toNat := by omega
    have hm := hall ⟨c.toNat - 65, by omega⟩
    rwa [hsum, Char.ofNat_toNat] at hm
  · exact congrArg hexValue? (dif_neg hc)

theorem ofHexDigits?_map_toLower (s : Text) :
    ofHexDigits? (s.map Char.toLower) = ofHexDigits? s := by
  induction s using ofHexDigits?.induct with
  | case1 => rfl
  | case2 c => rfl
  | case3 a b s ih =>
    rw [List.map_cons, List.map_cons, ofHexDigits?, hexValue?_toLower, hexValue?_toLower, ih,
      ofHexDigits?]

/-- Only digits are read. -/
theorem isSome_hexValue?_of_mem {s : Text} {bs : Bytes} (h : ofHexDigits? s = some bs) :
    ∀ c ∈ s, (hexValue? c).isSome = true := by
  induction s using ofHexDigits?.induct generalizing bs with
  | case1 => simp
  | case2 c => cases h
  | case3 a b s ih =>
    simp only [ofHexDigits?, Option.bind_eq_bind, Option.bind_eq_some_iff] at h
    obtain ⟨high, ha, low, hb, rest, hs, -⟩ := h
    simpa [ha, hb] using ih hs

/-- Hexadecimal digits do not begin with the marker. -/
theorem dropHexMarker_of_ofHexDigits? {s : Text} {bs : Bytes} (h : ofHexDigits? s = some bs) :
    dropHexMarker s = s := by
  have hdigit := isSome_hexValue?_of_mem h
  rw [dropHexMarker.eq_def]
  split
  case h_1 s => exact absurd (hdigit 'x' (by simp)) (by decide)
  case h_2 s => exact absurd (hdigit 'X' (by simp)) (by decide)
  case h_3 => rfl

end Text

end StylusSurvey
