import StylusSurvey.Proofs.Integers

/-!
# Printed values are read back

A value is written as it is usual for its type: an integer in decimal, bytes in hexadecimal, a
text as it is (`Token.Prints`). A value of a type that is written so, with blanks around it or
none, is read as that value again (`Token.parse_of_prints`). A text is the exception: blanks
around it belong to it.
-/

namespace StylusSurvey

open Text

variable {s raw : Text} {bs : Bytes}

namespace Text

/-! ## Blanks around a text -/

/-- The text with blanks at its ends or none. -/
def Padded (s raw : Text) : Prop :=
  ∃ b b' : Text, raw = b ++ (s ++ b') ∧ (∀ c ∈ b, isBlank c = true) ∧ ∀ c ∈ b', isBlank c = true

/-- Blanks around a text are trimmed away. -/
theorem Padded.trim_eq (h : Padded s raw) (hs : trim s = s) : trim raw = s := by
  obtain ⟨b, b', rfl, hb, hb'⟩ := h
  exact trim_blanks_append hb hb' hs

/-! ## Bytes in hexadecimal -/

/-- The text is the bytes in hexadecimal, with letters of either case, behind a marker or not. -/
inductive HexOf (bs : Bytes) : Text → Prop
  | plain {digits : Text} (h : digits.map Char.toLower = hex bs) : HexOf bs digits
  | marked {digits : Text} (h : digits.map Char.toLower = hex bs) : HexOf bs ('0' :: 'x' :: digits)

/-- Hexadecimal digits are read whether they are capital or small. -/
theorem ofHexDigits?_of_map_toLower (h : s.map Char.toLower = hex bs) :
    ofHexDigits? s = some bs := by
  rw [← ofHexDigits?_map_toLower, h, ofHexDigits?_hex]

/-- Bytes are read from their hexadecimal digits, with the marker or without. -/
theorem HexOf.ofHex?_eq (h : HexOf bs s) : ofHex? s = some bs := by
  cases h with
  | plain h =>
    have hread := ofHexDigits?_of_map_toLower h
    rw [ofHex?, dropHexMarker_of_ofHexDigits? hread, hread]
  | marked h => exact ofHexDigits?_of_map_toLower h

/-- Hexadecimal digits are ASCII letters and digits, and no blank is. -/
theorem isBlank_eq_false_of_hexValue? {c : Char} (h : (hexValue? c).isSome = true) :
    isBlank c = false := by
  have hrange : 48 ≤ c.toNat ∧ c.toNat ≤ 102 := by
    rw [hexValue?] at h
    split_ifs at h with hdigit hsmall hcapital
    · have hlow : 48 ≤ c.toNat := hdigit.1
      have hhigh : c.toNat ≤ 57 := hdigit.2
      omega
    · have hlow : 97 ≤ c.toNat := hsmall.1
      have hhigh : c.toNat ≤ 102 := hsmall.2
      omega
    · have hlow : 65 ≤ c.toNat := hcapital.1
      have hhigh : c.toNat ≤ 70 := hcapital.2
      omega
    · cases h
  rw [Bool.eq_false_iff]
  intro hblank
  obtain ⟨r, hr, hrc, hcr⟩ := exists_of_inRanges hblank
  have hall : ∀ r ∈ blankRanges, r.2 < 48 ∨ 102 < r.1 := by decide
  have hapart := hall r hr
  omega

theorem HexOf.trim_eq (h : HexOf bs s) : trim s = s := by
  have hdigits {digits : Text} (h : digits.map Char.toLower = hex bs) :
      ∀ c ∈ digits, isBlank c = false := fun c hc =>
    isBlank_eq_false_of_hexValue? (isSome_hexValue?_of_mem (ofHexDigits?_of_map_toLower h) c hc)
  cases h with
  | plain h => exact trim_of_forall_not_blank (hdigits h)
  | marked h =>
    exact trim_of_forall_not_blank
      (List.forall_mem_cons.2 ⟨rfl, List.forall_mem_cons.2 ⟨rfl, hdigits h⟩⟩)

/-! ## Values of the types -/

theorem trim_signedNumeral (v : Int) : trim (signedNumeral v) = signedNumeral v := by
  have hnumeral (n : Nat) : ∀ c ∈ numeral n, isBlank c = false := fun c hc =>
    isBlank_eq_false_of_isWord (isWord_of_isDigit (isDigit_of_mem_numeral hc))
  refine trim_of_forall_not_blank ?_
  rw [signedNumeral]
  split
  · exact List.forall_mem_cons.2 ⟨rfl, hnumeral _⟩
  · exact hnumeral _

end Text

namespace Abi

variable {e : ElementaryType} {t : Token} {name type : Text}

/-- The text is what the value is written as. -/
inductive Token.Prints : Token → Text → Prop
  | uint (w : Word) : Prints (.uint w) (numeral w.toNat)
  | int (w : Word) : Prints (.int w) (signedNumeral w.toInt)
  | bool (flag : Bool) : Prints (.bool flag) (if flag then "true" else "false")
  | address {account : Vector UInt8 20} {s : Text} (h : HexOf account.toList s) :
      Prints (.address account) s
  | fixedBytes {data : Bytes} {s : Text} (h : HexOf data s) : Prints (.fixedBytes data) s
  | bytes {data : Bytes} {s : Text} (h : HexOf data s) : Prints (.bytes data) s
  | string (s : Text) : Prints (.string s) s

namespace Token

theorem parseHex_of_hexOf (h : HexOf bs s) (hraw : Padded s raw) :
    parseHex type raw = .ok bs := by
  rw [parseHex, hraw.trim_eq h.trim_eq, h.ofHex?_eq]

/-- A printed value of a type is read back. -/
theorem ofType_of_prints (he : e.WellFormed) (ht : e.admits t = true) (hs : t.Prints s)
    (hraw : Padded s raw) (hstring : e = .string → raw = s) : ofType e type raw = .ok t := by
  cases hs with
  | uint w =>
    cases e with
    | uint bits =>
      have hw : w.toNat < 2 ^ bits := of_decide_eq_true ht
      have htrim := hraw.trim_eq (trim_of_isNumeral (isNumeral_numeral w.toNat))
      change parseUint type bits (trim raw) = _
      rw [htrim, parseUint_eq_iff he.2.1]
      exact .within (denotes_numeral w.toNat) hw rfl
    | _ => cases ht
  | int w =>
    cases e with
    | int bits =>
      obtain ⟨hlow, hhigh⟩ := Bool.and_eq_true_iff.1 ht
      change parseInt type bits (trim raw) = _
      rw [hraw.trim_eq (trim_signedNumeral w.toInt), parseInt_eq_iff he.2.1]
      exact .within (denotesInt_signedNumeral w.toInt) (of_decide_eq_true hlow)
        (of_decide_eq_true hhigh) (toNat_eq_toInt_emod w) rfl
    | _ => cases ht
  | bool flag =>
    cases e with
    | bool =>
      cases flag
      · have htrim : trim raw = "false" := hraw.trim_eq rfl
        simp only [ofType, htrim]
        rfl
      · have htrim : trim raw = "true" := hraw.trim_eq rfl
        simp only [ofType, htrim]
        rfl
    | _ => cases ht
  | @address account s h =>
    cases e with
    | address =>
      have hlen : account.toList.length = 20 := account.length_toList
      rw [ofType, parseHex_of_hexOf h hraw]
      exact dif_pos hlen
    | _ => cases ht
  | @fixedBytes data s h =>
    cases e with
    | fixedBytes size =>
      have hlen : data.length = size := of_decide_eq_true ht
      rw [ofType, parseHex_of_hexOf h hraw]
      exact if_pos hlen
    | _ => cases ht
  | bytes h =>
    cases e with
    | bytes =>
      rw [ofType, parseHex_of_hexOf h hraw]
      rfl
    | _ => cases ht
  | string s =>
    cases e with
    | string =>
      rw [ofType, hstring rfl]
    | _ => cases ht

/-- Reading undoes printing. -/
theorem parse_of_prints (he : e.WellFormed) (ht : e.admits t = true) (hs : t.Prints s)
    (hname : e.Names name) (htype : Padded name type) (hraw : Padded s raw)
    (hstring : e = .string → raw = s) : parse type raw = .ok t := by
  have htrim := htype.trim_eq (ElementaryType.trim_of_names hname)
  rw [parse_of_names (htrim ▸ hname) he]
  exact ofType_of_prints he ht hs hraw hstring

/-- Capital and small digits behind the marker, and blanks that belong to the value or do not. -/
theorem parse_of_prints_padded :
    parse " bytes4" "0xDEADbeef " = .ok (.fixedBytes [0xDE, 0xAD, 0xBE, 0xEF]) ∧
      parse "int" " -1" = .ok (.int (BitVec.allOnes 256)) ∧
      parse "string" " hi " = .ok (.string " hi ") := by
  have hself (s : Text) : Padded s s := ⟨[], [], by simp, by simp, by simp⟩
  have hfront (s : Text) : Padded s (' ' :: s) := ⟨" ", [], by simp, isBlank_of_mem_space, by simp⟩
  have hend (s : Text) : Padded s (s ++ " ") := ⟨[], " ", by simp, by simp, isBlank_of_mem_space⟩
  refine ⟨?_, ?_, ?_⟩
  · exact parse_of_prints (e := .fixedBytes 4) (s := "0xDEADbeef") ⟨by decide, by decide⟩ rfl
      (.fixedBytes (.marked (by decide))) (.full _) (hfront _) (hend _) nofun
  · exact parse_of_prints (e := .int 256) (s := "-1") ⟨by decide, by decide, rfl⟩ (by decide)
      (.int _) .bareInt (hself _) (hfront _) nofun
  · exact parse_of_prints (e := .string) trivial rfl (.string _) (.full .string) (hself _)
      (hself _) fun _ => rfl

end Token

end Abi

end StylusSurvey
