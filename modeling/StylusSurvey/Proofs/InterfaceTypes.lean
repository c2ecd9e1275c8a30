import StylusSurvey.Manifest.Basic
import StylusSurvey.Proofs.EncodingErrors
import StylusSurvey.Proofs.Texts
import StylusSurvey.Text.Line

/-!
# Interface types that can be encoded

A type is mapped to the name of an interface type, and the encoder reads the name again. The
map goes by the leftmost byte array in the type, if there is one (`FirstArray`), and else by
a table of which every row names a type of the encoder. A byte array of 1 to 32 bytes has a
type of the encoder, a longer one falls back to `bytes`, but the length zero gives `bytes0`,
which is no type (`typeOf_emptyArray`). The theorem `supported_typeOf` says that this is the
only exception, and so the only name in a generated manifest that the encoder refuses.
-/

namespace StylusSurvey

namespace Abi

open Text

variable {s digits type value name : Text}

/-! ## The leftmost byte array -/

/-- A byte array whose length has the given digits begins the text. -/
def ArrayAt (s digits : Text) : Prop :=
  ∃ blanks rest : Text, s = "[u8;" ++ (blanks ++ (digits ++ ']' :: rest)) ∧
    (∀ c ∈ blanks, isBlank c = true) ∧ digits ≠ [] ∧ ∀ c ∈ digits, isDecimal c = true

/-- The leftmost byte array in the text has a length of the given digits. -/
def FirstArray (s digits : Text) : Prop :=
  ∃ before rest : Text, s = before ++ rest ∧ ArrayAt rest digits ∧
    ∀ before' rest' digits' : Text, s = before' ++ rest' → ArrayAt rest' digits' →
      before.length ≤ before'.length

/-- No range of blanks meets a range of decimal digits. -/
theorem blankRanges_apart_decimalRanges :
    ∀ r ∈ blankRanges, ∀ q ∈ decimalRanges, r.2 < q.1 ∨ q.2 < r.1 := by
  decide

theorem isBlank_eq_false_of_isDecimal {c : Char} (h : isDecimal c = true) :
    isBlank c = false := by
  rw [Bool.eq_false_iff]
  intro hblank
  obtain ⟨r, hr, hrc, hcr⟩ := exists_of_inRanges hblank
  obtain ⟨q, hq, hqc, hcq⟩ := exists_of_inRanges h
  have hapart := blankRanges_apart_decimalRanges r hr q hq
  omega

/-- The length of a byte array is found where one begins. -/
theorem arrayLengthAt?_eq_some_iff : arrayLengthAt? s = some digits ↔ ArrayAt s digits := by
  have hbracket : isDecimal ']' = false := by decide
  constructor
  · intro h
    obtain ⟨t, ht, h⟩ := Option.bind_eq_some_iff.1 h
    rw [after?_eq_some_iff] at ht
    dsimp only at h
    split at h
    case h_1 => cases h
    case h_2 hne =>
      obtain ⟨rest, hrest, h⟩ := Option.bind_eq_some_iff.1 h
      obtain rfl := Option.some.inj h
      rw [after?_eq_some_iff, List.singleton_append] at hrest
      obtain ⟨blanks, hblanks, hsplit⟩ := exists_blanks_append_trimStart t
      refine ⟨blanks, rest, ?_, hblanks, hne, fun c hc => List.mem_takeWhile_imp hc⟩
      rw [← hrest, List.takeWhile_append_dropWhile, ← hsplit, ht]
  · rintro ⟨blanks, rest, rfl, hblanks, hne, hdigits⟩
    have htrim : trimStart (blanks ++ (digits ++ ']' :: rest)) = digits ++ ']' :: rest := by
      obtain ⟨c, digits, rfl⟩ := List.exists_cons_of_ne_nil hne
      rw [trimStart_blanks_append hblanks, List.cons_append,
        trimStart_cons (isBlank_eq_false_of_isDecimal (hdigits c List.mem_cons_self))]
    have htake : (digits ++ ']' :: rest).takeWhile isDecimal = digits := by
      rw [List.takeWhile_append_of_pos hdigits, List.takeWhile_cons_of_neg (by simp [hbracket]),
        List.append_nil]
    have hdrop : (digits ++ ']' :: rest).dropWhile isDecimal = ']' :: rest := by
      rw [List.dropWhile_append_of_pos hdigits, List.dropWhile_cons_of_neg (by simp [hbracket])]
    obtain ⟨c, digits, rfl⟩ := List.exists_cons_of_ne_nil hne
    simp only [arrayLengthAt?, after?_append, Option.bind_eq_bind, Option.bind_some, htrim, htake,
      hdrop]
    rfl

/-- The length that is found is that of the leftmost byte array. -/
theorem arrayLength?_eq_some_iff : arrayLength? s = some digits ↔ FirstArray s digits :=
  search_eq_some_iff_leftmost fun _ _ => arrayLengthAt?_eq_some_iff

/-- No length is found exactly if there is no byte array. -/
theorem arrayLength?_eq_none_iff : arrayLength? s = none ↔ ∀ digits, ¬FirstArray s digits := by
  simp only [Option.eq_none_iff_forall_ne_some, ne_eq, arrayLength?_eq_some_iff]

/-! ## Lengths -/

theorem digitValue_eq_zero_iff {c : Char} (hc : c.isDigit = true) :
    digitValue c = 0 ↔ c = '0' := by
  rw [Char.isDigit, Bool.and_eq_true, decide_eq_true_eq, decide_eq_true_eq] at hc
  have hlow : 0x30 ≤ c.toNat := hc.1
  constructor
  · intro h
    have hzero : ('0' : Char).toNat = 0x30 := rfl
    rw [digitValue, hzero] at h
    exact Char.toNat_inj.1 (by omega)
  · rintro rfl
    rfl

/-- Digits stand for zero exactly if each of them is zero. -/
theorem valueOfDigits_eq_zero_iff (h : ∀ c ∈ s, c.isDigit = true) :
    valueOfDigits s = 0 ↔ ∀ c ∈ s, c = '0' := by
  have hfold : ∀ n : Nat, s.foldl (fun n c => 10 * n + digitValue c) n = 0 ↔
      n = 0 ∧ ∀ c ∈ s, c = '0' := by
    induction s with
    | nil => simp
    | cons c s ih =>
      intro n
      obtain ⟨hc, hs⟩ := List.forall_mem_cons.1 h
      have hstep : 10 * n + digitValue c = 0 ↔ n = 0 ∧ digitValue c = 0 := by omega
      rw [List.foldl_cons, ih hs, List.forall_mem_cons, ← digitValue_eq_zero_iff hc, hstep,
        and_assoc]
  rw [valueOfDigits, hfold]
  simp

/-- No plus sign stands in front of the digits of a length. -/
theorem size?_eq_filter_of_isDecimal (hdigits : ∀ c ∈ digits, isDecimal c = true) :
    size? digits = (ofNumeral? digits).filter (· ≤ maxSize) := by
  have hplus : isDecimal '+' = false := by decide
  rw [size?.eq_def]
  split
  · have hc := hdigits '+' List.mem_cons_self
    rw [hplus] at hc
    cases hc
  · rfl

/-- A length is the number zero exactly if it is written with zeros only. -/
theorem size?_eq_zero_iff (hne : digits ≠ []) (hdigits : ∀ c ∈ digits, isDecimal c = true) :
    size? digits = some 0 ↔ ∀ c ∈ digits, c = '0' := by
  rw [size?_eq_filter_of_isDecimal hdigits, Option.filter_eq_some_iff, ofNumeral?]
  constructor
  · rintro ⟨h, -⟩
    split at h
    case isTrue hnumeral =>
      exact (valueOfDigits_eq_zero_iff (isNumeral_iff.1 hnumeral).2).1 (Option.some.inj h)
    case isFalse => cases h
  · intro h
    have hall : ∀ c ∈ digits, c.isDigit = true := fun c hc => h c hc ▸ rfl
    rw [if_pos (isNumeral_iff.2 ⟨hne, hall⟩), (valueOfDigits_eq_zero_iff hall).2 h]
    exact ⟨rfl, rfl⟩

/-! ## Types of the encoder -/

/-- No value is refused because of the type. -/
def Supported (type : Text) : Prop :=
  ∀ value name, Token.parse type value ≠ .error (.unsupportedType name)

/-- A type is refused exactly if its name is none, whatever the value. -/
theorem parse_eq_unsupportedType_iff : Token.parse type value = .error (.unsupportedType name) ↔
    ElementaryType.ofName? (trim type) = none ∧ name = trim type := by
  rw [Token.parse]
  split
  case h_1 t ht =>
    rw [ht]
    constructor
    · intro h
      obtain ⟨v, hv | hv, -⟩ := refuses_of_ofType h
      · cases hv
      · cases hv
    · rintro ⟨h, -⟩
      cases h
  case h_2 hnone => simp [hnone, eq_comm]

/-- A type is supported exactly if it has a name that the encoder knows. -/
theorem supported_iff : Supported type ↔ ElementaryType.ofName? (trim type) ≠ none := by
  simp [Supported, parse_eq_unsupportedType_iff]

/-! ## The types that the map gives -/

/-- The first byte array in the type has the length zero. -/
def EmptyArray (type : Text) : Prop :=
  ∃ digits, FirstArray (trim type) digits ∧ ∀ c ∈ digits, c = '0'

/-- The types that need no length. -/
def plainTypes : List Text :=
  fallbackType :: typeTable.map (·.2)

theorem mem_of_bestRow? {table : List (Text × Text)} {row : Text × Text}
    (h : bestRow? table type = some row) : row ∈ table := by
  have hfold : ∀ (rows : List (Text × Text)) (best : Option (Text × Text)),
      rows.foldl longerKey best = some row → row ∈ rows ∨ best = some row := by
    intro rows
    induction rows with
    | nil => exact fun best h => .inr h
    | cons r rows ih =>
      intro best h
      rcases ih _ h with h | h
      · exact .inl (List.mem_cons_of_mem r h)
      · cases best with
        | none => exact .inl (Option.some.inj h ▸ List.mem_cons_self)
        | some b =>
          rw [longerKey] at h
          split at h
          · exact .inl (Option.some.inj h ▸ List.mem_cons_self)
          · exact .inr h
  rcases hfold _ none h with h | h
  · exact (List.mem_filter.1 h).1
  · cases h

/-- A byte array goes before all keys. -/
theorem typeOf_of_array (h : FirstArray (trim type) digits) : typeOf type = arrayType digits := by
  simp only [typeOf, arrayLength?_eq_some_iff.2 h]

theorem typeOf_of_no_array (h : ∀ digits, ¬FirstArray (trim type) digits) :
    typeOf type ∈ plainTypes := by
  simp only [typeOf, arrayLength?_eq_none_iff.2 h]
  split
  case h_1 row hrow =>
    exact List.mem_cons_of_mem _ (List.mem_map_of_mem (mem_of_bestRow? hrow))
  case h_2 => exact List.mem_cons_self

/-- All types without a length are supported. -/
theorem plainTypes_supported (h : type ∈ plainTypes) : Supported type ∧ type ≠ "bytes0" := by
  have hall : ∀ type ∈ plainTypes,
      ElementaryType.ofName? (trim type) ≠ none ∧ type ≠ "bytes0" := by decide
  exact ⟨supported_iff.2 (hall type h).1, (hall type h).2⟩

/-- Of the byte string types with a size that the map can write, only the empty one is refused. -/
theorem supported_fixedBytes_iff {n : Nat} (hn : n ≤ 32) :
    (Supported ("bytes" ++ numeral n) ↔ n ≠ 0) ∧
      (("bytes" ++ numeral n : Text) = "bytes0" ↔ n = 0) := by
  have hall : ∀ m : Fin 33,
      (ElementaryType.ofName? (trim ("bytes" ++ numeral m)) ≠ none ↔ m.val ≠ 0) ∧
        (("bytes" ++ numeral m : Text) = "bytes0" ↔ m.val = 0) := by decide
  rw [supported_iff]
  exact hall ⟨n, by omega⟩

/-- A byte array has the type of its length, or that of bytes of any number. -/
theorem arrayType_cases (digits : Text) :
    (∃ n, n ≤ 32 ∧ size? digits = some n ∧ arrayType digits = "bytes" ++ numeral n) ∨
      arrayType digits = fallbackType ∧ size? digits ≠ some 0 := by
  rw [arrayType]
  split
  case h_1 n hn =>
    split
    case isTrue hle => exact .inl ⟨n, hle, hn, rfl⟩
    case isFalse hgt => exact .inr ⟨rfl, by simp [hn]; omega⟩
  case h_2 hnone => exact .inr ⟨rfl, by simp [hnone]⟩

/-- A type is mapped to one of the encoder, unless its first byte array is empty. -/
theorem typeOf_emptyArray (type : Text) :
    (Supported (typeOf type) ↔ typeOf type ≠ "bytes0") ∧
      (typeOf type = "bytes0" ↔ EmptyArray type) := by
  by_cases harray : ∃ digits, FirstArray (trim type) digits
  · obtain ⟨digits, hdigits⟩ := harray
    obtain ⟨-, -, -, ⟨-, -, -, -, hne, hdecimal⟩, -⟩ := id hdigits
    have hempty : EmptyArray type ↔ size? digits = some 0 := by
      rw [size?_eq_zero_iff hne hdecimal]
      constructor
      · rintro ⟨digits', hdigits', hzero⟩
        rw [← arrayLength?_eq_some_iff] at hdigits hdigits'
        rwa [Option.some.inj (hdigits.symm.trans hdigits')]
      · exact fun hzero => ⟨digits, hdigits, hzero⟩
    rw [hempty, typeOf_of_array hdigits]
    rcases arrayType_cases digits with ⟨n, hn, hsize, htype⟩ | ⟨htype, hsize⟩
    · obtain ⟨hsupported, hname⟩ := supported_fixedBytes_iff hn
      rw [htype, hsize, Option.some.injEq]
      exact ⟨hsupported.trans (not_congr hname).symm, hname⟩
    · have hplain : fallbackType ∈ plainTypes := List.mem_cons_self
      obtain ⟨hsupported, hname⟩ := plainTypes_supported hplain
      rw [htype]
      exact ⟨iff_of_true hsupported hname, iff_of_false hname hsize⟩
  · have hnone : ∀ digits, ¬FirstArray (trim type) digits := not_exists.1 harray
    obtain ⟨hsupported, hname⟩ := plainTypes_supported (typeOf_of_no_array hnone)
    exact ⟨iff_of_true hsupported hname,
      iff_of_false hname fun ⟨digits, hdigits, _⟩ => hnone digits hdigits⟩

/-- The types of a function in a manifest come from the map. -/
theorem exists_typeOf_of_mem {contract : Text} {f : EntryPoint} {p : Param}
    (h : p ∈ (ManifestEntry.ofEntryPoint contract f).inputs ++
      (ManifestEntry.ofEntryPoint contract f).outputs) : ∃ type, p.type = typeOf type := by
  have houtput {success : Text} (hp : p ∈ valueOutput success) : ∃ type, p.type = typeOf type :=
    ⟨success, List.mem_singleton.1 hp ▸ rfl⟩
  rcases List.mem_append.1 h with h | h
  · obtain ⟨q, -, rfl⟩ := List.mem_map.1 h
    exact ⟨q.type, rfl⟩
  · simp only [ManifestEntry.ofEntryPoint, outputsOf] at h
    split at h
    · cases h
    · split at h
      · exact houtput h
      · split at h
        · cases h
        · exact houtput h

/-- The encoder knows the type to which a type is mapped, whatever the value, unless the first
byte array in it is empty. So it knows all types of a generated manifest but `bytes0`. -/
theorem supported_typeOf (type source : Text) (options : ManifestOptions) :
    (∀ value : Text, (∃ name, Token.parse (typeOf type) value =
      .error (.unsupportedType name)) ↔ EmptyArray type) ∧
    ∀ e ∈ (Manifest.ofSource source options).entries, ∀ p ∈ e.inputs ++ e.outputs,
      Supported p.type ↔ p.type ≠ "bytes0" := by
  constructor
  · intro value
    obtain ⟨hsupported, hname⟩ := typeOf_emptyArray type
    rw [← hname, ← not_iff_not, ← ne_eq (typeOf type), ← hsupported, supported_iff]
    simp [parse_eq_unsupportedType_iff]
  · intro e he p hp
    obtain ⟨f, -, rfl⟩ := List.mem_map.1 he
    obtain ⟨type, htype⟩ := exists_typeOf_of_mem hp
    rw [htype]
    exact (typeOf_emptyArray type).1

/-- A contract with a function of a name and an empty array. -/
def tagSource : Text :=
  unlines ["#[public]", "impl Tags \x7b",
    "    pub fn tag(&mut self, name: String, tag: [u8; 0]) -> Result<[u8; 32], Vec<u8>> \x7b",
    "        self.put(name, tag)", "    \x7d", "\x7d"]

/-- The function in the manifest of the contract. -/
def tagEntry : ManifestEntry where
  name := "tag"
  description := "Calls tag on the UnknownContract contract"
  inputs := [⟨"name", "string"⟩, ⟨"tag", "bytes0"⟩]
  outputs := [⟨"value", "bytes32"⟩]
  mutability := .nonpayable

theorem tagEntry_mem_entries : tagEntry ∈ (Manifest.ofSource tagSource {}).entries := by
  decide +kernel

/-- Two types that are supported, and the one that is not. -/
theorem supported_typeOf_tagSource :
    tagEntry ∈ (Manifest.ofSource tagSource {}).entries ∧
      Supported "string" ∧ Supported "bytes32" ∧ ¬Supported "bytes0" := by
  have htypes := (supported_typeOf "[u8; 32]" tagSource {}).2 tagEntry tagEntry_mem_entries
  refine ⟨tagEntry_mem_entries, (htypes ⟨"name", "string"⟩ (by decide)).2 (by decide),
    (htypes ⟨"value", "bytes32"⟩ (by decide)).2 (by decide), fun h => ?_⟩
  exact (htypes ⟨"tag", "bytes0"⟩ (by decide)).1 h rfl

/-- An empty array has a type in the manifest, and the encoder refuses this type. -/
theorem bytes0_unsupported :
    tagEntry ∈ (Manifest.ofSource tagSource {}).entries ∧
      Token.parse (typeOf "[u8; 0]") "0x" = .error (.unsupportedType "bytes0") :=
  ⟨tagEntry_mem_entries, by decide +kernel⟩

end Abi

end StylusSurvey
