import StylusSurvey.Proofs.Integers
import StylusSurvey.Proofs.Intents
import StylusSurvey.Proofs.Lines
import StylusSurvey.Proofs.Lowercase

/-!
# Calls by name

A function of a contract is called by writing its name and then one numeral for each input.
The numbers of such a request are looked for in the whole of it, so the digits of the name
come first: the arguments are as many of the runs of digits in the name, followed by the
numerals, as there are inputs. The numerals are the arguments exactly as written if the
name has no digit (`resolve_request`), and otherwise they are not: a request for `log2` of
7 encodes 2 (`resolve_log2`).
-/

namespace StylusSurvey

namespace Intent

open Text Abi

variable {name a type : Text} {types args numerals runs : List Text} {t : Token} {ts : List Token}

/-- The name of a function, and the numerals after it, each after a space. -/
def request (name : Text) (numerals : List Text) : Text :=
  name ++ numerals.flatMap fun n => ' ' :: n

/-- The words of the numbers, most significant byte first. -/
def wordsOf (numerals : List Text) : Bytes :=
  numerals.flatMap fun n => bigEndian wordSize (valueOfDigits n)

/-- A function of numbers is named, and there is one numeral for each of its inputs. -/
structure IsCall (f : ManifestEntry) (numerals : List Text) : Prop where
  word : ∀ c ∈ f.name, isWord c = true
  piece : ∃ p ∈ splitOn '_' f.name, p ≠ []
  inputs : f.inputs ≠ []
  types : ∀ p ∈ f.inputs, p.type = "uint256"
  arity : numerals.length = f.inputs.length
  numeral : ∀ n ∈ numerals, isNumeral n = true
  value : ∀ n ∈ numerals, valueOfDigits n < 2 ^ 256

@[simp] theorem request_nil : request name [] = name := List.append_nil _

theorem request_cons (name n : Text) (numerals : List Text) :
    request name (n :: numerals) = name ++ ' ' :: request n numerals := by
  rw [request, List.flatMap_cons, List.cons_append]
  rfl

/-! ## Numerals -/

theorem digitRuns_of_isNumeral (h : isNumeral a = true) : digitRuns a = [a] := by
  obtain ⟨hne, hdigits⟩ := isNumeral_iff.1 h
  have happend := digitRuns_append_run (t := []) hne hdigits (by simp)
  rwa [List.append_nil] at happend

theorem DigitRuns.isNumeral {s : Text} (h : DigitRuns s runs) :
    ∀ run ∈ runs, isNumeral run = true := by
  induction h with
  | none => simp
  | run gap hgap hne hrun hend hrest ih =>
    exact List.forall_mem_cons.2 ⟨isNumeral_iff.2 ⟨hne, hrun⟩, ih⟩

/-! ## Values -/

/-- The value that a numeral is read as. -/
def uintOf (a : Text) : Token :=
  .uint (BitVec.ofNat 256 (valueOfDigits a))

/-- A numeral is a value of the widest type exactly if it fits in a word. -/
theorem parse_uint256_eq_ok_iff (h : isNumeral a = true) :
    Token.parse "uint256" a = .ok t ↔ valueOfDigits a < 2 ^ 256 ∧ uintOf a = t := by
  have hname : (ElementaryType.uint 256).Names (trim "uint256") := .full (.uint 256)
  have hparse : Token.parse "uint256" a = Token.parseUint "uint256" 256 (trim a) :=
    Token.parse_of_names hname ⟨by decide, by decide, rfl⟩
  rw [hparse, trim_of_isNumeral h, Token.parseUint_eq_iff le_rfl]
  constructor
  · intro hread
    cases hread with
    | @within n w hs hn hw =>
      obtain ⟨-, rfl⟩ := denotes_iff.1 hs
      refine ⟨hn, congrArg Token.uint (BitVec.eq_of_toNat_eq ?_)⟩
      rw [BitVec.toNat_ofNat, Nat.mod_eq_of_lt hn, hw]
  · rintro ⟨hlt, rfl⟩
    refine .within (denotes_valueOfDigits h) hlt ?_
    rw [BitVec.toNat_ofNat, Nat.mod_eq_of_lt hlt]

theorem map_parse_uint256_eq_iff (h : ∀ a ∈ args, isNumeral a = true) :
    args.map (Token.parse "uint256") = ts.map .ok ↔
      (∀ a ∈ args, valueOfDigits a < 2 ^ 256) ∧ args.map uintOf = ts := by
  induction args generalizing ts with
  | nil => cases ts <;> simp
  | cons a args ih =>
    obtain ⟨ha, hargs⟩ := List.forall_mem_cons.1 h
    cases ts with
    | nil => simp
    | cons t ts =>
      rw [List.map_cons, List.map_cons, List.map_cons, List.cons.injEq, List.cons.injEq,
        parse_uint256_eq_ok_iff ha, ih hargs, List.forall_mem_cons, and_and_and_comm]

theorem values_length_self (args : List Text) : values args.length args = args := by
  induction args with
  | nil => rfl
  | cons a args ih => rw [List.length_cons, values, ih]

/-- Arguments of unsigned words are parsed exactly if each numeral fits in one. -/
theorem parsed_uint256_iff (htypes : ∀ type ∈ types, type = "uint256")
    (hlen : args.length = types.length) (h : ∀ a ∈ args, isNumeral a = true) :
    Parsed types args ts ↔ (∀ a ∈ args, valueOfDigits a < 2 ^ 256) ∧ args.map uintOf = ts := by
  have hsnd : (types.zip args).map (·.2) = args := List.map_snd_zip (Nat.le_of_eq hlen)
  have hparse : (types.zip args).map (fun arg => Token.parse arg.1 arg.2) =
      args.map (Token.parse "uint256") := by
    conv_rhs => rw [← hsnd, List.map_map]
    refine List.map_congr_left fun arg harg => ?_
    rw [htypes arg.1 (List.of_mem_zip harg).1]
    rfl
  rw [parsed_iff, ← hlen, values_length_self, hparse, map_parse_uint256_eq_iff h]

/-- Unsigned words are encoded one behind the other, without offsets. -/
theorem heads_map_uintOf (offset : Nat) (h : ∀ a ∈ args, valueOfDigits a < 2 ^ 256) :
    Token.heads offset (args.map uintOf) = wordsOf args := by
  induction args generalizing offset with
  | nil => rfl
  | cons a args ih =>
    obtain ⟨ha, hargs⟩ := List.forall_mem_cons.1 h
    have hword : (uintOf a).staticWord = bigEndian wordSize (valueOfDigits a) := by
      rw [uintOf, Token.staticWord, Word.bytes, BitVec.toNat_ofNat, Nat.mod_eq_of_lt ha]
    rw [List.map_cons, Token.heads, ih _ hargs, hword]
    rfl

/-- Numbers have no tails. -/
theorem encode_map_uintOf (h : ∀ a ∈ args, valueOfDigits a < 2 ^ 256) :
    Token.encode (args.map uintOf) = wordsOf args := by
  have htails : (args.map uintOf).flatMap Token.tail = [] := by
    rw [List.flatMap_map]
    exact List.flatMap_eq_nil_iff.2 fun a _ => rfl
  rw [Token.encode, heads_map_uintOf _ h, htails, List.append_nil]

/-- The calldata for numbers is their words, if each fits in one. -/
theorem calldata_uint256 (htypes : ∀ type ∈ types, type = "uint256") (hne : types ≠ [])
    (hlen : args.length = types.length) (h : ∀ a ∈ args, isNumeral a = true) :
    calldata types args = if ∀ a ∈ args, valueOfDigits a < 2 ^ 256 then
      some (hexMarked (wordsOf args)) else none := by
  split_ifs with hvalues
  · have hargs : args ≠ [] := by
      rintro rfl
      exact hne (List.length_eq_zero_iff.1 hlen.symm)
    refine calldata_eq_some_iff.2 ⟨hne, hargs, args.map uintOf, ?_, ?_⟩
    · exact (parsed_uint256_iff htypes hlen h).2 ⟨hvalues, rfl⟩
    · rw [encode_map_uintOf hvalues]
  · rw [Option.eq_none_iff_forall_ne_some]
    intro data hdata
    obtain ⟨-, -, ts, hts, -⟩ := calldata_eq_some_iff.1 hdata
    exact hvalues ((parsed_uint256_iff htypes hlen h).1 hts).1

/-! ## The request -/

/-- The digits of a request are those in the name and then the numerals. -/
theorem digitRuns_request (h : ∀ n ∈ numerals, isNumeral n = true) :
    digitRuns (request name numerals) = digitRuns name ++ numerals := by
  induction numerals generalizing name with
  | nil => rw [request_nil, List.append_nil]
  | cons n numerals ih =>
    obtain ⟨hn, hnumerals⟩ := List.forall_mem_cons.1 h
    rw [request_cons, digitRuns_append_cons (by decide), ih hnumerals, digitRuns_of_isNumeral hn,
      List.singleton_append]

theorem trim_request (hname : trim name = name) (hne : name ≠ [])
    (h : ∀ n ∈ numerals, isNumeral n = true) :
    trim (request name numerals) = request name numerals := by
  induction numerals generalizing name with
  | nil => rwa [request_nil]
  | cons n numerals ih =>
    obtain ⟨hn, hnumerals⟩ := List.forall_mem_cons.1 h
    have hnne : n ≠ [] := (isNumeral_iff.1 hn).1
    have hrest : trim (request n numerals) = request n numerals :=
      ih (trim_of_isNumeral hn) hnne hnumerals
    have hrestne : request n numerals ≠ [] := List.append_ne_nil_of_left_ne_nil hnne _
    have hall := trim_append_append (t := [' ']) hname hne hrest hrestne
    rwa [request_cons, ← List.singleton_append, ← List.append_assoc]

theorem isCaseless_of_mem_request (hname : ∀ c ∈ name, isCaseless c = true)
    (h : ∀ n ∈ numerals, isNumeral n = true) :
    ∀ c ∈ request name numerals, isCaseless c = true := by
  induction numerals generalizing name with
  | nil => rwa [request_nil]
  | cons n numerals ih =>
    obtain ⟨hn, hnumerals⟩ := List.forall_mem_cons.1 h
    have hdigits : ∀ c ∈ n, isCaseless c = true :=
      fun c hc => isCaseless_of_isDigit ((isNumeral_iff.1 hn).2 c hc)
    rw [request_cons, List.forall_mem_append, List.forall_mem_cons]
    exact ⟨hname, by decide, ih hdigits hnumerals⟩

/-- Only the name of a request has case. -/
theorem lowercase_request (h : ∀ n ∈ numerals, isNumeral n = true) :
    lowercase (request name numerals) = request (lowercase name) numerals := by
  cases numerals with
  | nil => rw [request_nil, request_nil]
  | cons n numerals =>
    have hcaseless : ∀ c ∈ ' ' :: request n numerals, isCaseless c = true :=
      @isCaseless_of_mem_request [] (n :: numerals) (by simp) h
    rw [request_cons, lowercase, lowerAfter_append_space,
      lowerAfter_of_forall_isCaseless hcaseless, request_cons, lowercase]

theorem isBlank_eq_false_of_mem_lowercase (hword : ∀ c ∈ name, isWord c = true) :
    ∀ c ∈ lowercase name, isBlank c = false := by
  intro c hc
  rw [Bool.eq_false_iff]
  intro hblank
  have hcaseless : isCaseless c = true := by rw [isCaseless, hblank, Bool.or_true]
  have hmem : c ∈ name := mem_of_mem_lowerAfter hcaseless hc
  rw [isBlank_eq_false_of_isWord (hword c hmem)] at hblank
  cases hblank

theorem exists_piece_lowercase (h : ∃ p ∈ splitOn '_' name, p ≠ []) :
    ∃ p ∈ splitOn '_' (lowercase name), p ≠ [] := by
  rw [exists_mem_splitOn_ne_nil] at h ⊢
  obtain ⟨c, hc, hne⟩ := h
  obtain ⟨d, hd, hcase⟩ := exists_mem_lowerAfter hc
  refine ⟨d, hd, ?_⟩
  rintro rfl
  rcases hcase with rfl | hcase
  · exact hne rfl
  · exact absurd hcase (by decide)

/-! ## The outcome of a call -/

/-- The resolution of a call with the numerals as arguments. -/
def callResolution (name : Text) (args : List Text) : Resolution where
  matched := true
  functionName := some name
  args := some args
  calldata :=
    if ∀ a ∈ args, valueOfDigits a < 2 ^ 256 then some (hexMarked (wordsOf args)) else none

variable {f : ManifestEntry} {m : Manifest} {rest : List ManifestEntry}

/-- The normal form of a request has the name in small letters and the numerals as they are. -/
theorem normalized_request (h : IsCall f numerals) :
    normalized (request f.name numerals) = request (lowercase f.name) numerals := by
  have htrim : trim (lowercase f.name) = lowercase f.name :=
    trim_of_forall_not_blank (isBlank_eq_false_of_mem_lowercase h.word)
  have hne : lowercase f.name ≠ [] := by
    obtain ⟨p, hp, hpne⟩ := exists_piece_lowercase h.piece
    exact fun hnil => hpne (List.infix_nil.1 (hnil ▸ infix_of_mem_splitOn hp))
  rw [normalized, lowercase_request h.numeral, trim_request htrim hne h.numeral]

/-- A request mentions the function whose name it begins with. -/
theorem mentions_request (h : IsCall f numerals) :
    Mentions (normalized (request f.name numerals)) f.name := by
  obtain ⟨p, hp, hne⟩ := exists_piece_lowercase h.piece
  refine ⟨p, hp, hne, (infix_of_mem_splitOn hp).trans ?_⟩
  rw [normalized_request h]
  exact (List.prefix_append _ _).isInfix

/-- The arguments of a call are the first numbers of its name and its numerals. -/
theorem resolve_request_eq (h : IsCall f numerals) (hm : m.entries = f :: rest) :
    resolve (request f.name numerals) m =
      callResolution f.name ((digitRuns f.name ++ numerals).take f.inputs.length) := by
  have hfirst : m.entries = [] ++ f :: rest := hm
  have htypes : ∀ type ∈ f.inputs.map Param.type, type = ("uint256" : Text) := by
    intro type htype
    obtain ⟨p, hp, rfl⟩ := List.mem_map.1 htype
    exact h.types p hp
  have hinputs : f.inputs.map Param.type ≠ [] := by simpa using h.inputs
  have hlen : ((digitRuns f.name ++ numerals).take f.inputs.length).length =
      (f.inputs.map Param.type).length := by
    have harity := h.arity
    rw [List.length_take, List.length_append, List.length_map]
    omega
  have hargs : ∀ a ∈ (digitRuns f.name ++ numerals).take f.inputs.length,
      isNumeral a = true := by
    intro a ha
    rcases List.mem_append.1 (List.mem_of_mem_take ha) with ha | ha
    · exact (digitRuns_eq_iff.1 rfl).isNumeral a ha
    · exact h.numeral a ha
  rw [resolve_of_first hfirst (by simp) (mentions_request h), resolution, normalized_request h,
    digitRuns_request h.numeral, digitRuns_lowercase]
  simp only [calldata_uint256 htypes hinputs hlen hargs]
  rfl

/-- A call by name means the function, with the first of the numbers in its name and behind it as
arguments, and with exactly the numerals as arguments if there are no digits in its name. -/
theorem resolve_request (h : IsCall f numerals) (hm : m.entries = f :: rest) :
    (∀ runs, DigitRuns f.name runs → resolve (request f.name numerals) m =
      callResolution f.name ((runs ++ numerals).take f.inputs.length)) ∧
    ((∀ c ∈ f.name, c.isDigit = false) → resolve (request f.name numerals) m =
      { matched := true, functionName := some f.name, args := some numerals,
        calldata := some (hexMarked (wordsOf numerals)) }) := by
  have hruns : ∀ runs, DigitRuns f.name runs → resolve (request f.name numerals) m =
      callResolution f.name ((runs ++ numerals).take f.inputs.length) := by
    intro runs hruns
    rw [resolve_request_eq h hm, digitRuns_eq_iff.2 hruns]
  refine ⟨hruns, fun hdigits => ?_⟩
  rw [hruns [] (.none hdigits), List.nil_append, ← h.arity, List.take_length, callResolution,
    if_pos h.value]

/-- A function of numbers. -/
def numberEntry (name : Text) (inputs : List Text) : ManifestEntry where
  name := name
  description := ""
  inputs := inputs.map fun input => { name := input, type := "uint256" }
  outputs := []
  mutability := .nonpayable

/-- A contract of one function of numbers. -/
def numberManifest (name : Text) (inputs : List Text) : Manifest where
  schema := Manifest.schemaName
  name := "Numbers"
  description := Manifest.defaultDescription "Numbers"
  version := Manifest.defaultVersion
  entries := [numberEntry name inputs]

/-- A call with two numbers, one of them with leading zeros. -/
theorem resolve_request_setPair :
    IsCall (numberEntry "Set_Pair" ["low", "high"]) ["7", "0019"] ∧
      resolve "Set_Pair 7 0019" (numberManifest "Set_Pair" ["low", "high"]) =
        { matched := true, functionName := some ("Set_Pair" : Text),
          args := some ["7", "0019"], calldata := some (hexMarked (wordsOf ["7", "0019"])) } := by
  have hcall : IsCall (numberEntry "Set_Pair" ["low", "high"]) ["7", "0019"] := {
    word := List.all_eq_true.1 (by decide)
    piece := ⟨"Set", by decide, by decide⟩
    inputs := by decide
    types := by decide
    arity := rfl
    numeral := by decide
    value := by decide }
  have hdigits : ("Set_Pair" : Text).any Char.isDigit = false := by decide
  exact ⟨hcall, (resolve_request hcall rfl).2 fun c hc =>
    Bool.eq_false_iff.2 (List.any_eq_false.1 hdigits c hc)⟩

/-- The digit of the name is taken for the argument, and the numeral that is given is not read. -/
theorem resolve_log2 :
    IsCall (numberEntry "log2" ["x"]) ["7"] ∧
      resolve "log2 7" (numberManifest "log2" ["x"]) =
        { matched := true, functionName := some ("log2" : Text), args := some ["2"],
          calldata := some (hexMarked (wordsOf ["2"])) } ∧
      wordsOf ["2"] ≠ wordsOf ["7"] := by
  refine ⟨?_, by decide +kernel, by decide +kernel⟩
  exact {
    word := List.all_eq_true.1 (by decide)
    piece := ⟨"log2", by decide, by decide⟩
    inputs := by decide
    types := by decide
    arity := rfl
    numeral := by decide
    value := by decide }

end Intent

end StylusSurvey
