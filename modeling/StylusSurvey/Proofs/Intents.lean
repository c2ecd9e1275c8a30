import StylusSurvey.Proofs.Digits
import StylusSurvey.Proofs.Texts
import StylusSurvey.Proofs.Values

/-!
# What a request means

The outcome of resolving a request, without the functions that compute it. A request means
the first entry of a manifest whose name it mentions (`Mentions`), its arguments are the
first maximal runs of digits in it, one for each input, and there is calldata exactly if
each input has a value that is read (`IsResolution`). The calldata is read back as these
values. The theorem `resolve_outcome` says that every request has this outcome, and that it
depends on no more of the manifest than the entry that is meant and those before it.
-/

namespace StylusSurvey

namespace Intent

open Text Abi

variable {query name data : Text} {types args runs : List Text} {ts : List Token} {m : Manifest}
  {before after : List ManifestEntry} {f : ManifestEntry}

/-! ## The entry that is meant -/

/-- A nonempty piece of the name in lower case, between underscores, stands in the request. -/
def Mentions (query name : Text) : Prop :=
  ∃ piece ∈ splitOn '_' (lowercase name), piece ≠ [] ∧ piece <:+: query

/-- The test for a name in a query finds the functions that the query mentions. -/
theorem names_iff_mentions : names query name = true ↔ Mentions query name := by
  simp only [names, pieces, List.any_eq_true, List.mem_filter, decide_eq_true_eq,
    occurs_iff_infix, and_assoc, Mentions]

theorem names_eq_false_iff : names query name = false ↔ ¬Mentions query name := by
  rw [← names_iff_mentions, Bool.not_eq_true]

/-- A request that mentions no entry means nothing. -/
theorem resolve_of_not_mentions
    (h : ∀ e ∈ m.entries, ¬Mentions (normalized query) e.name) :
    resolve query m = { matched := false } := by
  have hfind : m.entries.find? (fun e => names (normalized query) e.name) = none := by
    rw [List.find?_eq_none]
    intro e he
    rw [names_iff_mentions]
    exact h e he
  simp only [resolve, hfind]
  rfl

/-- A request means the first entry that it mentions. -/
theorem resolve_of_first (hm : m.entries = before ++ f :: after)
    (hbefore : ∀ e ∈ before, ¬Mentions (normalized query) e.name)
    (hf : Mentions (normalized query) f.name) :
    resolve query m = resolution (normalized query) f := by
  have hfind : m.entries.find? (fun e => names (normalized query) e.name) = some f := by
    rw [List.find?_eq_some_iff_append, names_iff_mentions]
    refine ⟨hf, before, after, hm, fun e he => ?_⟩
    rw [names_eq_false_iff.2 (hbefore e he)]
    rfl
  simp only [resolve, hfind]

/-! ## The values of the inputs -/

theorem length_values : ∀ (count : Nat) (args : List Text), (values count args).length = count
  | 0, _ => rfl
  | count + 1, [] => by rw [values, List.length_cons, length_values]
  | count + 1, _ :: args => by rw [values, List.length_cons, length_values]

/-- A parameter without a number in the query gets zero. -/
theorem getElem?_values : ∀ {count i : Nat} (args : List Text), i < count →
    (values count args)[i]? = some (args.getD i ['0'])
  | _ + 1, 0, [], _ => rfl
  | _ + 1, 0, _ :: _, _ => rfl
  | count + 1, i + 1, [], h => by
    rw [values, List.getElem?_cons_succ, getElem?_values [] (Nat.lt_of_succ_lt_succ h)]
    rfl
  | count + 1, i + 1, _ :: args, h => by
    rw [values, List.getElem?_cons_succ, getElem?_values args (Nat.lt_of_succ_lt_succ h)]
    rfl

/-- Each token is read for the type in its place, from the argument there or else from a zero. -/
def Parsed (types args : List Text) (ts : List Token) : Prop :=
  ts.length = types.length ∧ ∀ (i : Nat) (type : Text), types[i]? = some type →
    ∃ t, ts[i]? = some t ∧ Token.parse type (args.getD i ['0']) = .ok t

theorem getElem?_zip_values (types args : List Text) (i : Nat) :
    (types.zip (values types.length args))[i]? =
      types[i]?.map fun type => (type, args.getD i ['0']) := by
  cases htype : types[i]? with
  | none =>
    rw [Option.map_none, List.getElem?_eq_none_iff, List.length_zip]
    exact Nat.le_trans (Nat.min_le_left _ _) (List.getElem?_eq_none_iff.1 htype)
  | some type =>
    have hi : i < types.length := (List.getElem?_eq_some_iff.1 htype).1
    rw [Option.map_some, List.getElem?_zip_eq_some]
    exact ⟨htype, getElem?_values args hi⟩

theorem parsed_iff : Parsed types args ts ↔
    (types.zip (values types.length args)).map (fun arg => Token.parse arg.1 arg.2) =
      ts.map .ok := by
  constructor
  · rintro ⟨hlen, hparse⟩
    refine List.ext_getElem? fun i => ?_
    rw [List.getElem?_map, getElem?_zip_values, List.getElem?_map]
    cases htype : types[i]? with
    | none =>
      have hts : ts[i]? = none := by
        rw [List.getElem?_eq_none_iff] at htype ⊢
        omega
      rw [hts]
      rfl
    | some type =>
      obtain ⟨t, ht, htoken⟩ := hparse i type htype
      rw [ht, Option.map_some, Option.map_some, Option.map_some, htoken]
  · intro h
    have hlen := congrArg List.length h
    rw [List.length_map, List.length_map, List.length_zip, length_values, Nat.min_self] at hlen
    refine ⟨hlen.symm, fun i type htype => ?_⟩
    have hi := congrArg (·[i]?) h
    simp only [List.getElem?_map, getElem?_zip_values, htype, Option.map_some] at hi
    obtain ⟨t, ht, htoken⟩ := Option.map_eq_some_iff.1 hi.symm
    exact ⟨t, ht, htoken.symm⟩

/-- There is calldata exactly if there are inputs, arguments, and values that are read, and it
is their encoding. -/
theorem calldata_eq_some_iff : calldata types args = some data ↔
    types ≠ [] ∧ args ≠ [] ∧ ∃ ts, Parsed types args ts ∧ hexMarked (Token.encode ts) = data := by
  have hencode (bs : Bytes) : encodeArgs types (values types.length args) = .ok bs ↔
      ∃ ts, Parsed types args ts ∧ Token.encode ts = bs := by
    simp only [encodeArgs_eq_ok_iff, length_values, parsed_iff, true_and]
  rw [calldata]
  constructor
  · intro h
    split at h
    case isTrue => cases h
    case isFalse hne =>
      split at h
      case h_1 bs hbs =>
        obtain ⟨ts, hts, rfl⟩ := (hencode bs).1 hbs
        exact ⟨fun htypes => hne (.inl htypes), fun hargs => hne (.inr hargs), ts, hts,
          Option.some.inj h⟩
      case h_2 => cases h
  · rintro ⟨htypes, hargs, ts, hts, rfl⟩
    rw [if_neg (not_or.2 ⟨htypes, hargs⟩), (hencode _).2 ⟨ts, hts, rfl⟩]

/-! ## The outcome -/

/-- The resolution of a request for an entry of the given name whose inputs have the given types,
with the given arguments. -/
structure IsResolution (name : Text) (types args : List Text) (r : Resolution) : Prop where
  matched : r.matched = true
  functionName : r.functionName = some name
  arguments : r.args = some args
  present : r.calldata.isSome = true ↔ types ≠ [] ∧ args ≠ [] ∧ ∃ ts, Parsed types args ts
  /-- Sizes are numbers of a machine, so calldata has fewer than `2 ^ 256` bytes. -/
  decoded : ∀ data, r.calldata = some data → ∃ digits bs ts,
    data = '0' :: 'x' :: digits ∧ (∀ c ∈ digits, c ∈ smallHexDigits) ∧
    ofHexDigits? digits = some bs ∧ Parsed types args ts ∧
    (bs.length < 2 ^ 256 → decodeAs? types bs = some ts)

/-- A query that matches a function has the resolution that the function calls for. -/
theorem isResolution_resolution :
    IsResolution f.name (f.inputs.map (·.type)) ((digitRuns query).take f.inputs.length)
      (resolution query f) where
  matched := rfl
  functionName := rfl
  arguments := rfl
  present := by
    rw [Option.isSome_iff_exists, resolution]
    simp only [calldata_eq_some_iff]
    constructor
    · rintro ⟨data, htypes, hargs, ts, hts, -⟩
      exact ⟨htypes, hargs, ts, hts⟩
    · rintro ⟨htypes, hargs, ts, hts⟩
      exact ⟨_, htypes, hargs, ts, hts, rfl⟩
  decoded := by
    intro data hdata
    obtain ⟨-, -, ts, hts, rfl⟩ := calldata_eq_some_iff.1 hdata
    refine ⟨hex (Token.encode ts), Token.encode ts, ts, rfl,
      fun c hc => mem_smallHexDigits_of_mem_hex hc, ofHexDigits?_hex _, hts, fun hlen => ?_⟩
    have hdecode := decodeAs?_encode (parsed_iff.1 hts) hlen
    rwa [List.map_fst_zip (by rw [length_values])] at hdecode

/-- What a request means: nothing, if it mentions no entry, and else what it means for the first
entry that it mentions, whatever else the manifest says. -/
theorem resolve_outcome (query : Text) (m : Manifest) :
    ((∀ e ∈ m.entries, ¬Mentions (normalized query) e.name) →
      resolve query m =
        { matched := false, functionName := none, args := none, calldata := none }) ∧
    ∀ (before : List ManifestEntry) (f : ManifestEntry) (after : List ManifestEntry),
      m.entries = before ++ f :: after →
      (∀ e ∈ before, ¬Mentions (normalized query) e.name) →
      Mentions (normalized query) f.name →
      (∃ runs, DigitRuns (normalized query) runs ∧
        IsResolution f.name (f.inputs.map (·.type)) (runs.take f.inputs.length)
          (resolve query m)) ∧
      ∀ (m' : Manifest) (before' : List ManifestEntry) (f' : ManifestEntry)
        (after' : List ManifestEntry), m'.entries = before' ++ f' :: after' →
        (∀ e ∈ before', ¬Mentions (normalized query) e.name) →
        f'.name = f.name → f'.inputs.map (·.type) = f.inputs.map (·.type) →
        resolve query m' = resolve query m := by
  refine ⟨resolve_of_not_mentions, fun before f after hm hbefore hf => ?_⟩
  rw [resolve_of_first hm hbefore hf]
  refine ⟨⟨digitRuns (normalized query), digitRuns_eq_iff.1 rfl, isResolution_resolution⟩, ?_⟩
  intro m' before' f' after' hm' hbefore' hname htypes
  have hlen := congrArg List.length htypes
  rw [List.length_map, List.length_map] at hlen
  rw [resolve_of_first hm' hbefore' (hname ▸ hf), resolution, resolution, hname, htypes, hlen]

/-- A contract with a limit that is read and one that is set. -/
def limitManifest : Manifest where
  schema := Manifest.schemaName
  name := "Limit"
  description := Manifest.defaultDescription "Limit"
  version := Manifest.defaultVersion
  entries := [
    { name := "total_supply", description := "", inputs := [], outputs := [⟨"", "uint256"⟩],
      mutability := .view },
    { name := "set_limit", description := "",
      inputs := [⟨"limit", "uint8"⟩, ⟨"strict", "bool"⟩], outputs := [],
      mutability := .nonpayable }]

/-- A query that mentions no function, and one that sets a limit with one of two parameters. -/
theorem resolve_outcome_limitManifest :
    resolve "Is it done?" limitManifest = { matched := false } ∧
      ∃ runs, DigitRuns (normalized "Please SET it to 200.") runs ∧
        IsResolution "set_limit" ["uint8", "bool"] (runs.take 2)
          (resolve "Please SET it to 200." limitManifest) := by
  constructor
  · refine (resolve_outcome "Is it done?" limitManifest).1 fun e he => names_eq_false_iff.1 ?_
    have hall : ∀ e ∈ limitManifest.entries, names (normalized "Is it done?") e.name = false := by
      decide +kernel
    exact hall e he
  · refine ((resolve_outcome "Please SET it to 200." limitManifest).2
      [limitManifest.entries[0]] limitManifest.entries[1] [] rfl ?_ ?_).1
    · intro e he
      rw [List.mem_singleton.1 he]
      exact names_eq_false_iff.1 (by decide +kernel)
    · exact names_iff_mentions.1 (by decide +kernel)

end Intent

end StylusSurvey
