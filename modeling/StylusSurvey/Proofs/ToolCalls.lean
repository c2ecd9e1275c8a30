import StylusSurvey.Proofs.Documents
import StylusSurvey.Tool

/-!
# Calls of tools

A tool looks at the members of its input under its own keys and at nothing else, so two inputs
that agree under these keys give the same result or the same error (`Tool.call_eq_of_filter_eq`).
A manifest that one tool writes is read by another as the manifest it was
(`Tool.apply_resolveIntent`), so calls can be chained without loss.
-/

namespace StylusSurvey

open Text

namespace Tool

variable {source query : Text} {options : ManifestOptions} {ms : List (Text × Json)}

/-- The keys under which a tool looks at its input. -/
def inputKeys : Tool → List Text
  | analyzeInkUsage => ["source_code"]
  | generateTests => ["source_code"]
  | generateManifest => ["source_code", "name", "description", "version"]
  | parseContract => ["source_code"]
  | resolveIntent => ["query", "manifest"]

/-- Every tool is known by its name. -/
theorem ofName?_name (tool : Tool) : ofName? tool.name = some tool := by
  cases tool <;> rfl

theorem call_name (tool : Tool) (input : Json) :
    call tool.name input = (tool.apply input).mapError (.invalidInput tool) := by
  rw [call, ofName?_name]

/-! ## Other keys -/

section Filter

variable {kept : Text → Bool}

/-- Only the source is read of the input of tools that work on one. -/
theorem readSource_filter (h : kept "source_code" = true) (ms : List (Text × Json)) :
    readSource (.object (ms.filter fun m => kept m.1)) = readSource (.object ms) := by
  have hdecode : sourceInput.decode (.object (ms.filter fun m => kept m.1)) =
      sourceInput.decode (.object ms) := by
    refine Shape.decode_object_filter ?_ _ ms
    exact List.forall_mem_singleton.2 h
  rw [readSource, readSource, hdecode]

/-- Only the source and the options are read of the input for a manifest. -/
theorem readManifestInput_filter (h : ∀ key ∈ generateManifest.inputKeys, kept key = true)
    (ms : List (Text × Json)) :
    readManifestInput (.object (ms.filter fun m => kept m.1)) = readManifestInput (.object ms) := by
  obtain ⟨hsource, hkeys⟩ := List.forall_mem_cons.1 h
  have hdecode : manifestInput.decode (.object (ms.filter fun m => kept m.1)) =
      manifestInput.decode (.object ms) := by
    refine Shape.decode_object_filter ?_ _ ms
    exact List.forall_mem_singleton.2 hsource
  have hoptions : ManifestOptions.shape.decode (.object (ms.filter fun m => kept m.1)) =
      ManifestOptions.shape.decode (.object ms) := by
    refine Shape.decode_object_filter ?_ _ ms
    exact hkeys
  have hread : (Documented.decode (.object (ms.filter fun m => kept m.1)) :
      Except Mismatch ManifestOptions) = Documented.decode (.object ms) :=
    congrArg (Except.map ManifestOptions.ofValue) hoptions
  simp only [readManifestInput, hdecode, hread]

/-- Only the query and the manifest are read of the input for an intent. -/
theorem readIntent_filter (h : ∀ key ∈ resolveIntent.inputKeys, kept key = true)
    (ms : List (Text × Json)) :
    readIntent (.object (ms.filter fun m => kept m.1)) = readIntent (.object ms) := by
  have hdecode : intentInput.decode (.object (ms.filter fun m => kept m.1)) =
      intentInput.decode (.object ms) := by
    refine Shape.decode_object_filter ?_ _ ms
    exact h
  rw [readIntent, readIntent, hdecode]

/-- The input of a tool says the same without the members under other keys. -/
theorem apply_filter {tool : Tool} (h : ∀ key ∈ tool.inputKeys, kept key = true)
    (ms : List (Text × Json)) :
    tool.apply (.object (ms.filter fun m => kept m.1)) = tool.apply (.object ms) := by
  cases tool with
  | analyzeInkUsage => rw [apply, apply, readSource_filter (h _ List.mem_cons_self)]
  | generateTests => rw [apply, apply, readSource_filter (h _ List.mem_cons_self)]
  | parseContract => rw [apply, apply, readSource_filter (h _ List.mem_cons_self)]
  | generateManifest => rw [apply, apply, readManifestInput_filter h]
  | resolveIntent => rw [apply, apply, readIntent_filter h]

/-- Inputs that agree under the keys of a tool give the same result or the same error. -/
theorem call_eq_of_filter_eq {tool : Tool} (h : ∀ key ∈ tool.inputKeys, kept key = true)
    {ms ms' : List (Text × Json)}
    (hms : (ms.filter fun m => kept m.1) = ms'.filter fun m => kept m.1) :
    call tool.name (.object ms) = call tool.name (.object ms') := by
  rw [call_name, call_name, ← apply_filter h ms, ← apply_filter h ms', hms]

end Filter

/-! ## Manifests passed on -/

/-- The member under a key is the text, or null or absent where there is none. -/
def GivesText (ms : List (Text × Json)) (key : Text) : Option Text → Prop
  | some t => ms.lookup key = some (.string t)
  | none => ms.lookup key = none ∨ ms.lookup key = some .null

/-- The members of an input from which a manifest is generated. -/
structure IsManifestInput (ms : List (Text × Json)) (source : Text) (options : ManifestOptions) :
    Prop where
  nodup : (ms.map (·.1)).Nodup
  source : ms.lookup ("source_code" : Text) = some (.string source)
  name : GivesText ms "name" options.name
  description : GivesText ms "description" options.description
  version : GivesText ms "version" options.version

/-- The members of an input with a request and the document of a manifest. -/
structure IsIntentInput (ms : List (Text × Json)) (query : Text) (manifest : Json) : Prop where
  nodup : (ms.map (·.1)).Nodup
  query : ms.lookup ("query" : Text) = some (.string query)
  manifest : ms.lookup ("manifest" : Text) = some manifest

/-- A text that may be null is given by its member, or by the lack of one. -/
theorem holds_nullable {key : Text} {more : Fields} {t : Option Text} {vs : more.Value}
    (h : GivesText ms key t) (hmore : more.Holds ms vs) :
    (Fields.nullable key .text more).Holds ms (t, vs) := by
  refine ⟨?_, hmore⟩
  cases t with
  | some t =>
    rw [GivesText] at h
    rw [h]
    rfl
  | none =>
    rcases h with h | h <;>
    · rw [h]
      rfl

theorem holds_required {key : Text} {s : Shape} {more : Fields} {j : Json} {v : s.Value}
    {vs : more.Value} (h : ms.lookup key = some j) (hj : s.decode j = .ok v)
    (hmore : more.Holds ms vs) : (Fields.required key s more).Holds ms (v, vs) := by
  refine ⟨?_, hmore⟩
  rw [h]
  exact hj

/-- The manifest is that of the source with the options. -/
theorem apply_generateManifest (h : IsManifestInput ms source options) :
    generateManifest.apply (.object ms) =
      .ok (Documented.encodeSorted (Manifest.ofSource source options)) := by
  have hsource : manifestInput.decode (.object ms) = .ok (source, ()) :=
    Shape.decode_object h.nodup (by decide) (holds_required h.source rfl trivial)
  have hoptions : ManifestOptions.shape.decode (.object ms) = .ok options.toValue :=
    Shape.decode_object h.nodup (by decide)
      (holds_nullable h.name (holds_nullable h.description (holds_nullable h.version trivial)))
  have hdecode : (Documented.decode (.object ms) : Except Mismatch ManifestOptions) =
      .ok options := by
    show (ManifestOptions.shape.decode (.object ms)).map ManifestOptions.ofValue = _
    rw [hoptions]
    rfl
  rw [apply, readManifestInput, hsource]
  show (Documented.decode (.object ms) >>= _) >>= _ = _
  rw [hdecode]
  rfl

/-- A request is resolved against the manifest whose document is given. -/
theorem apply_resolveIntent {m : Manifest}
    (h : IsIntentInput ms query (Documented.encodeSorted m)) :
    resolveIntent.apply (.object ms) =
      .ok (Documented.encodeSorted (Intent.resolveIn query (some m))) := by
  have hmanifest : Manifest.shape.decode (Documented.encodeSorted m) = .ok m.toValue :=
    Manifest.shape.decode_sorted Manifest.isDistinct_shape m.fits_toValue
  have hheld : Presence.nullable.decode Manifest.shape.decode (Documented.encodeSorted m) =
      .ok (some m.toValue) :=
    (Presence.decode_of_ne_null (Manifest.shape.encode_sorted_ne_null _) hmanifest).1
  have hfields : (Fields.nullable "manifest" Manifest.shape .none).Holds ms
      (some m.toValue, ()) := by
    refine ⟨?_, trivial⟩
    rw [h.manifest]
    exact hheld
  have hinput : intentInput.decode (.object ms) = .ok (query, some m.toValue, ()) :=
    Shape.decode_object h.nodup (by decide) (holds_required h.query rfl hfields)
  rw [apply, readIntent, hinput]
  show Except.ok (Documented.encodeSorted (Intent.resolveIn query
    ((some m.toValue).map Manifest.ofValue))) = _
  rw [Option.map_some, m.ofValue_toValue]

/-! ## Calls one after another -/

/-- The result of one call can be passed to the next as it is, and members under keys that a tool
does not know change nothing. -/
theorem transparent_calls :
    (∀ source options query ms, IsManifestInput ms source options →
      ∃ m, call "generate_agent_manifest" (.object ms) = .ok m ∧
        ∀ ms', IsIntentInput ms' query m → call "resolve_intent" (.object ms') =
          .ok (Documented.encodeSorted
            (Intent.resolveIn query (some (Manifest.ofSource source options))))) ∧
    ∀ (tool : Tool) (added : List Text) (ms ms' : List (Text × Json)),
      (∀ key ∈ added, key ∉ tool.inputKeys) →
      (ms.filter fun m => m.1 ∉ added) = ms'.filter (fun m => m.1 ∉ added) →
      call tool.name (.object ms) = call tool.name (.object ms') := by
  constructor
  · intro source options query ms h
    refine ⟨Documented.encodeSorted (Manifest.ofSource source options), ?_, fun ms' h' => ?_⟩
    · exact (call_name generateManifest _).trans (by rw [apply_generateManifest h]; rfl)
    · exact (call_name resolveIntent _).trans (by rw [apply_resolveIntent h']; rfl)
  · intro tool added ms ms' hadded hms
    have hkept : ∀ key ∈ tool.inputKeys, decide (key ∉ added) = true :=
      fun key hkey => decide_eq_true fun hmem => hadded key hmem hkey
    exact call_eq_of_filter_eq hkept hms

/-- A contract with one function of two numbers. -/
def ballotSource : Text :=
  unlines ["#[external]", "impl Ballot \x7b",
    "    pub fn vote(&mut self, proposal: u8, weight: U256) -> bool \x7b true \x7d", "\x7d"]

def ballotInput : List (Text × Json) :=
  [("name", .string "\"Ballot\""), ("source_code", .string ballotSource), ("version", .null)]

/-- Calls on a ballot, one on the result of the other, with a key that no tool reads. -/
theorem transparent_calls_ballot :
    IsManifestInput ballotInput ballotSource { name := some "\"Ballot\"" } ∧
      (∃ m, call "generate_agent_manifest" (.object ballotInput) = .ok m ∧
        call "resolve_intent" (.object [("manifest", m), ("query", .string "Vote 7, 9 times")]) =
          .ok (Documented.encodeSorted
            { matched := true
              functionName := some "vote"
              args := some ["7", "9"]
              calldata := some ("0x" ++ List.replicate 63 '0' ++ "7" ++
                List.replicate 63 '0' ++ "9") : Resolution })) ∧
      call "parse_contract" (.object (("query", .null) :: ballotInput)) =
        call "parse_contract" (.object ballotInput) := by
  have hinput : IsManifestInput ballotInput ballotSource { name := some "\"Ballot\"" } :=
    { nodup := by decide
      source := rfl
      name := rfl
      description := .inl rfl
      version := .inr rfl }
  have hresolved : Intent.resolveIn "Vote 7, 9 times"
      (some (Manifest.ofSource ballotSource { name := some "\"Ballot\"" })) =
        { matched := true
          functionName := some "vote"
          args := some ["7", "9"]
          calldata := some ("0x" ++ List.replicate 63 '0' ++ "7" ++
            List.replicate 63 '0' ++ "9") } := by
    decide +kernel
  refine ⟨hinput, ?_, ?_⟩
  · obtain ⟨m, hm, hresolve⟩ :=
      transparent_calls.1 ballotSource _ "Vote 7, 9 times" ballotInput hinput
    refine ⟨m, hm, ?_⟩
    rw [← hresolved]
    exact hresolve _ { nodup := by simp, query := rfl, manifest := rfl }
  · exact transparent_calls.2 parseContract ["query"] _ _ (by decide) rfl

end Tool

end StylusSurvey
