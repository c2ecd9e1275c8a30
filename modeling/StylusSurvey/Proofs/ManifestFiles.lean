import StylusSurvey.Proofs.PrintedDocuments
import StylusSurvey.Proofs.Runs

/-!
# Manifests in files

What a manifest command emits can be kept in a file and given to an intent command. The bytes of
the file are read as the text that was emitted, the text as the manifest, and so the request is
resolved as it would be against the manifest itself (`Command.prints_intent_of_emitted`).
-/

namespace StylusSurvey

open Text

variable {w : Environment} {path text : Text}

/-- A manifest is read back from the text of its document. -/
theorem Manifest.read_documentText_manifest (m : Manifest) :
    Documented.read (documentText m) = .ok m :=
  Documented.read_documentText m.fits_toValue

namespace Command

/-- What a run for a manifest prints or writes is the document of the manifest. -/
theorem text_eq_of_manifest_emitted {file source : Text} {options : ManifestOptions}
    {output : Option Text} (hfile : w.read file = .ok source)
    (h : ((manifest file options output).run w).emitted? = some text) :
    text = documentText (Manifest.ofSource source options) := by
  obtain ⟨a, hanswer, rfl⟩ := exists_answer_of_emitted h
  rw [answer, hfile] at hanswer
  rw [← Except.ok.inj hanswer]

/-- A request is resolved against the manifest that a file holds. -/
theorem answer_intent_of_holds {m : Manifest} (h : w.Holds path (documentText m)) (query : Text)
    (format : OutputFormat) :
    (intent query path format).answer w =
      (rendered "intent" (Intent.resolve query m).outline
        (documentText (Intent.resolve query m)) format).map fun text => { text } := by
  rw [answer, h.read_eq]
  show ((Documented.read (documentText m)).mapError _ >>= _) = _
  rw [m.read_documentText_manifest]
  cases format <;> rfl

/-! ## Requests against an emitted manifest -/

/-- A request is answered from the file that holds an emitted manifest as from the manifest. -/
theorem prints_intent_of_emitted {w w' : Environment} {file source path text : Text}
    {options : ManifestOptions} {output : Option Text} (hfile : w.read file = .ok source)
    (hemitted : ((manifest file options output).run w).emitted? = some text)
    (hpath : w'.Holds path text) (query : Text) :
    let r := Intent.resolve query (Manifest.ofSource source options)
    w'.Prints (intent query path .human) r.outline ∧
      w'.Prints (intent query path .json) (documentText r) := by
  rw [text_eq_of_manifest_emitted hfile hemitted] at hpath
  exact ⟨Environment.prints_of_answer (answer_intent_of_holds hpath query .human) rfl,
    Environment.prints_of_answer (answer_intent_of_holds hpath query .json) rfl⟩

/-- A contract with a setter, the name of whose manifest needs every kind of escape. -/
def counterSource : Text :=
  unlines ["#[public]", "impl Counter \x7b",
    "    pub fn set_number(&mut self, number: U256) \x7b", "        self.number.set(number)",
    "    \x7d", "\x7d"]

def counterOptions : ManifestOptions where
  name := some "\"C\\\u0001\n\u007f\u00e9"
  version := some []

/-- The manifest of a counter, read back and asked to set its number. -/
theorem prints_intent_of_emitted_counter :
    let text := documentText (Manifest.ofSource counterSource counterOptions)
    (Environment.ofText counterSource).read "counter.rs" = .ok counterSource ∧
      ((manifest "counter.rs" counterOptions none).run (Environment.ofText counterSource)).emitted? =
        some text ∧
      (Environment.ofText text).Holds "agent.json" text ∧
      (Environment.ofText text).Prints (intent "set the number to 42" "agent.json" .human)
        ("Function: set_number\nArgs: [42]\nCalldata: 0x" ++ List.replicate 62 '0' ++ "2a\n") := by
  have hcounter : (Environment.ofText counterSource).read "counter.rs" = .ok counterSource :=
    Environment.Holds.read_eq (by rw [Environment.Holds, if_neg (by decide)]; rfl)
  have hemitted : ((manifest "counter.rs" counterOptions none).run
      (Environment.ofText counterSource)).emitted? =
        some (documentText (Manifest.ofSource counterSource counterOptions)) := by
    rw [run, answer, hcounter]
    rfl
  have hagent (text : Text) : (Environment.ofText text).Holds "agent.json" text := by
    rw [Environment.Holds, if_neg (by decide)]
    rfl
  have hresolved : (Intent.resolve "set the number to 42"
      (Manifest.ofSource counterSource counterOptions)).outline =
        "Function: set_number\nArgs: [42]\nCalldata: 0x" ++ List.replicate 62 '0' ++ "2a\n" := by
    decide +kernel
  refine ⟨hcounter, hemitted, hagent _, ?_⟩
  rw [← hresolved]
  exact (prints_intent_of_emitted hcounter hemitted (hagent _) "set the number to 42").1

end Command

end StylusSurvey
