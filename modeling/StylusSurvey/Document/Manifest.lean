import StylusSurvey.Document.Contract
import StylusSurvey.Manifest.Intent

/-!
# Manifests and resolutions as documents
-/

namespace StylusSurvey

namespace Mutability

/-- The shape of a mutability. -/
def shape : Shape :=
  .choice (all.map name)

/-- What the document of a mutability says. -/
def toValue : Mutability → shape.Value
  | nonpayable => (0 : Fin 4)
  | view => (1 : Fin 4)
  | payable => (2 : Fin 4)
  | pure => (3 : Fin 4)

/-- The mutability of which a document speaks. -/
def ofValue : shape.Value → Mutability :=
  fun (i : Fin 4) =>
    match i with
    | 0 => nonpayable
    | 1 => view
    | 2 => payable
    | 3 => pure

end Mutability

instance : Documented Mutability where
  shape := Mutability.shape
  toValue := Mutability.toValue
  ofValue := Mutability.ofValue

namespace ManifestEntry

/-- The shape of the description of a function. -/
def shape : Shape :=
  .record "ManifestFunction"
    (.required "name" .text
      (.required "description" .text
        (.required "inputs" (.list (paramShape "AbiParam"))
          (.required "outputs" (.list (paramShape "AbiParam"))
            (.required "stateMutability" Mutability.shape .none)))))

/-- What the document of an entry says. -/
def toValue (e : ManifestEntry) : shape.Value :=
  (e.name, e.description, e.inputs.map Param.toValue, e.outputs.map Param.toValue,
    e.mutability.toValue, ())

/-- The entry of which a document speaks. -/
def ofValue : shape.Value → ManifestEntry
  | (name, description, inputs, outputs, mutability, ()) =>
    { name
      description
      inputs := inputs.map Param.ofValue
      outputs := outputs.map Param.ofValue
      mutability := Mutability.ofValue mutability }

end ManifestEntry

instance : Documented ManifestEntry where
  shape := ManifestEntry.shape
  toValue := ManifestEntry.toValue
  ofValue := ManifestEntry.ofValue

namespace Manifest

/-- The shape of a manifest. -/
def shape : Shape :=
  .record "AgentManifest"
    (.required "schema" .text
      (.required "name" .text
        (.required "description" .text
          (.required "version" .text
            (.required "abi" (.list ManifestEntry.shape) .none)))))

/-- What the document of a manifest says. -/
def toValue (m : Manifest) : shape.Value :=
  (m.schema, m.name, m.description, m.version, m.entries.map ManifestEntry.toValue, ())

/-- The manifest of which a document speaks. -/
def ofValue : shape.Value → Manifest
  | (schema, name, description, version, entries, ()) =>
    { schema, name, description, version, entries := entries.map ManifestEntry.ofValue }

end Manifest

instance : Documented Manifest where
  shape := Manifest.shape
  toValue := Manifest.toValue
  ofValue := Manifest.ofValue

namespace ManifestOptions

/-- The fields of manifest options. -/
def fields : Fields :=
  .nullable "name" .text (.nullable "description" .text (.nullable "version" .text .none))

/-- The shape of manifest options. -/
def shape : Shape :=
  .record "ManifestOptions" fields

/-- What the document of manifest options says. -/
def toValue (o : ManifestOptions) : shape.Value :=
  (o.name, o.description, o.version, ())

/-- The manifest options of which a document speaks. -/
def ofValue : shape.Value → ManifestOptions
  | (name, description, version, ()) => { name, description, version }

end ManifestOptions

instance : Documented ManifestOptions where
  shape := ManifestOptions.shape
  toValue := ManifestOptions.toValue
  ofValue := ManifestOptions.ofValue

namespace Resolution

/-- The shape of a resolution. -/
def shape : Shape :=
  .record "IntentResult"
    (.required "matched" .flag
      (.omissible "functionName" .text
        (.omissible "args" (.list .text) (.omissible "calldata" .text .none))))

/-- What the document of a resolution says. -/
def toValue (r : Resolution) : shape.Value :=
  (r.matched, r.functionName, r.args, r.calldata, ())

/-- The resolution of which a document speaks. -/
def ofValue : shape.Value → Resolution
  | (matched, functionName, args, calldata, ()) => { matched, functionName, args, calldata }

end Resolution

instance : Documented Resolution where
  shape := Resolution.shape
  toValue := Resolution.toValue
  ofValue := Resolution.ofValue

end StylusSurvey
