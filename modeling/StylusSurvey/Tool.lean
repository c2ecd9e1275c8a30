import StylusSurvey.Audit.Pattern
import StylusSurvey.Document.Audit
import StylusSurvey.Document.Decode
import StylusSurvey.Document.Encode
import StylusSurvey.Document.Manifest

/-!
# Tools

The surveys under fixed names, with JSON values as input and output. A tool is
called with an object of its parameters; the members of every object in a result
are in the order of their keys.
-/

namespace StylusSurvey

open Text

/-- A survey that can be called by name. -/
inductive Tool where
  | analyzeInkUsage
  | generateTests
  | generateManifest
  | parseContract
  | resolveIntent
deriving DecidableEq, Repr

namespace Tool

/-- The tools, in the order in which they are listed. -/
def all : List Tool :=
  [analyzeInkUsage, generateTests, generateManifest, parseContract, resolveIntent]

/-- The name under which a tool is called. -/
def name : Tool → Text
  | analyzeInkUsage => "analyze_ink_usage"
  | generateTests => "generate_motsu_tests"
  | generateManifest => "generate_agent_manifest"
  | parseContract => "parse_contract"
  | resolveIntent => "resolve_intent"

/-- What a tool does. -/
def description : Tool → Text
  | analyzeInkUsage => "Scan Stylus Rust source for patterns that waste Ink (gas)"
  | generateTests => "Generate Motsu framework unit tests for a Stylus Rust smart contract"
  | generateManifest =>
    "Generate an ERC-8004 agent manifest describing a Stylus contract's ABI"
  | parseContract => "Extract contract name, storage fields and external functions"
  | resolveIntent =>
    "Match a natural-language request to a manifest function and encode its arguments"

/-- The tool of a name. -/
def ofName? (name : Text) : Option Tool :=
  all.find? fun tool => tool.name = name

end Tool

/-- Why a tool gives no result. -/
inductive ToolError where
  | unknownTool (name : Text)
  | invalidInput (tool : Tool) (mismatch : Mismatch)
deriving DecidableEq, Repr

/-- The message of a tool error. -/
def ToolError.message : ToolError → Text
  | .unknownTool name => "Unknown tool: " ++ name
  | .invalidInput tool m => "invalid input for " ++ tool.name ++ ": " ++ m.message

namespace Tool

/-- The shape of an input that is a source. -/
def sourceInput : Shape :=
  .record "SourceInput" (.required "source_code" .text .none)

/-- The shape of an input that is a request and possibly a manifest. -/
def intentInput : Shape :=
  .record "IntentInput"
    (.required "query" .text (.nullable "manifest" Manifest.shape .none))

/-- The shape of the source in an input that has manifest options beside it. -/
def manifestInput : Shape :=
  .record "ManifestInput" (.required "source_code" .text .none)

/-- The source in an input. -/
def readSource (input : Json) : Except Mismatch Text := do
  let (source, ()) ← sourceInput.decode input
  pure source

/-- The request and the manifest in an input. -/
def readIntent (input : Json) : Except Mismatch (Text × Option Manifest) := do
  let (query, manifest, ()) ← intentInput.decode input
  pure (query, manifest.map Manifest.ofValue)

/-- The source and the manifest options in an input. They are members of one object, of which the
source is looked at first. -/
def readManifestInput (input : Json) : Except Mismatch (Text × ManifestOptions) :=
  match input with
  | .object _ => do
    let (source, ()) ← manifestInput.decode input
    let options ← Documented.decode input
    pure (source, options)
  | _ => input.refused manifestInput.wanted

/-- The result of a tool for an input. -/
def apply (input : Json) : Tool → Except Mismatch Json
  | analyzeInkUsage => do
    let source ← readSource input
    pure (Documented.encodeSorted (Audit.ofSource source))
  | generateTests => do
    let source ← readSource input
    pure (Documented.encodeSorted (TestModule.ofSource source))
  | generateManifest => do
    let (source, options) ← readManifestInput input
    pure (Documented.encodeSorted (Manifest.ofSource source options))
  | parseContract => do
    let source ← readSource input
    pure (Documented.encodeSorted (Contract.parse source))
  | resolveIntent => do
    let (query, manifest) ← readIntent input
    pure (Documented.encodeSorted (Intent.resolveIn query manifest))

/-- The result of calling the tool of a name. -/
def call (name : Text) (input : Json) : Except ToolError Json :=
  match ofName? name with
  | none => .error (.unknownTool name)
  | some tool => (tool.apply input).mapError (.invalidInput tool)

end Tool

end StylusSurvey
