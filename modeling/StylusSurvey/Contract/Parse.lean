import StylusSurvey.Contract.Block
import StylusSurvey.Contract.Signature
import StylusSurvey.Contract.Storage

/-!
# From source to contract

Parsing never fails: a source that does not look like a contract gives empty
lists and a placeholder name.
-/

namespace StylusSurvey

namespace Contract

/-- The name of a contract whose storage struct cannot be found. -/
def unknownName : Text := "UnknownContract"

/-- The contract that a source describes. -/
def parse (source : Text) : Contract :=
  let layout := StorageLayout.ofSource source
  { name := layout.contractName.getD unknownName
    fields := layout.fields
    functions := (functionBlocks source).map fun b => EntryPoint.ofBlock b.text b.startLine }

end Contract

end StylusSurvey
