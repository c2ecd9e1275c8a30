import StylusSurvey.Manifest.Intent
import StylusSurvey.Text.Numeral

/-!
# Outlines

A contract and the meaning of a request as text for a reader.
-/

namespace StylusSurvey

open Text

namespace Contract

/-- The line for a storage field. -/
def fieldLine (f : StorageField) : Text :=
  "  " ++ padLeft 4 (numeral f.line) ++ "  " ++ f.type ++ " " ++ f.name ++ "\n"

/-- How a function takes the contract. -/
def receiver (f : EntryPoint) : Text :=
  if f.mutates then "&mut self" else "&self"

/-- The line for a function. -/
def functionLine (f : EntryPoint) : Text :=
  "  " ++ padLeft 4 (numeral f.line) ++ "  fn " ++ f.name ++ "(" ++
    List.intercalate [',', ' '] (receiver f :: f.params.map fun p => p.name ++ ": " ++ p.type) ++
    ") -> " ++ f.returnType ++ "\n"

/-- The contract as an outline of its fields and functions. -/
def outline (c : Contract) : Text :=
  "Contract: " ++ c.name ++ "\n\n" ++
    "Storage fields (" ++ numeral c.fields.length ++ "):\n" ++ c.fields.flatMap fieldLine ++
    "\nExternal functions (" ++ numeral c.functions.length ++ "):\n" ++
    c.functions.flatMap functionLine

end Contract

namespace Resolution

/-- The resolution of a request as text. -/
def outline (r : Resolution) : Text :=
  if !r.matched then "No matching function\n"
  else
    (match r.functionName with
      | some name => "Function: " ++ name ++ "\n"
      | none => []) ++
    (match r.args with
      | some args => "Args: [" ++ List.intercalate [',', ' '] args ++ "]\n"
      | none => []) ++
    "Calldata: " ++ r.calldata.getD "-" ++ "\n"

end Resolution

end StylusSurvey
