import StylusSurvey.Abi.Encode
import StylusSurvey.Manifest.Basic
import StylusSurvey.Text.Hex
import StylusSurvey.Text.Lowercase

/-!
# Intents

A request in free words is resolved against a manifest. It means the first entry
of whose name a piece between underscores occurs in it, and its numbers are the
arguments. Case does not matter.
-/

namespace StylusSurvey

open Text

/-- What a request means. Without a match all the rest is absent. -/
structure Resolution where
  matched : Bool
  functionName : Option Text := none
  args : Option (List Text) := none
  /-- The encoded arguments in hexadecimal, without selector. -/
  calldata : Option Text := none
deriving DecidableEq, Repr

namespace Resolution

/-- The resolution of a request that matches nothing. -/
def unmatched : Resolution :=
  { matched := false }

end Resolution

namespace Intent

/-- The request as it is compared. -/
def normalized (query : Text) : Text :=
  trim (lowercase query)

/-- The nonempty pieces of a name in lower case. -/
def pieces (name : Text) : List Text :=
  (splitOn '_' (lowercase name)).filter (· ≠ [])

/-- A piece of the name occurs in the request. -/
def names (query name : Text) : Bool :=
  (pieces name).any fun piece => occurs piece query

/-- The runs of ASCII digits in a text, the first one following the digits `run`. -/
def digitRunsAfter (run : Text) : Text → List Text
  | [] => if run = [] then [] else [run]
  | c :: s =>
    if c.isDigit then digitRunsAfter (run ++ [c]) s
    else if run = [] then digitRunsAfter [] s
    else run :: digitRunsAfter [] s

/-- The runs of ASCII digits in a text. -/
def digitRuns (s : Text) : List Text :=
  digitRunsAfter [] s

/-- The values for as many inputs: the arguments, and zeros where there are none left. -/
def values : Nat → List Text → List Text
  | 0, _ => []
  | count + 1, [] => ['0'] :: values count []
  | count + 1, arg :: args => arg :: values count args

/-- The encoded arguments, if there are any and all are values of the types. -/
def calldata (types args : List Text) : Option Text :=
  if types = [] ∨ args = [] then none
  else
    match Abi.encodeArgs types (values types.length args) with
    | .ok data => some (hexMarked data)
    | .error _ => none

/-- The resolution of a request that means the entry. -/
def resolution (query : Text) (entry : ManifestEntry) : Resolution :=
  let args := (digitRuns query).take entry.inputs.length
  { matched := true
    functionName := some entry.name
    args := some args
    calldata := calldata (entry.inputs.map (·.type)) args }

/-- What a request means to a contract with the manifest. -/
def resolve (query : Text) (m : Manifest) : Resolution :=
  let query := normalized query
  match m.entries.find? fun entry => names query entry.name with
  | some entry => resolution query entry
  | none => Resolution.unmatched

/-- What a request means where there may be no manifest. -/
def resolveIn (query : Text) : Option Manifest → Resolution
  | some m => resolve query m
  | none => Resolution.unmatched

end Intent

end StylusSurvey
