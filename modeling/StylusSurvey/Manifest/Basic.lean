import StylusSurvey.Abi.TypeMap
import StylusSurvey.Contract.Parse

/-!
# Agent manifests

A manifest describes a contract to an agent: a header and, for each function
that can be called from outside, its inputs and outputs in interface types.
-/

namespace StylusSurvey

/-- What a call does to the state. Manifests that are generated use the first two. -/
inductive Mutability where
  | nonpayable
  | view
  | payable
  | pure
deriving DecidableEq, Repr

/-- The description of a function. -/
structure ManifestEntry where
  name : Text
  description : Text
  inputs : List Param
  outputs : List Param
  mutability : Mutability
deriving DecidableEq, Repr

/-- The description of a contract. -/
structure Manifest where
  schema : Text
  name : Text
  description : Text
  version : Text
  entries : List ManifestEntry
deriving DecidableEq, Repr

/-- The parts of a manifest header that can be chosen. -/
structure ManifestOptions where
  name : Option Text := none
  description : Option Text := none
  version : Option Text := none
deriving DecidableEq, Repr

namespace Mutability

/-- The mutabilities, in the order in which their names are listed. -/
def all : List Mutability := [nonpayable, view, payable, pure]

/-- The mutability of a function. -/
def ofEntryPoint (f : EntryPoint) : Mutability :=
  if f.mutates then nonpayable else view

/-- The name of a mutability. -/
def name : Mutability → Text
  | nonpayable => "nonpayable"
  | view => "view"
  | payable => "payable"
  | pure => "pure"

end Mutability

namespace ManifestEntry

/-- The entry for a function of the contract of the given name. -/
def ofEntryPoint (contract : Text) (f : EntryPoint) : ManifestEntry where
  name := f.name
  description := "Calls " ++ f.name ++ " on the " ++ contract ++ " contract"
  inputs := f.params.map fun p => { p with type := Abi.typeOf p.type }
  outputs := Abi.outputsOf f.returnType
  mutability := Mutability.ofEntryPoint f

end ManifestEntry

namespace Manifest

/-- The schema that manifests follow. -/
def schemaName : Text := "erc-8004-v1"

/-- The version of a manifest for which none is chosen. -/
def defaultVersion : Text := "0.1.0"

/-- The description of a manifest for which none is chosen. -/
def defaultDescription (contract : Text) : Text :=
  "Agent manifest for the " ++ contract ++ " Stylus contract"

/-- The manifest of a contract. -/
def ofContract (c : Contract) (options : ManifestOptions) : Manifest where
  schema := schemaName
  name := options.name.getD c.name
  description := options.description.getD (defaultDescription c.name)
  version := options.version.getD defaultVersion
  entries := c.functions.map (ManifestEntry.ofEntryPoint c.name)

/-- The manifest of the contract that a source describes. -/
def ofSource (source : Text) (options : ManifestOptions) : Manifest :=
  ofContract (Contract.parse source) options

end Manifest

end StylusSurvey
