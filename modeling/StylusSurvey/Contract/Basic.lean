import StylusSurvey.Text.Basic

/-!
# Contracts

What a survey of a source text recovers: the name of the contract, the fields
of its storage block, and the functions that can be called from outside.
-/

namespace StylusSurvey

/-- A persistent field declared in the storage block. -/
structure StorageField where
  name : Text
  /-- The type as written in the block. -/
  type : Text
  /-- The source line, counted from one. -/
  line : Nat
deriving DecidableEq, Repr

/-- A parameter of a function, or an argument of a call: a name and a type. -/
structure Param where
  name : Text
  type : Text
deriving DecidableEq, Repr

/-- A function that can be called from outside the contract. -/
structure EntryPoint where
  name : Text
  params : List Param
  /-- The return type as written, `()` where there is none. -/
  returnType : Text
  /-- The function may change the storage. -/
  mutates : Bool
  /-- The first line of the signature, counted from one. -/
  line : Nat
  /-- The text between the outermost braces. -/
  body : Text
deriving DecidableEq, Repr

/-- A contract as recovered from its source. -/
structure Contract where
  name : Text
  fields : List StorageField
  functions : List EntryPoint
deriving DecidableEq, Repr

end StylusSurvey
