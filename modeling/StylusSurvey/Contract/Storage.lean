import StylusSurvey.Contract.Basic
import StylusSurvey.Contract.BraceDepth
import StylusSurvey.Contract.Declaration
import StylusSurvey.Text.Line

/-!
# Storage

The storage block of a source: it opens on the first line that announces it and
ends where its brace depth is back at zero, or with the source. Its fields are
the declarations on the lines after the first. The contract is named by the
first public struct of the block, or else by a struct under a storage attribute.
-/

namespace StylusSurvey

open Text Declaration

/-- What the storage block of a source declares. -/
structure StorageLayout where
  contractName : Option Text := none
  fields : List StorageField := []
deriving DecidableEq, Repr

namespace StorageLayout

/-- A word, blanks or none, and a semicolon in front: the word. -/
def declaredName? (s : Text) : Option Text := do
  let (name, s) ← word? s
  let _ ← after? [';'] (trimStart s)
  pure name

/-- The character may stand in the type of a field. -/
def isTypeChar (c : Char) : Bool :=
  isWord c || c = '<' || c = '>' || c = ',' || isBlank c

/-- The shortest type in front of the text that blanks and a declared name follow, and the name. -/
def typeAndName? : Text → Option (Text × Text)
  | [] => none
  | c :: s =>
    if isTypeChar c then
      match (blanks? s).bind declaredName? with
      | some name => some ([c], name)
      | none => (typeAndName? s).map fun (type, name) => (c :: type, name)
    else none

/-- The type and the name of the field that an indented line declares. One of three blanks before
a lone name counts as its type. -/
def declaration? (line : Text) : Option (Text × Text) :=
  match line.takeWhile isBlank with
  | [] => none
  | [_] | [_, _] => typeAndName? (trimStart line)
  | _ =>
    match typeAndName? (trimStart line) with
    | some d => some d
    | none => (declaredName? (trimStart line)).map fun name => ([' '], name)

/-- The field that line number `n` declares. -/
def fieldOn? (line : Text) (n : Nat) : Option StorageField :=
  (declaration? line).map fun (type, name) => { name, type := trim type, line := n }

/-- The layout that the lines from number `n` on declare, inside a block of the given depth whose
struct name may be known. The line that names the struct declares no field. -/
def inBlock (depth : BraceDepth) (name : Option Text) (n : Nat) : List Text → StorageLayout
  | [] => { contractName := name }
  | line :: rest =>
    let depth := depth.feed line
    let named := if name.isNone then structName? line else none
    let here := if named.isSome then [] else (fieldOn? line n).toList
    let name := name.or named
    if depth.isClosed then { contractName := name, fields := here }
    else
      let layout := inBlock depth name (n + 1) rest
      { layout with fields := here ++ layout.fields }

/-- The layout of the first storage block among the lines from number `n` on. -/
def ofLines (n : Nat) : List Text → StorageLayout
  | [] => {}
  | line :: rest =>
    if opensStorage line then
      let depth := BraceDepth.startingAt line
      if depth.depth ≤ 0 then { contractName := structName? line }
      else inBlock depth (structName? line) (n + 1) rest
    else ofLines (n + 1) rest

/-- The first public struct within two lines after a storage attribute. -/
def attributedName? : List Text → Option Text
  | [] => none
  | line :: rest =>
    match if isStorageAttribute line then (rest.take 2).findSome? structName? else none with
    | some name => some name
    | none => attributedName? rest

/-- The storage layout of a source. -/
def ofSource (source : Text) : StorageLayout :=
  let ls := lines source
  let layout := ofLines 1 ls
  { layout with contractName := layout.contractName.or (attributedName? ls) }

end StorageLayout

end StylusSurvey
