import StylusSurvey.Text.Word

/-!
# Declarations on a line

The recognisers for what a line declares: a public struct, a public function, a
marker in brackets, an `impl` header. Each looks at one line only.
-/

namespace StylusSurvey

namespace Declaration

open Text

/-- `pub`, blanks, a keyword and blanks in front; what follows them. -/
def afterPublic? (keyword s : Text) : Option Text := do
  let s ← after? "pub" s
  let s ← blanks? s
  let s ← after? keyword s
  blanks? s

/-- The name of the first public struct that the line declares. -/
def structName? (line : Text) : Option Text :=
  search (fun s => do
    let s ← afterPublic? "struct" s
    let (name, _) ← word? s
    pure name) line

/-- The line holds the beginning of a public function. -/
def isPublicFunction (line : Text) : Bool :=
  (search (afterPublic? "fn") line).isSome

/-- What follows an attribute `#[name]` in front of the line, whose name is one of `names`. -/
def afterAttribute? (names : List Text) (line : Text) : Option Text := do
  let s ← after? "#[" (trimStart line)
  names.findSome? fun name => after? (name ++ [']']) s

/-- What follows the marker of an externally callable region. -/
def afterMarker? (line : Text) : Option Text :=
  afterAttribute? ["external", "public"] line

/-- The line begins with the attribute of a storage struct. -/
def isStorageAttribute (line : Text) : Bool :=
  (afterAttribute? ["storage", "entrypoint"] line).isSome

/-- The text after a list of generic parameters, or the text itself where none begins. -/
def afterGenerics? (s : Text) : Option Text :=
  match trimStart s with
  | '<' :: t => (cutAt? '>' t).map (·.2)
  | _ => some s

/-- The line is the header of an `impl` block: the keyword, generic parameters or none, blanks and
a word. -/
def isImplHeader (line : Text) : Bool :=
  (do
    let s ← after? "impl" (trimStart line)
    let s ← afterGenerics? s
    let s ← blanks? s
    word? s).isSome

/-- The line may stand between a marker and its `impl` header: blank, a comment or an attribute. -/
def isPreamble (line : Text) : Bool :=
  let s := trimStart line
  s.isEmpty || startsWith "//" s || startsWith "#[" s

/-- The line opens a storage block. -/
def opensStorage (line : Text) : Bool :=
  (search (fun s => do
    let s ← after? "sol_storage!" s
    after? ['{'] (trimStart s)) line).isSome

end Declaration

end StylusSurvey
