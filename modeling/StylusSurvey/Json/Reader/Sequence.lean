import StylusSurvey.Json.Reader.Literal

/-!
# Items and members

The items of an array and the members of an object, with the space, commas and
colons between them. Both readers take the reader of a single item or member as
an argument, so they serve values of every kind. The first argument bounds the
number of items; a text has no more items than characters.
-/

namespace StylusSurvey

namespace Json

namespace Reader

/-- Another item follows; if it does, what precedes it is read. -/
def hasItem (first : Bool) : Reader Bool := do
  match ← peekToken with
  | none => failAt .endInList
  | some c =>
    if c = ']' then pure false
    else if first then pure true
    else if c = ',' then do
      skip
      match ← peekToken with
      | none => failAt .endInValue
      | some d => if d = ']' then failAt .trailingComma else pure true
    else failAt .expectedCommaOrBracket

/-- Read items up to the closing bracket, which is left. -/
def items {α : Type} (item : Reader α) : Nat → Bool → Reader (List α)
  | 0, _ => pure []
  | bound + 1, first => do
    if ← hasItem first then
      let v ← item
      let vs ← items item bound false
      pure (v :: vs)
    else pure []

/-- Read the bracket that closes an array after its items. -/
def closeArray : Reader Unit := do
  match ← peekToken with
  | none => failAt .endInList
  | some c =>
    if c = ']' then skip
    else if c = ',' then do
      skip
      match ← peekToken with
      | some ']' => failAt .trailingComma
      | _ => failAt .trailingCharacters
    else failAt .trailingCharacters

/-- Read all items behind an opening bracket, up to the closing bracket. -/
def itemsToEnd {α : Type} (item : Reader α) : Reader (List α) := do
  let bound := (← get).length
  items item bound true

/-- Another member follows; if it does, what precedes its key is read. -/
def hasMember (first : Bool) : Reader Bool := do
  match ← peekToken with
  | none => failAt .endInObject
  | some c =>
    if c = '}' then pure false
    else if first then
      if c = '"' then pure true else failAt .keyIsNoString
    else if c = ',' then do
      skip
      match ← peekToken with
      | none => failAt .endInValue
      | some d =>
        if d = '"' then pure true
        else if d = '}' then failAt .trailingComma
        else failAt .keyIsNoString
    else failAt .expectedCommaOrBrace

/-- Read the key of a member. -/
def key : Reader Text := do
  skip
  literal

/-- Read the colon between a key and its value. -/
def colon : Reader Unit := do
  match ← peekToken with
  | none => failAt .endInObject
  | some c => if c = ':' then skip else failAt .expectedColon

/-- Read members up to the closing brace, which is left. What is known from the members before is
handed to the reader of a member, which is given its key. -/
def members {σ : Type} (member : σ → Text → Reader σ) : Nat → Bool → σ → Reader σ
  | 0, _, known => pure known
  | bound + 1, first, known => do
    if ← hasMember first then
      let name ← key
      let known ← member known name
      members member bound false known
    else pure known

/-- Read all members behind an opening brace, up to the closing brace. -/
def membersToEnd {σ : Type} (member : σ → Text → Reader σ) (known : σ) : Reader σ := do
  let bound := (← get).length
  members member bound true known

/-- Read the brace that closes an object after its members. -/
def closeObject : Reader Unit := do
  match ← peekToken with
  | none => failAt .endInObject
  | some c =>
    if c = '}' then skip
    else if c = ',' then failAt .trailingComma
    else failAt .trailingCharacters

end Reader

end Json

end StylusSurvey
