import StylusSurvey.Document.Decode
import StylusSurvey.Json.Reader.Value

/-!
# Documents from texts

What a text says as a document of a shape. The text is read once from left to
right, so the first thing wrong in it is what is reported, be it a value of a
wrong type or an error of JSON. A field given twice is refused. What is only
found out at the end of a record is placed behind its closing bracket.
-/

namespace StylusSurvey

namespace Json

namespace Reader

/-- Fail before the next character with a mismatch. -/
def mismatch {α : Type} (m : Mismatch) : Reader α :=
  failBefore (.mismatch m)

/-- The value that a mismatch wants, or failure before the next character. -/
def ofExcept {α : Type} : Except Mismatch α → Reader α
  | .ok v => pure v
  | .error m => mismatch m

/-- Read what stands where something else is expected. Of an array or an object only its first
character is looked at. -/
def found : Reader Found := do
  match ← peekToken with
  | none => failAt .endInValue
  | some c =>
    if c = 'n' then do skip; ident "ull"; pure .null
    else if c = 't' then do skip; ident "rue"; pure (.flag true)
    else if c = 'f' then do skip; ident "alse"; pure (.flag false)
    else if c = '-' ∨ c.isDigit then do
      let n ← number
      pure (.number n)
    else if c = '"' then do
      skip
      let s ← literal
      pure (.string s)
    else if c = '[' then pure .sequence
    else if c = '{' then pure .map
    else failAt .expectedValue

/-- Refuse what comes next. -/
def refuse {α : Type} (wanted : Text) : Reader α := do
  let f ← found
  mismatch (.type f wanted)

/-- Read a string. -/
def text (wanted : Text) : Reader Text := do
  match ← peekToken with
  | some '"' => do
    skip
    literal
  | _ => refuse wanted

/-- Read a truth value. -/
def flag : Reader Bool := do
  match ← peekToken with
  | some 't' => do
    skip
    ident "rue"
    pure true
  | some 'f' => do
    skip
    ident "alse"
    pure false
  | _ => refuse Shape.flag.wanted

/-- Read a number of at most 64 bits. -/
def count : Reader Nat := do
  match ← peekToken with
  | some c =>
    if c = '-' ∨ c.isDigit then do
      let n ← number
      ofExcept (Json.number n).count
    else refuse Shape.count.wanted
  | none => refuse Shape.count.wanted

/-- Read a null. -/
def unit : Reader Unit := do
  match ← peekToken with
  | some 'n' => do
    skip
    ident "ull"
  | _ => refuse "unit"

/-- Read the key that an object must have. -/
def onlyKey : Reader Text := do
  match ← peekToken with
  | none => failAt .endInObject
  | some '"' => do
    skip
    literal
  | some '}' => failAt .expectedValue
  | some _ => failAt .keyIsNoString

/-- Read one of several names, or an object with that name as its only key and the value null. -/
def variant (names : List Text) : Reader (Fin names.length) := do
  match ← peekToken with
  | none => failAt .endInValue
  | some '"' => do
    skip
    let name ← literal
    ofExcept (StylusSurvey.variant names name)
  | some '{' => do
    skip
    let name ← onlyKey
    let i ← ofExcept (StylusSurvey.variant names name)
    colon
    unit
    match ← peekToken with
    | some '}' => do
      skip
      pure i
    | some _ => failBefore .expectedValue
    | none => failBefore .endInObject
  | some _ => failAt .expectedValue

/-- Read what a field holds for which a value is given. -/
def held {α : Type} (r : Reader α) : (p : Presence) → Reader (p.Holds α)
  | .required => r
  | .nullable => optional r
  | .omissible => optional r
where
  /-- Read a value that may be null. -/
  optional (r : Reader α) : Reader (Option α) := do
    match ← peekToken with
    | some 'n' => do
      skip
      ident "ull"
      pure none
    | _ => do
      let v ← r
      pure (some v)

/-- Pass over the space before the end of an object, and over its brace. -/
def endObject : Reader Unit := do
  if (← peekToken) = some '}' then skip

end Reader

end Json

open Json (Reader)

mutual

/-- Read what a document of a shape says. -/
def Shape.reader : (s : Shape) → Reader s.Value
  | .text => Reader.text Shape.text.wanted
  | .flag => Reader.flag
  | .count => Reader.count
  | .choice names => Reader.variant names
  | .list item => do
    match ← Reader.peekToken with
    | some '[' => do
      Reader.skip
      let vs ← Reader.itemsToEnd item.reader
      Reader.closeArray
      pure vs
    | _ => Reader.refuse (Shape.list item).wanted
  | .record name fields => do
    match ← Reader.peekToken with
    | some '{' => do
      Reader.skip
      let known ← Reader.membersToEnd fields.memberReader fields.unknown
      Reader.closeObject
      Reader.ofExcept (fields.complete known)
    | some '[' => do
      Reader.skip
      let v ← fields.inOrderReader (recordOf name fields.keys.length) 0
      Reader.closeArray
      pure v
    | _ => Reader.refuse (Shape.record name fields).wanted

/-- Read the value of a member behind its key. -/
def Fields.memberReader : (fs : Fields) → fs.Known → Text → Reader fs.Known
  | .none, known, _ => do
    Reader.colon
    Reader.skipValue
    pure known
  | .field key p s more, (known, others), name =>
    if name = key then
      match known with
      | some _ => do
        Reader.endObject
        Reader.mismatch (.duplicateField key)
      | none => do
        Reader.colon
        let v ← Reader.held s.reader p
        pure (some v, others)
    else do
      let others ← more.memberReader others name
      pure (known, others)

/-- Read the fields that an array gives, of which `index` have been read, for a record described
as `wanted`. -/
def Fields.inOrderReader (wanted : Text) : (fs : Fields) → Nat → Reader fs.Value
  | .none, _ => pure ()
  | .field _ p s more, index => do
    if ← Reader.hasItem (index = 0) then
      let v ← Reader.held s.reader p
      let vs ← more.inOrderReader wanted (index + 1)
      pure (v, vs)
    else
      match p.absent? with
      | some v => do
        let vs ← more.inOrderReader wanted (index + 1)
        pure (v, vs)
      | none => do
        Reader.closeArray
        Reader.mismatch (.length index wanted)

end

namespace Documented

variable {α : Type} [Documented α]

/-- The value of which the document in a text speaks. -/
def read (source : Text) : Except Json.Failure α :=
  ((shape α).reader.run source).map ofValue

end Documented

end StylusSurvey
