import StylusSurvey.Document.Shape
import StylusSurvey.Json.Mismatch

/-!
# Documents from JSON values

What a JSON value says as a document of a shape. The members of an object are
visited in their order and unknown keys are passed over. The first member of a
wrong type is refused, and after all members the first field that is missing. An
array gives the fields in their order; fields that need not be given may be
missing at its end. One of several names may also be given as an object with that
name as its only key and the value null.
-/

namespace StylusSurvey

open Text

/-- The value is of a type other than the wanted one. -/
def Json.refused {α : Type} (v : Json) (wanted : Text) : Except Mismatch α :=
  .error (.type v.found wanted)

/-- The number of at most 64 bits that a value stands for. -/
def Json.count : Json → Except Mismatch Nat
  | .number (.natural n) =>
    if n ≤ maxSize then .ok n else .error (.value (.number (.natural n)) Shape.count.wanted)
  | .number (.negative n) => .error (.value (.number (.negative n)) Shape.count.wanted)
  | v => v.refused Shape.count.wanted

/-- The place of a name among the names. -/
def variant (names : List Text) (name : Text) : Except Mismatch (Fin names.length) :=
  match names.finIdxOf? name with
  | some i => .ok i
  | none => .error (.unknownVariant name names)

/-- The place of the name that a value stands for. -/
def Json.variant (names : List Text) : Json → Except Mismatch (Fin names.length)
  | .string name => StylusSurvey.variant names name
  | .object [(name, v)] => do
    let i ← StylusSurvey.variant names name
    match v with
    | .null => pure i
    | _ => v.refused "unit"
  | .object _ => .error (.value .map "map with a single key")
  | v => v.refused (Shape.choice names).wanted

/-- What a field holds for which a value is given. -/
def Presence.decode {α : Type} (read : Json → Except Mismatch α) (v : Json) :
    (p : Presence) → Except Mismatch (p.Holds α)
  | required => read v
  | nullable =>
    match v with
    | .null => .ok none
    | _ => (read v).map some
  | omissible =>
    match v with
    | .null => .ok none
    | _ => (read v).map some

/-- A record of the given number of fields, as the reader of a shorter array is told. -/
def recordOf (name : Text) (size : Nat) : Text :=
  "struct " ++ name ++ " with " ++ numeral size ++ (if size = 1 then " element" else " elements")

namespace Fields

/-- The fields of a record, once all members are known. -/
def complete : (fs : Fields) → fs.Known → Except Mismatch fs.Value
  | none, _ => .ok ()
  | field key p _ more, (v, vs) =>
    match v.or p.absent? with
    | some v => do
      let vs ← more.complete vs
      pure (v, vs)
    | Option.none => .error (.missingField key)

end Fields

mutual

/-- What a value says as a document of a shape. -/
def Shape.decode : (s : Shape) → Json → Except Mismatch s.Value
  | .text, v =>
    match v with
    | .string t => .ok t
    | _ => v.refused Shape.text.wanted
  | .flag, v =>
    match v with
    | .bool b => .ok b
    | _ => v.refused Shape.flag.wanted
  | .count, v => v.count
  | .choice names, v => v.variant names
  | .list item, v =>
    match v with
    | .array vs => vs.mapM item.decode
    | _ => v.refused (Shape.list item).wanted
  | .record name fields, v =>
    match v with
    | .object ms => do
      let known ← ms.foldlM (fun known m => fields.learn m.1 m.2 known) fields.unknown
      fields.complete known
    | .array vs => fields.inOrder (recordOf name fields.keys.length) vs.length 0 vs
    | _ => v.refused (Shape.record name fields).wanted

/-- What is known of the fields after a member more. -/
def Fields.learn : (fs : Fields) → Text → Json → fs.Known → Except Mismatch fs.Known
  | .none, _, _, known => .ok known
  | .field key p s more, name, v, (known, others) =>
    if name = key then do
      let held ← p.decode s.decode v
      pure (some held, others)
    else do
      let others ← more.learn name v others
      pure (known, others)

/-- The fields that an array of `total` items gives, of which `index` have been used, for a record
described as `wanted`. -/
def Fields.inOrder (wanted : Text) (total : Nat) :
    (fs : Fields) → Nat → List Json → Except Mismatch fs.Value
  | .none, _, [] => .ok ()
  | .none, _, _ :: _ => .error (.length total "fewer elements in array")
  | .field _ p s more, index, v :: vs => do
    let held ← p.decode s.decode v
    let others ← more.inOrder wanted total (index + 1) vs
    pure (held, others)
  | .field _ p _ more, index, [] =>
    match p.absent? with
    | some held => do
      let others ← more.inOrder wanted total (index + 1) []
      pure (held, others)
    | none => .error (.length index wanted)

end

namespace Documented

variable {α : Type} [Documented α]

/-- The value of which a document speaks. -/
def decode (v : Json) : Except Mismatch α :=
  ((shape α).decode v).map ofValue

end Documented

end StylusSurvey
