import StylusSurvey.Json.Basic

/-!
# Shapes of documents

A shape says which JSON values are documents of a kind, and `Shape.Value` is the
type of what such a document says. The fields of a record have an order, in
which they are written and in which an array may give them.
-/

namespace StylusSurvey

/-- When a field has a value, and how its absence is written. -/
inductive Presence where
  /-- The field has a value. -/
  | required
  /-- The field may have none, which is written as null. -/
  | nullable
  /-- The field may have none, and is then left out. -/
  | omissible
deriving DecidableEq, Repr

/-- What a field of the given presence holds. -/
abbrev Presence.Holds : Presence → Type → Type
  | required, α => α
  | nullable, α => Option α
  | omissible, α => Option α

/-- What a field holds that is not given, if it need not be. -/
def Presence.absent? {α : Type} : (p : Presence) → Option (p.Holds α)
  | required => none
  | nullable => some none
  | omissible => some none

mutual

/-- The shape of a document. -/
inductive Shape where
  | text
  | flag
  /-- A number of at most 64 bits. -/
  | count
  /-- One of several names. -/
  | choice (names : List Text)
  | list (item : Shape)
  | record (name : Text) (fields : Fields)

/-- The fields of a record, in order. -/
inductive Fields where
  | none
  | field (key : Text) (presence : Presence) (shape : Shape) (more : Fields)

end

mutual

/-- What a document of a shape says. -/
@[reducible] def Shape.Value : Shape → Type
  | .text => Text
  | .flag => Bool
  | .count => Nat
  | .choice names => Fin names.length
  | .list item => List item.Value
  | .record _ fields => fields.Value

/-- What the fields of a record hold. -/
@[reducible] def Fields.Value : Fields → Type
  | .none => Unit
  | .field _ p s more => p.Holds s.Value × more.Value

end

namespace Fields

/-- The fields of a record as far as they are known. -/
@[reducible] def Known : Fields → Type
  | none => Unit
  | field _ p s more => Option (p.Holds s.Value) × more.Known

/-- No field is known. -/
def unknown : (fs : Fields) → fs.Known
  | none => ()
  | field _ _ _ more => (Option.none, more.unknown)

/-- The keys of the fields. -/
def keys : Fields → List Text
  | none => []
  | field key _ _ more => key :: more.keys

/-- A field that must always be there. -/
def required (key : Text) (s : Shape) (more : Fields) : Fields :=
  field key .required s more

/-- A field that may be null. -/
def nullable (key : Text) (s : Shape) (more : Fields) : Fields :=
  field key .nullable s more

/-- A field that may be left out. -/
def omissible (key : Text) (s : Shape) (more : Fields) : Fields :=
  field key .omissible s more

end Fields

/-- What a value of another type is told was expected. -/
def Shape.wanted : Shape → Text
  | text => "a string"
  | flag => "a boolean"
  | count => "usize"
  | choice _ => "string or map"
  | list _ => "a sequence"
  | record name _ => "struct " ++ name

/-- A type whose values are written as documents of one shape. -/
class Documented (α : Type) where
  /-- The shape of the documents. -/
  shape : Shape
  /-- What the document of a value says. -/
  toValue : α → shape.Value
  /-- The value of which a document speaks. -/
  ofValue : shape.Value → α

end StylusSurvey
