import StylusSurvey.Document.Shape

/-!
# Writing documents

The JSON value of a document. Fields are written in their order, and an absent
one either as null or not at all.
-/

namespace StylusSurvey

/-- The members for a field. -/
def Presence.members {α : Type} (key : Text) (write : α → Json) :
    (p : Presence) → p.Holds α → List (Text × Json)
  | required, v => [(key, write v)]
  | nullable, none => [(key, .null)]
  | nullable, some v => [(key, write v)]
  | omissible, none => []
  | omissible, some v => [(key, write v)]

mutual

/-- The document that says the given. -/
def Shape.encode : (s : Shape) → s.Value → Json
  | .text, v => .string v
  | .flag, v => .bool v
  | .count, v => .number (.natural v)
  | .choice names, v => .string (names.get v)
  | .list item, vs => .array (vs.map item.encode)
  | .record _ fields, v => .object (fields.encode v)

/-- The members for the fields of a record. -/
def Fields.encode : (fs : Fields) → fs.Value → List (Text × Json)
  | .none, _ => []
  | .field key p s more, (v, vs) => p.members key s.encode v ++ more.encode vs

end

namespace Documented

variable {α : Type} [Documented α]

/-- The document of a value, its fields in their order. -/
def encode (x : α) : Json :=
  (shape α).encode (toValue x)

/-- The document of a value, its fields in the order of their keys. -/
def encodeSorted (x : α) : Json :=
  (encode x).sorted

end Documented

end StylusSurvey
