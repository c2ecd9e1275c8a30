import StylusSurvey.Json.Printer
import StylusSurvey.Text.Quoted

/-!
# Mismatches

What can be wrong with a well-formed JSON value where a document of a certain
shape is expected.
-/

namespace StylusSurvey

open Text

/-- What stands where something else is expected. -/
inductive Found where
  | null
  | flag (value : Bool)
  | number (value : Json.Number)
  | string (text : Text)
  | sequence
  | map
deriving DecidableEq, Repr

/-- What a value is when something else is expected. -/
def Json.found : Json → Found
  | .null => .null
  | .bool flag => .flag flag
  | .number n => .number n
  | .string text => .string text
  | .array _ => .sequence
  | .object _ => .map

/-- The description of what was found. -/
def Found.text : Found → Text
  | null => "null"
  | flag true => "boolean `true`"
  | flag false => "boolean `false`"
  | number (.float bits) => "floating point `" ++ floatText bits ++ "`"
  | number n => "integer `" ++ n.text ++ "`"
  | string s => "string " ++ quoted s
  | sequence => "sequence"
  | map => "map"

/-- Why a value is no document of the expected shape. -/
inductive Mismatch where
  /-- A value of another type. -/
  | type (found : Found) (wanted : Text)
  /-- A value of the right type outside the expected range. -/
  | value (found : Found) (wanted : Text)
  /-- A sequence of another length. -/
  | length (found : Nat) (wanted : Text)
  | missingField (key : Text)
  | duplicateField (key : Text)
  | unknownVariant (name : Text) (names : List Text)
deriving DecidableEq, Repr

namespace Mismatch

/-- The name between backticks. -/
def code (name : Text) : Text :=
  ['`'] ++ name ++ ['`']

/-- The message of a mismatch. -/
def message : Mismatch → Text
  | type found wanted => "invalid type: " ++ found.text ++ ", expected " ++ wanted
  | value found wanted => "invalid value: " ++ found.text ++ ", expected " ++ wanted
  | length found wanted => "invalid length " ++ numeral found ++ ", expected " ++ wanted
  | missingField key => "missing field " ++ code key
  | duplicateField key => "duplicate field " ++ code key
  | unknownVariant name names =>
    "unknown variant " ++ code name ++ ", expected one of " ++
      List.intercalate [',', ' '] (names.map code)

end Mismatch

end StylusSurvey
