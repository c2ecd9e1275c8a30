import StylusSurvey.Contract.Basic
import StylusSurvey.Document.Shape

/-!
# Contracts as documents
-/

namespace StylusSurvey

/-- A name and a type, in a record of the given name. -/
def paramShape (record : Text) : Shape :=
  .record record (.required "name" .text (.required "type" .text .none))

namespace Param

/-- What the document of a parameter says. -/
def toValue {record : Text} (p : Param) : (paramShape record).Value :=
  (p.name, p.type, ())

/-- The parameter of which a document speaks. -/
def ofValue {record : Text} : (paramShape record).Value → Param
  | (name, type, ()) => { name, type }

end Param

instance : Documented Param where
  shape := paramShape "Param"
  toValue := Param.toValue
  ofValue := Param.ofValue

namespace StorageField

/-- The shape of a storage field. -/
def shape : Shape :=
  .record "StorageField"
    (.required "name" .text (.required "type" .text (.required "line" .count .none)))

/-- What the document of a storage field says. -/
def toValue (f : StorageField) : shape.Value :=
  (f.name, f.type, f.line, ())

/-- The storage field of which a document speaks. -/
def ofValue : shape.Value → StorageField
  | (name, type, line, ()) => { name, type, line }

end StorageField

instance : Documented StorageField where
  shape := StorageField.shape
  toValue := StorageField.toValue
  ofValue := StorageField.ofValue

namespace EntryPoint

/-- The shape of a function. -/
def shape : Shape :=
  .record "Function"
    (.required "name" .text
      (.required "params" (.list (paramShape "Param"))
        (.required "returnType" .text
          (.required "isMut" .flag (.required "line" .count (.required "body" .text .none))))))

/-- What the document of a function says. -/
def toValue (f : EntryPoint) : shape.Value :=
  (f.name, f.params.map Param.toValue, f.returnType, f.mutates, f.line, f.body, ())

/-- The function of which a document speaks. -/
def ofValue : shape.Value → EntryPoint
  | (name, params, returnType, mutates, line, body, ()) =>
    { name, params := params.map Param.ofValue, returnType, mutates, line, body }

end EntryPoint

instance : Documented EntryPoint where
  shape := EntryPoint.shape
  toValue := EntryPoint.toValue
  ofValue := EntryPoint.ofValue

namespace Contract

/-- The shape of a contract. -/
def shape : Shape :=
  .record "ContractInfo"
    (.required "name" .text
      (.required "storageFields" (.list StorageField.shape)
        (.required "functions" (.list EntryPoint.shape) .none)))

/-- What the document of a contract says. -/
def toValue (c : Contract) : shape.Value :=
  (c.name, c.fields.map StorageField.toValue, c.functions.map EntryPoint.toValue, ())

/-- The contract of which a document speaks. -/
def ofValue : shape.Value → Contract
  | (name, fields, functions, ()) =>
    { name
      fields := fields.map StorageField.ofValue
      functions := functions.map EntryPoint.ofValue }

end Contract

instance : Documented Contract where
  shape := Contract.shape
  toValue := Contract.toValue
  ofValue := Contract.ofValue

end StylusSurvey
