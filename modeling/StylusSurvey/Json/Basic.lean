import StylusSurvey.Text.Basic

/-!
# JSON values

The values that documents are made of. Members of an object keep their order;
`Json.sorted` puts them in the order of their keys.
-/

namespace StylusSurvey

namespace Json

/-- A number: an integer of at most 64 bits where it is written as one, and otherwise a binary
floating point number, given by its bits. -/
inductive Number where
  | natural (n : Nat)
  /-- The negative integer `-(n + 1)`. -/
  | negative (n : Nat)
  | float (bits : UInt64)
deriving DecidableEq, Repr

end Json

/-- A JSON value. -/
inductive Json where
  | null
  | bool (flag : Bool)
  | number (n : Json.Number)
  | string (text : Text)
  | array (items : List Json)
  | object (members : List (Text × Json))

namespace Json

/-- The members with one more, in the order of keys if they were. A member of that key is
replaced. -/
def insertMember (key : Text) (value : Json) : List (Text × Json) → List (Text × Json)
  | [] => [(key, value)]
  | (k, v) :: members =>
    if key < k then (key, value) :: (k, v) :: members
    else if key = k then (key, value) :: members
    else (k, v) :: insertMember key value members

/-- The members in the order of keys; of several with one key the last. -/
def ofEntries (entries : List (Text × Json)) : List (Text × Json) :=
  entries.foldl (fun members entry => insertMember entry.1 entry.2 members) []

mutual

/-- The value with the members of every object in the order of their keys. -/
def sorted : Json → Json
  | array items => array (sortedItems items)
  | object members => object (ofEntries (sortedMembers members))
  | null => null
  | bool flag => bool flag
  | number n => number n
  | string text => string text

/-- The items, each with its objects sorted. -/
def sortedItems : List Json → List Json
  | [] => []
  | v :: vs => v.sorted :: sortedItems vs

/-- The members, each with the objects of its value sorted. -/
def sortedMembers : List (Text × Json) → List (Text × Json)
  | [] => []
  | (key, v) :: ms => (key, v.sorted) :: sortedMembers ms

end

/-- The value of a member. -/
def member? (key : Text) : Json → Option Json
  | object members => members.lookup key
  | _ => none

end Json

end StylusSurvey
