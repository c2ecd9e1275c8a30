import StylusSurvey.Contract.Basic
import StylusSurvey.Contract.Declaration

/-!
# Signatures

The signature of a function block: name, receiver, parameters and return type.
It stands at the leftmost place of the block where a whole signature can be
read. The parameters reach to the first closing parenthesis after which the
signature can be completed, and the return type to the first opening brace.
-/

namespace StylusSurvey

open Text Declaration

/-- The parts of a signature as written. -/
structure Signature where
  name : Text
  mutates : Bool
  params : Text
  /-- The text after the arrow, if there is one. -/
  result : Option Text
deriving DecidableEq, Repr

namespace Signature

/-- A receiver `&self` or `&mut self` in front: whether it is mutable, and what follows. -/
def receiver? (s : Text) : Option (Bool × Text) := do
  let s ← after? ['&'] s
  match after? "mut" s with
  | some t => do
    let t ← blanks? t
    let t ← after? "self" t
    pure (true, t)
  | none => do
    let t ← after? "self" s
    pure (false, t)

/-- The end of a signature after its closing parenthesis: an arrow and a return type or neither,
and an opening brace. -/
def result? (s : Text) : Option (Option Text) :=
  match trimStart s with
  | '{' :: _ => some none
  | '-' :: '>' :: t => (cutAt? '{' t).map fun (type, _) => some (trim type)
  | _ => none

/-- The parameters up to the first closing parenthesis that completes the signature, and its
result. -/
def paramsAndResult? : Text → Option (Text × Option Text)
  | [] => none
  | c :: s =>
    match if c = ')' then result? s else none with
    | some result => some ([], result)
    | none => (paramsAndResult? s).map fun (params, result) => (c :: params, result)

/-- The parameters and the result after a receiver. Without a comma the parenthesis closes at
once. -/
def afterReceiver? (s : Text) : Option (Text × Option Text) :=
  match trimStart s with
  | ',' :: t => paramsAndResult? (trimStart t)
  | _ => do
    let s ← after? [')'] s
    let result ← result? s
    pure ([], result)

/-- A signature in front of the text. -/
def at? (s : Text) : Option Signature := do
  let s ← afterPublic? "fn" s
  let (name, s) ← word? s
  let s ← after? ['('] (trimStart s)
  let (mutates, s) ← receiver? (trimStart s)
  let (params, result) ← afterReceiver? s
  pure { name, mutates, params := trim params, result }

/-- The text up to its last opening brace. -/
def throughBrace (s : Text) : Text :=
  (s.reverse.dropWhile (· ≠ '{')).reverse

/-- The first signature in a text. It ends with an opening brace, so what stands behind the last
one is not looked at. -/
def find? (s : Text) : Option Signature :=
  search at? (throughBrace s)

/-- A parameter `name: type`. A piece without colon or with several is no parameter. -/
def param? (piece : Text) : Option Param :=
  match splitOn ':' (trim piece) with
  | [name, type] => some { name := trim name, type := trim type }
  | _ => none

/-- The parameters in a list separated by commas, wherever the commas stand. -/
def splitParams (s : Text) : List Param :=
  if s.isEmpty then [] else (splitOn ',' s).filterMap param?

end Signature

namespace EntryPoint

/-- The name of a function whose signature cannot be read. -/
def unknownName : Text := "unknown"

/-- The return type of a function that returns nothing. -/
def unitType : Text := "()"

/-- The text between the first opening and the last closing brace. -/
def bodyOf (block : Text) : Text :=
  match cutAt? '{' block with
  | none => []
  | some (_, rest) =>
    match cutAt? '}' rest.reverse with
    | none => []
    | some (_, before) => trim before.reverse

/-- The function that a block starting on the given line holds. -/
def ofBlock (block : Text) (line : Nat) : EntryPoint :=
  match Signature.find? block with
  | some sig =>
    { name := sig.name
      params := Signature.splitParams sig.params
      returnType := sig.result.getD unitType
      mutates := sig.mutates
      line
      body := bodyOf block }
  | none =>
    { name := unknownName
      params := []
      returnType := unitType
      mutates := false
      line
      body := bodyOf block }

end EntryPoint

end StylusSurvey
