import StylusSurvey.Text.Blank

/-!
# Texts

A text is a list of characters, so every function on texts is a recursion on a
list. This module holds the operations that belong to no one format: trimming,
cutting at a separator, looking for a key, and finding the leftmost place where
a recogniser succeeds.
-/

namespace StylusSurvey

/-- A text, as the list of its characters. -/
abbrev Text := List Char

instance : Coe String Text := ⟨String.toList⟩

namespace Text

/-- The text without leading blanks. -/
def trimStart (s : Text) : Text :=
  s.dropWhile isBlank

/-- The text without trailing blanks. -/
def trimEnd (s : Text) : Text :=
  (s.reverse.dropWhile isBlank).reverse

/-- The text without blanks at either end. -/
def trim (s : Text) : Text :=
  trimEnd (trimStart s)

/-- The pieces between the occurrences of `sep`; one more than there are separators. -/
def splitOn (sep : Char) : Text → List Text
  | [] => [[]]
  | c :: s =>
    match splitOn sep s with
    | [] => [[c]]
    | p :: ps => if c = sep then [] :: p :: ps else (c :: p) :: ps

/-- The text begins with `key`. -/
def startsWith (key s : Text) : Bool :=
  key.isPrefixOf s

/-- What follows `key` at the beginning of the text. -/
def after? : Text → Text → Option Text
  | [], s => some s
  | _ :: _, [] => none
  | k :: key, c :: s => if k = c then after? key s else none

/-- `key` occurs somewhere in the text. -/
def occurs (key : Text) : Text → Bool
  | [] => key.isEmpty
  | c :: s => startsWith key (c :: s) || occurs key s

/-- The result of `m` at the leftmost place where it succeeds. -/
def search {α : Type} (m : Text → Option α) : Text → Option α
  | [] => m []
  | c :: s =>
    match m (c :: s) with
    | some a => some a
    | none => search m s

/-- The text after at least one blank, without all of its leading blanks. -/
def blanks? : Text → Option Text
  | [] => none
  | c :: s => if isBlank c then some (trimStart s) else none

/-- The text in which `sep` occurs, cut at its first occurrence. -/
def cutAt? (sep : Char) : Text → Option (Text × Text)
  | [] => none
  | c :: s =>
    if c = sep then some ([], s)
    else (cutAt? sep s).map fun (before, rest) => (c :: before, rest)

/-- The text in which every occurrence of `c` is written as `new`. -/
def replace (c : Char) (new : Text) (s : Text) : Text :=
  s.flatMap fun d => if d = c then new else [d]

/-- The text, set to the right in a column of the given width. -/
def padLeft (width : Nat) (s : Text) : Text :=
  List.replicate (width - s.length) ' ' ++ s

/-- The text, set to the left in a column of the given width. -/
def padRight (width : Nat) (s : Text) : Text :=
  s ++ List.replicate (width - s.length) ' '

end Text

end StylusSurvey
