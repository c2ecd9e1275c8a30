import StylusSurvey.Text.Basic

/-!
# Texts as bytes

The encoding of texts as bytes by which files, columns and string arguments are
measured and stored.
-/

namespace StylusSurvey

/-- A string of bytes. -/
abbrev Bytes := List UInt8

namespace Text

/-- The bytes of a text. -/
def bytes (s : Text) : Bytes :=
  s.flatMap String.utf8EncodeChar

/-- The number of bytes of a text. -/
def byteCount (s : Text) : Nat :=
  (bytes s).length

/-- The text that the bytes encode, unless they encode none. -/
def ofBytes? (bs : Bytes) : Option Text :=
  (String.fromUTF8? ⟨bs.toArray⟩).map String.toList

end Text

end StylusSurvey
