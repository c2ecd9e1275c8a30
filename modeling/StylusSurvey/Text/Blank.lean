import StylusSurvey.Text.CharRange

/-!
# Blanks

White space as the character property of that name: 25 characters, among them
the no-break space, the line and paragraph separators and the ideographic
space. A zero-width space is not blank.
-/

namespace StylusSurvey

/-- The white space characters. -/
def blankRanges : List (Nat × Nat) := [
  (0x9, 0xD), (0x20, 0x20), (0x85, 0x85), (0xA0, 0xA0), (0x1680, 0x1680), (0x2000, 0x200A),
  (0x2028, 0x2029), (0x202F, 0x202F), (0x205F, 0x205F), (0x3000, 0x3000)]

/-- The character separates words. -/
def isBlank (c : Char) : Bool :=
  inRanges blankRanges c

end StylusSurvey
