import StylusSurvey.Text.Basic

/-!
# Brace depth

The depth of a block is the number of opening minus closing braces on the lines
of the block so far. A block is closed when its depth is back at zero or below
after it has been positive; a block that has not opened yet is not closed. The
depth is an integer without bounds; a counter of 32 bits holds the same depths as
long as a source has fewer than 2^31 braces.
-/

namespace StylusSurvey

/-- Opening minus closing braces of a line. -/
def braceDelta : Text → Int
  | [] => 0
  | c :: s => (if c = '{' then 1 else if c = '}' then -1 else 0) + braceDelta s

/-- The running brace depth of a block. -/
structure BraceDepth where
  depth : Int := 0
  /-- The depth has been positive. -/
  opened : Bool := false
deriving DecidableEq, Repr

namespace BraceDepth

/-- The depth after a change by `delta`. -/
def add (b : BraceDepth) (delta : Int) : BraceDepth where
  depth := b.depth + delta
  opened := b.opened || decide (0 < b.depth + delta)

/-- The depth after a line. -/
def feed (b : BraceDepth) (line : Text) : BraceDepth :=
  b.add (braceDelta line)

/-- The depth after the first line of a block. -/
def startingAt (line : Text) : BraceDepth :=
  feed {} line

/-- The block has been opened and closed again. -/
def isClosed (b : BraceDepth) : Bool :=
  b.opened && decide (b.depth ≤ 0)

end BraceDepth

end StylusSurvey
