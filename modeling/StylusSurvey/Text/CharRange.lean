/-!
# Ranges of characters

A class of characters is given by the ranges of its code points, ascending and
apart, so that a search stops at the first range that begins above the
character.
-/

namespace StylusSurvey

/-- The character lies in one of the ascending ranges. -/
def inRanges : List (Nat × Nat) → Char → Bool
  | [], _ => false
  | r :: rs, c =>
    if c.toNat < r.1 then false
    else if c.toNat ≤ r.2 then true
    else inRanges rs c

end StylusSurvey
