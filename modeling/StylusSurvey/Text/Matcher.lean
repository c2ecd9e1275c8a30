import StylusSurvey.Text.Word

/-!
# Matchers

A matcher says whether a pattern stands at a place of a text: it is given the
character before the place and the text from there on, and returns what follows
the pattern. `Matcher.rests` goes over a text from left to right and lists what
follows each occurrence, an occurrence beginning where the one before it ended
or later.
-/

namespace StylusSurvey

open Text

/-- A pattern that may look at the character before it. -/
abbrev Matcher := Option Char → Text → Option Text

namespace Matcher

/-- A word boundary lies between the character and a following word character. -/
def startsWord : Option Char → Bool
  | none => true
  | some c => !isWord c

/-- The key itself. -/
def literal (key : Text) : Matcher :=
  fun _ s => after? key s

/-- The key from a word boundary on; its first character is a word character. -/
def wordStart (key : Text) : Matcher :=
  fun before s => if startsWord before then after? key s else none

/-- The key up to a word boundary; its last character is a word character. -/
def wordEnd (key : Text) : Matcher :=
  fun _ s => (after? key s).filter endsWord

/-- The key as a word of its own. -/
def word (key : Text) : Matcher :=
  fun before s => (wordStart key before s).filter endsWord

/-- One pattern or else another. -/
def orElse (m m' : Matcher) : Matcher :=
  fun before s => (m before s).or (m' before s)

/-- A pattern, then blanks or none, then a key. -/
def thenKey (m : Matcher) (key : Text) : Matcher :=
  fun before s => (m before s).bind fun s => after? key (trimStart s)

/-- What follows the last key that begins within `reach` characters, if there is one. -/
def lastWithin? (key : Text) : Nat → Text → Option Text
  | 0, s => after? key s
  | _ + 1, [] => after? key []
  | reach + 1, c :: s => (lastWithin? key reach s).or (after? key (c :: s))

/-- A key, at most `reach` characters, and another key. -/
def within (key : Text) (reach : Nat) (key' : Text) : Matcher :=
  fun _ s => (after? key s).bind (lastWithin? key' reach)

/-- What follows each occurrence of the pattern in a text, of which the first `skip` characters
belong to an occurrence already found. -/
def restsFrom (m : Matcher) (skip : Nat) (before : Option Char) : Text → List Text
  | [] => if skip = 0 then (m before []).toList else []
  | c :: s =>
    match skip with
    | skip + 1 => restsFrom m skip (some c) s
    | 0 =>
      match m before (c :: s) with
      | none => restsFrom m 0 (some c) s
      | some rest => rest :: restsFrom m (s.length - rest.length) (some c) s

/-- What follows each occurrence of the pattern. -/
def rests (m : Matcher) (s : Text) : List Text :=
  restsFrom m 0 none s

/-- The pattern occurs in the text. -/
def occurs (m : Matcher) (s : Text) : Bool :=
  !(rests m s).isEmpty

end Matcher

end StylusSurvey
