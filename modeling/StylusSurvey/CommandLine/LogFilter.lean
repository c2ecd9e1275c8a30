import StylusSurvey.Text.Alphanumeric
import StylusSurvey.Text.Numeral

/-!
# Log filters

A log filter is a list of directives between commas; empty ones say nothing. A
directive has the form `target[span{field}]=level`, in which everything but the
target or the span may be left out. All that is asked of a filter is that its
directives have this form and that the levels given exist.
-/

namespace StylusSurvey

namespace LogFilter

open Text

/-- Why a log filter is refused. -/
inductive Fault where
  /-- A directive is not of the form of one. -/
  | form
  /-- A level does not exist. -/
  | level
deriving DecidableEq, Repr

/-- The message of a fault. -/
def Fault.message : Fault → Text
  | form => "invalid filter directive"
  | level =>
    ("error parsing level filter: expected one of " : Text) ++
      "\"off\", \"error\", \"warn\", \"info\", \"debug\", \"trace\", or a number 0-5"

/-- The names of the levels. -/
def levels : List Text := ["off", "error", "warn", "info", "debug", "trace"]

/-- The text names a level; the case of its letters does not matter. -/
def isLevel (s : Text) : Bool :=
  s.map Char.toLower ∈ levels ||
    (match size? s with
      | some n => n ≤ 5
      | none => false)

/-! ## The form of a directive -/

/-- How far a directive has been read. -/
inductive Part where
  /-- Nothing has been read. -/
  | start
  /-- In the target, or in a level that stands alone. -/
  | target
  /-- Behind the bracket that opens the span. -/
  | span
  /-- Behind the brace that opens the field. -/
  | fieldStart
  /-- In the field, of which something has been read. -/
  | field
  /-- Behind the brace that closes the field. -/
  | fieldEnd
  /-- Behind the bracket that closes the span. -/
  | spanEnd
  /-- Behind the equals sign before the level. -/
  | level
deriving DecidableEq, Repr

namespace Part

/-- A target may begin with the character. -/
def beginsTarget (c : Char) : Bool :=
  c = '-' || c = ':' || c = '_' || isAlphanumeric c

/-- How far a directive has been read with a character more, unless the character cannot stand
there. -/
def next? (c : Char) : Part → Option Part
  | start => if c = '[' then some span else if beginsTarget c then some target else none
  | target => some (if c = '=' then level else if c = '[' then span else target)
  | span => some (if c = ']' then spanEnd else if c = '{' then fieldStart else span)
  | fieldStart => if c = '}' then none else some field
  | field => some (if c = '}' then fieldEnd else field)
  | fieldEnd => if c = ']' then some spanEnd else none
  | spanEnd => if c = '=' then some level else none
  | level => some level

/-- A directive may end here. -/
def isEnd (p : Part) : Bool :=
  p = target || p = spanEnd || p = level

end Part

/-- Check the rest of a directive. Its form is that of the first text, and its level is what is
left of the second one. -/
def checkFrom : Part → Text → Text → Except Fault Unit
  | .level, _, written => if written = [] || isLevel written then .ok () else .error .level
  | p, [], _ => if p.isEnd then .ok () else .error .form
  | p, c :: s, written =>
    match p.next? c with
    | some p => checkFrom p s written.tail
    | none => .error .form

/-- Check a directive. Blanks around it do not count for its form. The level begins as many
characters behind the beginning of the directive as it would without the blanks, and must exist
with the blanks at its end. -/
def checkDirective (s : Text) : Except Fault Unit :=
  checkFrom .start (trim s) s

/-- Check the directives of a filter in their order. -/
def check (filter : Text) : Except Fault Unit :=
  ((splitOn ',' filter).filter (· ≠ [])).forM checkDirective

end LogFilter

end StylusSurvey
