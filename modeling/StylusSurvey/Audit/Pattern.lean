import StylusSurvey.Audit.Basic
import StylusSurvey.Text.Matcher

/-!
# Ink patterns

The table of patterns that cost ink. Each entry has a trigger, which looks at
one line, and the advice that is given when the trigger fires.
-/

namespace StylusSurvey

open Text

/-- What a pattern looks for on a line. -/
inductive Trigger where
  /-- Any occurrence. -/
  | occurrence (m : Matcher)
  /-- An occurrence after which the text does not begin as rejected. -/
  | occurrenceUnless (m : Matcher) (rejected : Text → Bool)

/-- The trigger fires on the line. -/
def Trigger.fires : Trigger → Text → Bool
  | .occurrence m, line => m.occurs line
  | .occurrenceUnless m rejected, line => (m.rests line).any fun rest => !rejected rest

/-- A pattern that costs ink, with its advice. -/
structure InkPattern where
  id : Text
  trigger : Trigger
  severity : Severity
  title : Text
  suggestion : Text

namespace InkPattern

/-- The text goes on as the element type of a byte vector, up to the closing bracket. -/
def closesByteVector (s : Text) : Bool :=
  match after? "u8" s with
  | none => false
  | some t => startsWith ['>'] (trimStart t)

/-- Strings in storage. -/
def stringInStorage : InkPattern where
  id := "string-in-storage"
  trigger := .occurrence (.word "String")
  severity := .high
  title := "String used in storage"
  suggestion :=
    ("Use `StorageString` from stylus-sdk instead. " : Text) ++
      "Heap-allocated String costs significantly more Ink for reads/writes."

/-- Native maps in storage. -/
def mapInStorage : InkPattern where
  id := "hashmap-in-storage"
  trigger := .occurrence (.orElse (.word "HashMap") (.word "BTreeMap"))
  severity := .high
  title := "HashMap/BTreeMap used instead of StorageMap"
  suggestion :=
    ("Use `StorageMap` via `sol_storage!` macro. " : Text) ++
      "Native Rust maps serialize the entire collection on each access, costing O(n) Ink."

/-- Vectors in storage, other than byte vectors. -/
def vectorInStorage : InkPattern where
  id := "vec-in-storage"
  trigger := .occurrenceUnless (.thenKey (.wordStart "Vec") ['<']) closesByteVector
  severity := .high
  title := "Vec used in storage"
  suggestion :=
    ("Use `StorageVec` from stylus-sdk. " : Text) ++
      "A standard Vec serializes entirely on each read/write, which is extremely expensive."

/-- Clones. -/
def cloneUsage : InkPattern where
  id := "clone-usage"
  trigger := .occurrence (.literal ".clone()")
  severity := .medium
  title := "Unnecessary .clone() detected"
  suggestion :=
    ("Use references (&T) instead of cloning. " : Text) ++
      "Each clone allocates memory and copies data, increasing Ink cost."

/-- Collected iterations. -/
def unboundedIteration : InkPattern where
  id := "unbounded-iter"
  trigger := .occurrence (.within ".iter()" 40 ".collect")
  severity := .medium
  title := "Unbounded iteration with .collect()"
  suggestion :=
    ("Add bounds with `.take(n)` before `.collect()`. " : Text) ++
      "Unbounded iteration can exhaust the Ink budget and revert."

/-- Boxes. -/
def boxNew : InkPattern where
  id := "box-new"
  trigger := .occurrence (.wordEnd "Box::new")
  severity := .medium
  title := "Heap allocation via Box::new"
  suggestion :=
    "Prefer stack-based alternatives. Heap allocations in WASM are costly and increase Ink usage."

/-- Formatted strings. -/
def formatMacro : InkPattern where
  id := "format-macro"
  trigger := .occurrence (.thenKey (.literal "format!") ['('])
  severity := .low
  title := "format!() macro used"
  suggestion :=
    ("Use fixed-size byte arrays or pre-computed values where possible. " : Text) ++
      "format! allocates and is expensive in WASM."

/-- All patterns, in the order in which they are tried. -/
def table : List InkPattern :=
  [stringInStorage, mapInStorage, vectorInStorage, cloneUsage, unboundedIteration, boxNew,
    formatMacro]

/-- The entry of that name. -/
def ofId? (id : Text) : Option InkPattern :=
  table.find? fun p => p.id = id

/-- The finding of the pattern on line number `n`, if its trigger fires. -/
def finding? (p : InkPattern) (line : Text) (n : Nat) : Option Finding :=
  if p.trigger.fires line then
    some
      { patternId := p.id
        severity := p.severity
        title := p.title
        suggestion := p.suggestion
        line := n
        code := trim line }
  else none

end InkPattern

namespace Audit

/-- The line is a comment. -/
def isComment (line : Text) : Bool :=
  startsWith "//" (trimStart line)

/-- The findings on line number `n`, in table order. A comment has none. -/
def findingsOn (patterns : List InkPattern) (line : Text) (n : Nat) : List Finding :=
  if isComment line then [] else patterns.filterMap fun p => p.finding? line n

/-- The findings on the lines numbered from `n` on. -/
def findingsFrom (patterns : List InkPattern) (n : Nat) : List Text → List Finding
  | [] => []
  | line :: rest => findingsOn patterns line n ++ findingsFrom patterns (n + 1) rest

/-- The audit of a source against a table of patterns. -/
def withPatterns (patterns : List InkPattern) (source : Text) : Audit :=
  let findings := findingsFrom patterns 1 (lines source)
  { findings, summary := Tally.ofFindings findings }

/-- The audit of a source. -/
def ofSource (source : Text) : Audit :=
  withPatterns InkPattern.table source

end Audit

end StylusSurvey
