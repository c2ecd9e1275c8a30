import StylusSurvey.Contract.BraceDepth
import StylusSurvey.Contract.Declaration
import StylusSurvey.Text.Line

/-!
# Function blocks

The source text of every public function inside a marked `impl` block. A scanner
goes over the lines once. It keeps the brace depth of the region and, inside a
function, that of the function, so nested blocks do not split a function; only
the net depth of a line counts.
-/

namespace StylusSurvey

open Declaration

/-- The text of a function and the line on which it starts. -/
structure FunctionBlock where
  text : Text
  startLine : Nat
deriving DecidableEq, Repr

/-- Where the scanner stands between two lines. -/
inductive ScanState where
  /-- Outside every externally callable region. -/
  | outside
  /-- After a marker, before its `impl` header. -/
  | armed
  /-- In a marked `impl` block, between functions. -/
  | region (depth : BraceDepth)
  /-- In a function of a marked `impl` block, after the given lines of it. -/
  | collecting (region function : BraceDepth) (startLine : Nat) (lines : List Text)
deriving DecidableEq, Repr

namespace ScanState

/-- The state after a function, given the depth of its region. -/
def afterFunction (depth : BraceDepth) : ScanState :=
  if depth.isClosed then outside else region depth

/-- The state after an `impl` header. A header whose braces balance has an empty block. -/
def atHeader (line : Text) : ScanState :=
  let depth := BraceDepth.startingAt line
  if line.contains '{' && decide (depth.depth ≤ 0) then outside else region depth

/-- The state after a line outside every region. The header may follow its marker on one line. -/
def stepOutside (line : Text) : ScanState :=
  match afterMarker? line with
  | none => outside
  | some rest => if isImplHeader rest then atHeader rest else armed

/-- The state after a line that follows a marker. -/
def stepArmed (line : Text) : ScanState :=
  if isImplHeader line then atHeader line
  else if isPreamble line then armed
  else outside

/-- The state after a line of a region, and the function on that line if it has only one. -/
def stepRegion (depth : BraceDepth) (line : Text) (n : Nat) :
    ScanState × Option FunctionBlock :=
  if isPublicFunction line then
    let function := BraceDepth.startingAt line
    if decide (function.depth ≤ 0) && line.contains '{' && line.contains '}' then
      (afterFunction (depth.add function.depth), some ⟨line, n⟩)
    else (collecting depth function n [line], none)
  else
    let depth := depth.feed line
    (if depth.isClosed then outside else region depth, none)

/-- The state after a line of a function, and the function if the line completes it. -/
def stepCollecting (depth function : BraceDepth) (startLine : Nat) (lines : List Text)
    (line : Text) : ScanState × Option FunctionBlock :=
  let lines := lines ++ [line]
  let function := function.feed line
  if function.isClosed then
    (afterFunction (depth.add function.depth), some ⟨Text.unlines lines, startLine⟩)
  else (collecting depth function startLine lines, none)

/-- The state after line number `n`, and the function completed on it. -/
def step (q : ScanState) (line : Text) (n : Nat) : ScanState × Option FunctionBlock :=
  match q with
  | outside => (stepOutside line, none)
  | armed => (stepArmed line, none)
  | region depth => stepRegion depth line n
  | collecting depth function startLine lines =>
    stepCollecting depth function startLine lines line

/-- The state after lines numbered from `n` on, and the functions completed on them. -/
def run (q : ScanState) (n : Nat) : List Text → ScanState × List FunctionBlock
  | [] => (q, [])
  | line :: rest =>
    let (next, emitted) := q.step line n
    let (last, blocks) := next.run (n + 1) rest
    (last, emitted.toList ++ blocks)

end ScanState

/-- The externally callable functions of a source, in order. -/
def functionBlocks (source : Text) : List FunctionBlock :=
  (ScanState.outside.run 1 (Text.lines source)).2

end StylusSurvey
