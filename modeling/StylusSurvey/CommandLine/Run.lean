import StylusSurvey.CommandLine.Arguments
import StylusSurvey.CommandLine.Environment
import StylusSurvey.Document.Read
import StylusSurvey.Report.Audit
import StylusSurvey.Report.Outline

/-!
# Running commands

What a command prints or writes in an environment. A run ends with an error or
with an answer; only an answer is printed, or written to the path that the
command names.
-/

namespace StylusSurvey

open Text

/-- What a command has to say. -/
structure Answer where
  text : Text
  exit : Nat := 0
deriving DecidableEq, Repr

/-- How a run ends. -/
structure Outcome where
  exit : Nat
  /-- What is printed. -/
  stdout : Text := []
  error : Option RunError := none
  /-- The path of the file that is written, and its text. -/
  written : Option (Text × Text) := none
deriving DecidableEq, Repr

/-- The document of a value as JSON text, which ends with a newline. -/
def documentText {α : Type} [Documented α] (x : α) : Text :=
  (Documented.encode x).text ++ ['\n']

namespace Command

/-- The text for a reader or the JSON text, whichever the format asks for. -/
def rendered (command : Text) (human json : Text) : OutputFormat → Except RunError Text
  | .human => .ok human
  | .json => .ok json
  | .junit => .error (.unsupportedFormat command)
  | .markdown => .error (.unsupportedFormat command)

/-- The answer with which an audit ends: it fails if a finding is of high severity. -/
def auditAnswer (fs : List FileAudit) (format : OutputFormat) : Answer where
  text := auditReport fs format
  exit := if 0 < (FileAudit.tally fs).high then 1 else 0

/-- The line for a tool. -/
def toolLine (tool : Tool) : Text :=
  padRight 24 tool.name ++ " " ++ tool.description ++ "\n"

/-- What the command has to say. -/
def answer (w : Environment) : Command → Except RunError Answer
  | parse file format _ => do
    let source ← w.read file
    let c := Contract.parse source
    let text ← rendered "parse" c.outline (documentText c) format
    pure { text }
  | audit paths format _ => do
    let fs ← if paths = [] then w.treeAudits else w.audits paths
    pure (auditAnswer fs format)
  | tests file format _ => do
    let source ← w.read file
    let m := TestModule.ofSource source
    let text ← rendered "tests" (m.fullFile ++ ['\n']) (documentText m) format
    pure { text }
  | manifest file options _ => do
    let source ← w.read file
    pure { text := documentText (Manifest.ofSource source options) }
  | intent query path format => do
    let source ← w.read path
    let m ← (Documented.read source : Except Json.Failure Manifest).mapError
      (.invalidManifest path source)
    let r := Intent.resolve query m
    let text ← rendered "intent" r.outline (documentText r) format
    pure { text }
  | call tool path => do
    let source ← w.read (path.getD ['-'])
    let input ← (Json.read source).mapError (.invalidJson source)
    let result ← (Tool.call tool input).mapError .tool
    pure { text := result.text ++ ['\n'] }
  | tools => .ok { text := Tool.all.flatMap toolLine }

end Command

namespace Outcome

/-- The end of a run that is no correct use of the program. -/
def usage : Outcome :=
  { exit := 2 }

/-- The end of a run with an error. -/
def failed (e : RunError) : Outcome :=
  { exit := 1, error := some e }

/-- What is printed on the error stream. -/
def errorText (o : Outcome) : Option Text :=
  o.error.map fun e => "Error: " ++ e.message

end Outcome

/-- The answer, printed or written to the path if there is one. -/
def Environment.emit (w : Environment) (a : Answer) : Option Text → Outcome
  | none => { exit := a.exit, stdout := a.text }
  | some path =>
    match w.refusal path with
    | some e => .failed (.unwritable path e)
    | none =>
      if w.isPrinted path then { exit := a.exit, stdout := a.text }
      else { exit := a.exit, written := some (path, a.text) }

/-- How a run of the command ends. -/
def Command.run (w : Environment) (c : Command) : Outcome :=
  match LogFilter.check (w.logFilter.getD []) with
  | .error fault => .failed (.invalidLogFilter fault)
  | .ok () =>
    match c.answer w with
    | .error e => .failed e
    | .ok a => w.emit a c.output?

/-- How a run with the given arguments ends. -/
def Environment.run (w : Environment) (args : List Text) : Outcome :=
  match Command.ofArguments? args with
  | none => .usage
  | some c => c.run w

/-- The system after a run in it. -/
def FileSystem.after (fs : FileSystem) (o : Outcome) : FileSystem :=
  match o.written with
  | none => fs
  | some (path, text) => fs.write path text

/-- The tree after a run with it as the working directory. -/
def Outcome.applyTo (o : Outcome) (tree : FileNode) (directory : Text := "/work") : FileNode :=
  ((FileSystem.around tree [] directory).after o).tree

end StylusSurvey
