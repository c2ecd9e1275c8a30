import StylusSurvey.CommandLine.LogFilter
import StylusSurvey.Files.Sources
import StylusSurvey.Files.System
import StylusSurvey.Json.Failure
import StylusSurvey.Report.Basic
import StylusSurvey.Tool

/-!
# Environments

What a run finds around it, and how sources are read from it. Every way in which
a run can fail is a `RunError`.
-/

namespace StylusSurvey

open Text

/-- What a run finds around it. -/
structure Environment where
  /-- What stands at a path. -/
  node : Text → Except OsError FileNode
  /-- Why nothing can be written to a path, if nothing can. -/
  refusal : Text → Option OsError
  /-- The path leads to the standard output: what is written to it is printed. -/
  isPrinted : Text → Bool
  stdin : Bytes
  /-- The path of the working directory. -/
  directory : Text
  /-- The working directory with everything below it. -/
  tree : FileNode
  /-- The log filter that is set. -/
  logFilter : Option Text

/-- Why input is not read. -/
inductive ReadError where
  | os (e : OsError)
  | notText
deriving DecidableEq, Repr

/-- The message of a read error. -/
def ReadError.message : ReadError → Text
  | os e => e.message
  | notText => "stream did not contain valid UTF-8"

/-- Why a run gives no answer. -/
inductive RunError where
  | invalidLogFilter (fault : LogFilter.Fault)
  | missingPath (path : Text)
  | unreadable (path : Text) (e : ReadError)
  | unreadableInput
  | unwritable (path : Text) (e : OsError)
  | unsupportedFormat (command : Text)
  | invalidManifest (path source : Text) (failure : Json.Failure)
  | invalidJson (source : Text) (failure : Json.Failure)
  | tool (e : ToolError)
deriving DecidableEq, Repr

namespace RunError

/-- The message of a tool error with its cause behind it. -/
def toolMessage (e : ToolError) : Text :=
  match e with
  | .unknownTool _ => e.message
  | .invalidInput _ m => e.message ++ ": " ++ m.message

/-- The message of an error. -/
def message : RunError → Text
  | invalidLogFilter fault => "Invalid `RUST_LOG` provided: " ++ fault.message
  | missingPath path => path ++ " does not exist"
  | unreadable path e => "Failed to read " ++ path ++ ": " ++ e.message
  | unreadableInput => "Failed to read stdin: " ++ ReadError.notText.message
  | unwritable path e => "Failed to write " ++ path ++ ": " ++ e.message
  | unsupportedFormat command => "Only human and json formats are supported for " ++ command
  | invalidManifest path source f => "Invalid manifest " ++ path ++ ": " ++ f.message source
  | invalidJson source f => "Tool input is not JSON: " ++ f.message source
  | tool e => toolMessage e

end RunError

namespace Environment

/-- The environment of a run in a system. -/
def inSystem (fs : FileSystem) (stdin : Bytes) (logFilter : Option Text) : Environment where
  node := fs.find
  refusal path :=
    match fs.target path with
    | .ok _ => none
    | .error e => some e
  isPrinted path :=
    match fs.target path with
    | .ok .stdout => true
    | _ => false
  stdin := stdin
  directory := fs.directory
  tree := fs.tree
  logFilter := logFilter

/-- The environment of a run with a tree as the working directory. -/
def inTree (tree : FileNode) (stdin : Bytes) (directory : Text) (logFilter : Option Text) :
    Environment :=
  inSystem (FileSystem.around tree stdin directory) stdin logFilter

/-- The path stands for the standard input. -/
def isStdin (path : Text) : Bool :=
  match splitOn '/' path with
  | [] => false
  | c :: cs => c = ['-'] && cs.all fun c => c = [] || c = ['.']

/-- The text of a file. -/
def readFile (w : Environment) (path : Text) : Except RunError Text :=
  match w.node path with
  | .error e => .error (.unreadable path (.os e))
  | .ok (.directory _) => .error (.unreadable path (.os .isDirectory))
  | .ok (.file content) => decoded content
  | .ok (.device content) => decoded content
where
  /-- The text with the given bytes. -/
  decoded (content : Bytes) : Except RunError Text :=
    match ofBytes? content with
    | some s => .ok s
    | none => .error (.unreadable path .notText)

/-- The text that a path stands for. -/
def read (w : Environment) (path : Text) : Except RunError Text :=
  if isStdin path then
    match ofBytes? w.stdin with
    | some s => .ok s
    | none => .error .unreadableInput
  else w.readFile path

/-- The source files that the paths stand for. -/
def sources (w : Environment) : List Text → Except RunError (List SourceFile)
  | [] => .ok []
  | path :: paths =>
    match w.node path with
    | .error _ => .error (.missingPath path)
    | .ok (.device _) => .error (.missingPath path)
    | .ok node => do
      let others ← w.sources paths
      pure (SourceFile.ofNode path node ++ others)

/-- The audit of a source file. -/
def auditFile (f : SourceFile) : Except RunError FileAudit :=
  match ofBytes? f.content with
  | some s => .ok (FileAudit.ofSource f.path s)
  | none => .error (.unreadable f.path .notText)

/-- The audits of the source files that the paths stand for. -/
def audits (w : Environment) (paths : List Text) : Except RunError (List FileAudit) := do
  let files ← w.sources paths
  files.mapM auditFile

/-- The audits of the source files in and below the working directory. -/
def treeAudits (w : Environment) : Except RunError (List FileAudit) :=
  (SourceFile.ofNode w.directory w.tree).mapM auditFile

end Environment

end StylusSurvey
