import StylusSurvey.CommandLine.Run

/-!
# The program

Input and output of the command line: what a command asks for is read, the run
is computed, and its outcome is printed or written.
-/

namespace StylusSurvey

/-- The system error that an exception reports. -/
def OsError.ofException : IO.Error → OsError
  | .noFileOrDirectory _ _ _ => .notFound
  | .inappropriateType _ code _ => if isNumber 21 code then .isDirectory else .notDirectory
  | .invalidArgument f code s =>
    if isNumber 36 code then .nameTooLong else .other (toString (IO.Error.invalidArgument f code s))
  | e => .other (toString e)
where
  /-- The code is that of the system error of a number; codes come with either sign. -/
  isNumber (number code : UInt32) : Bool :=
    code = number || code = 0 - number

/-- What stands at a path, with everything below it. Entries that cannot be read are left out, and
devices among the entries are not read. -/
partial def loadNode (path : String) (isEntry : Bool) : IO (Except OsError FileNode) := do
  if path.isEmpty then return .error .notFound
  let place := (← IO.currentDir) / path
  try
    let type := (← place.metadata).type
    if type == .dir then
      let mut entries : List (Text × FileNode) := []
      for e in ← place.readDir do
        match ← loadNode (path ++ "/" ++ e.fileName) true with
        | .ok node => entries := (e.fileName.toList, node) :: entries
        | .error _ => pure ()
      return .ok (.directory entries)
    else if type == .file then
      return .ok (.file (← IO.FS.readBinFile place).toList)
    else if isEntry then
      return .ok (.device [])
    else
      return .ok (.device (← IO.FS.readBinFile place).toList)
  catch e => return .error (.ofException e)

/-- The environment in which the command with the given arguments runs. -/
def loadEnvironment (args : List Text) : IO Environment := do
  let directory := (← IO.currentDir).toString.toList
  let logFilter := (← IO.getEnv "RUST_LOG").map String.toList
  let command := Command.ofArguments? args
  let mut nodes : List (Text × Except OsError FileNode) := []
  let mut stdin : Bytes := []
  for path in (command.map Command.inputs).getD [] do
    if Environment.isStdin path then
      let input ← IO.getStdin
      stdin := (← input.readBinToEnd).toList
    nodes := (path, ← loadNode (String.ofList path) false) :: nodes
  let mut tree := FileNode.empty
  if command.any Command.readsTree then
    match ← loadNode (String.ofList directory) false with
    | .ok node => tree := node
    | .error _ => pure ()
  return {
    node := fun path => (nodes.lookup path).getD (.error .notFound)
    refusal := fun _ => none
    isPrinted := fun _ => false
    stdin
    directory
    tree
    logFilter }

/-- Print the outcome of a run and return its exit code. -/
def report (o : Outcome) : IO UInt32 := do
  IO.print (String.ofList o.stdout)
  if o = .usage then IO.eprintln "Usage: stylus-architect <command> [options]"
  match o.errorText with
  | some message => IO.eprintln (String.ofList message)
  | none => pure ()
  return UInt32.ofNat o.exit

end StylusSurvey

open StylusSurvey in
/-- Run the command that the arguments call for. -/
def main (args : List String) : IO UInt32 := do
  let args := args.map String.toList
  let environment ← loadEnvironment args
  let outcome := environment.run args
  match outcome.written with
  | none => report outcome
  | some (path, text) =>
    let place := (← IO.currentDir) / String.ofList path
    try
      IO.FS.writeBinFile place ⟨(Text.bytes text).toArray⟩
      report outcome
    catch e =>
      report ({ environment with refusal := fun _ => some (.ofException e) }.run args)
