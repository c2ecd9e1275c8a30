import StylusSurvey.Manifest.Basic
import StylusSurvey.Report.Format

/-!
# Arguments

The commands, and how they are read from a list of arguments. An option takes its
value from the same argument or from the next one, which must not look like an
option then. Options may be given once and in any order; the option that raises
verbosity may be repeated and stand anywhere. Behind two hyphens nothing is an
option.
-/

namespace StylusSurvey

open Text

/-- A command, with the paths and texts given to it. -/
inductive Command where
  | parse (file : Text) (format : OutputFormat) (output : Option Text)
  | audit (paths : List Text) (format : OutputFormat) (output : Option Text)
  | tests (file : Text) (format : OutputFormat) (output : Option Text)
  | manifest (file : Text) (options : ManifestOptions) (output : Option Text)
  | intent (query manifest : Text) (format : OutputFormat)
  | call (tool : Text) (input : Option Text)
  | tools
deriving DecidableEq, Repr

/-- The options that a command has. All of them take a value. -/
structure OptionNames where
  long : List Text
  /-- The option for the output path exists, and has a short name. -/
  output : Bool

/-- An argument as it is understood. -/
inductive Argument where
  | option (name value : Text)
  | positional (value : Text)
deriving DecidableEq, Repr

namespace Argument

/-- The name of the option for the output path. -/
def outputName : Text := "output"

/-- The argument is not taken for the value of an option before it. -/
def looksLikeOption : Text → Bool
  | '-' :: _ :: _ => true
  | _ => false

/-- A cluster of short options. -/
inductive Cluster where
  /-- Nothing but verbosity. -/
  | verbosity
  /-- Ends with the output path. -/
  | outputPath (path : Text)
  /-- Ends with the option for the output path, whose value is the next argument. -/
  | outputNext
deriving DecidableEq, Repr

/-- The meaning of a cluster of short options, given whether the option for the output path
exists. -/
def cluster? (output : Bool) : Text → Option Cluster
  | [] => some .verbosity
  | c :: cs =>
    if c = 'v' then cluster? output cs
    else if c = 'o' && output then
      match cs with
      | [] => some .outputNext
      | '=' :: path => some (.outputPath path)
      | path => some (.outputPath path)
    else none

/-- The name exists as a long option. -/
def isLong (names : OptionNames) (name : Text) : Bool :=
  names.long.contains name || (names.output && name = outputName)

/-- The arguments as they are understood, unless one is no argument of the command. -/
def scan? (names : OptionNames) : List Text → Option (List Argument)
  | [] => some []
  | ('-' :: '-' :: []) :: args => some (args.map positional)
  | ('-' :: '-' :: body) :: args =>
    match cutAt? '=' body with
    | some (name, value) =>
      if isLong names name then (scan? names args).map (option name value :: ·) else none
    | none =>
      if body = "verbose" then scan? names args
      else if isLong names body then
        match args with
        | [] => none
        | value :: args =>
          if looksLikeOption value then none
          else (scan? names args).map (option body value :: ·)
      else none
  | ('-' :: c :: cs) :: args =>
    match cluster? names.output (c :: cs) with
    | none => none
    | some .verbosity => scan? names args
    | some (.outputPath path) => (scan? names args).map (option outputName path :: ·)
    | some .outputNext =>
      match args with
      | [] => none
      | value :: args =>
        if looksLikeOption value then none
        else (scan? names args).map (option outputName value :: ·)
  | value :: args => (scan? names args).map (positional value :: ·)

/-- The values of an option. -/
def valuesOf (name : Text) (args : List Argument) : List Text :=
  args.filterMap fun
    | option n value => if n = name then some value else none
    | positional _ => none

/-- The arguments that are no options. -/
def positionals (args : List Argument) : List Text :=
  args.filterMap fun
    | option _ _ => none
    | positional value => some value

/-- The value of an option that may be absent, unless it is given twice. -/
def single? (name : Text) (args : List Argument) : Option (Option Text) :=
  match valuesOf name args with
  | [] => some none
  | [value] => some (some value)
  | _ => none

/-- The path, unless it is empty. -/
def path? (value : Text) : Option Text :=
  if value = [] then none else some value

/-- The path that an option gives, if any, unless the option is given twice or the path is
empty. -/
def pathOption? (name : Text) (args : List Argument) : Option (Option Text) := do
  match ← single? name args with
  | none => pure none
  | some value => (path? value).map some

/-- The output format that is chosen, text for a reader by default. -/
def format? (args : List Argument) : Option OutputFormat := do
  match ← single? "format" args with
  | none => pure .human
  | some value => OutputFormat.ofName? value

/-- The only argument that is no option. -/
def onlyPositional? (args : List Argument) : Option Text :=
  match positionals args with
  | [value] => some value
  | _ => none

end Argument

namespace Command

open Argument

/-- The command of a name with the given arguments. -/
def ofNamed? (name : Text) (args : List Text) : Option Command :=
  if name = "parse" then do
    let args ← scan? { long := ["format"], output := true } args
    pure (parse (← path? (← onlyPositional? args)) (← format? args)
      (← pathOption? outputName args))
  else if name = "audit" then do
    let args ← scan? { long := ["format"], output := true } args
    pure (audit (← (positionals args).mapM path?) (← format? args) (← pathOption? outputName args))
  else if name = "tests" then do
    let args ← scan? { long := ["format"], output := true } args
    pure (tests (← path? (← onlyPositional? args)) (← format? args)
      (← pathOption? outputName args))
  else if name = "manifest" then do
    let args ← scan? { long := ["name", "description", "version"], output := true } args
    let options : ManifestOptions :=
      { name := ← single? "name" args
        description := ← single? "description" args
        version := ← single? "version" args }
    pure (manifest (← path? (← onlyPositional? args)) options (← pathOption? outputName args))
  else if name = "intent" then do
    let args ← scan? { long := ["manifest", "format"], output := false } args
    pure (intent (← onlyPositional? args) (← (← pathOption? "manifest" args)) (← format? args))
  else if name = "call" then do
    let args ← scan? { long := ["input"], output := false } args
    pure (call (← onlyPositional? args) (← pathOption? "input" args))
  else if name = "tools" then do
    let args ← scan? { long := [], output := false } args
    if args = [] then pure tools else none
  else none

/-- The command that the arguments call for, unless they are no correct use of the program. -/
def ofArguments? : List Text → Option Command
  | [] => none
  | arg :: args =>
    if arg = "--verbose" then ofArguments? args
    else
      match arg with
      | '-' :: c :: cs => if (c :: cs).all (· = 'v') then ofArguments? args else none
      | _ => ofNamed? arg args

/-- The paths from which the command reads. -/
def inputs : Command → List Text
  | parse file _ _ => [file]
  | audit paths _ _ => paths
  | tests file _ _ => [file]
  | manifest file _ _ => [file]
  | intent _ file _ => [file]
  | call _ input => [input.getD ['-']]
  | tools => []

/-- The command reads what is in the working directory. -/
def readsTree : Command → Bool
  | audit paths _ _ => paths = []
  | _ => false

/-- The path to which the command writes instead of printing. -/
def output? : Command → Option Text
  | parse _ _ output => output
  | audit _ _ output => output
  | tests _ _ output => output
  | manifest _ _ output => output
  | intent _ _ _ => none
  | call _ _ => none
  | tools => none

end Command

end StylusSurvey
