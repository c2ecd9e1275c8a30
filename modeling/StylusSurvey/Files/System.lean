import StylusSurvey.Files.Tree

/-!
# File systems

Where paths lead. A place of a system is given by the names on the way to it from
the root. A path is followed component by component, from the root behind a slash
and else from the working directory; a component can only be followed from a
directory.
-/

namespace StylusSurvey

open Text

/-- A system of files with a working directory. -/
structure FileSystem where
  root : FileNode
  /-- The path of the working directory. -/
  directory : Text
  /-- The names that lead to the standard output. -/
  stdout : List Text

/-- Where a text goes that is written. -/
inductive Target where
  /-- To the file that the names lead to. -/
  | file (names : List Text)
  /-- To the standard output. -/
  | stdout
  /-- To a device that keeps nothing. -/
  | device
deriving DecidableEq, Repr

namespace FileSystem

/-- The names that lead to the working directory. -/
def working (fs : FileSystem) : List Text :=
  Path.components fs.directory

/-- The working directory with everything below it. -/
def tree (fs : FileSystem) : FileNode :=
  (fs.root.at? fs.working).getD .empty

/-- The devices that every system has. -/
def devices (stdin : Bytes) : FileNode :=
  .directory
    [("null", .device []), ("stderr", .device []), ("stdin", .device stdin), ("stdout", .device [])]

/-- A system with a tree as its working directory, and otherwise with what every system has. -/
def around (tree : FileNode) (stdin : Bytes) (directory : Text) : FileSystem where
  root := FileNode.put tree (Path.components directory)
    (.directory [("dev", devices stdin), ("tmp", .empty)])
  directory := directory
  stdout := ["dev", "stdout"]

/-! ## Following a path -/

/-- The place to which a component of a path leads from another. Nothing is above the root. -/
def enter (fs : FileSystem) (place : List Text) (c : Text) : Except OsError (List Text) :=
  match fs.root.at? place with
  | some (.directory entries) =>
    if c = [] ∨ c = "." then .ok place
    else if c = ".." then .ok place.dropLast
    else if Path.isLongName c then .error .nameTooLong
    else if (entries.lookup c).isSome then .ok (place ++ [c])
    else .error .notFound
  | some _ => .error .notDirectory
  | none => .error .notFound

/-- The place to which the components of a path lead from another. -/
def follow (fs : FileSystem) (place : List Text) (cs : List Text) : Except OsError (List Text) :=
  cs.foldlM fs.enter place

/-- Where a path begins, and its components. -/
def start (fs : FileSystem) (path : Text) : Except OsError (List Text × List Text) :=
  if Path.isLong path then .error .nameTooLong
  else
    match path with
    | [] => .error .notFound
    | '/' :: rest => .ok ([], splitOn '/' rest)
    | _ => .ok (fs.working, splitOn '/' path)

/-- What stands at a path. -/
def find (fs : FileSystem) (path : Text) : Except OsError FileNode := do
  let (place, cs) ← fs.start path
  let place ← fs.follow place cs
  match fs.root.at? place with
  | some node => pure node
  | none => throw .notFound

/-! ## Writing -/

/-- Where a text goes that is written to an entry of the directory at a place. A directory is not
overwritten. -/
def targetIn (fs : FileSystem) (place : List Text) (entries : List (Text × FileNode))
    (name : Text) : Except OsError Target :=
  if Path.isLongName name then .error .nameTooLong
  else
    match entries.lookup name with
    | some (.directory _) => .error .isDirectory
    | some (.device _) => .ok (if place ++ [name] = fs.stdout then .stdout else .device)
    | _ => .ok (.file (place ++ [name]))

/-- Where a text goes that is written to a path. A file is not created behind a slash. -/
def target (fs : FileSystem) (path : Text) : Except OsError Target := do
  let (place, cs) ← fs.start path
  let closed := cs.reverse.dropWhile (· = [])
  let name := closed.headD "."
  if name = "." ∨ name = ".." then do
    let _ ← fs.follow place closed.reverse
    throw .isDirectory
  else do
    let place ← fs.follow place closed.tail.reverse
    match fs.root.at? place with
    | some (.directory entries) =>
      if cs.getLast? = some [] then throw .isDirectory else fs.targetIn place entries name
    | some _ => throw .notDirectory
    | none => throw .notFound

/-- The system after a text has been written to a path. -/
def write (fs : FileSystem) (path text : Text) : FileSystem :=
  match fs.target path with
  | .ok (.file names) => { fs with root := FileNode.put (.file (bytes text)) names fs.root }
  | _ => fs

end FileSystem

end StylusSurvey
