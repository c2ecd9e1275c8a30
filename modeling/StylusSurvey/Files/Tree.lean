import StylusSurvey.Files.Path
import StylusSurvey.Text.Utf8

/-!
# File trees

A directory with everything below it. The files of a tree are given by the names
on the way to them from its root.
-/

namespace StylusSurvey

open Text

/-- Why the system refuses to open a path. -/
inductive OsError where
  | notFound
  | notDirectory
  | isDirectory
  | nameTooLong
  /-- Any other reason, with its text. -/
  | other (message : Text)
deriving DecidableEq, Repr

/-- The message of a system error. -/
def OsError.message : OsError → Text
  | notFound => "No such file or directory (os error 2)"
  | notDirectory => "Not a directory (os error 20)"
  | isDirectory => "Is a directory (os error 21)"
  | nameTooLong => "File name too long (os error 36)"
  | other m => m

/-- A file, or a directory with its entries. -/
inductive FileNode where
  | file (content : Bytes)
  /-- A device, which is no file. It reads as the given content, and what is written to it is
  gone. -/
  | device (content : Bytes)
  | directory (entries : List (Text × FileNode))

namespace FileNode

/-- A directory without entries. -/
def empty : FileNode :=
  directory []

/-- What stands at the names. -/
def at? : List Text → FileNode → Option FileNode
  | [], node => some node
  | name :: names, directory es => (es.lookup name).bind (at? names)
  | _ :: _, file _ => none
  | _ :: _, device _ => none

/-! ## Changes -/

/-- The entries with one of the given name and node in place of any other of that name. -/
def setEntry (name : Text) (node : FileNode) : List (Text × FileNode) → List (Text × FileNode)
  | [] => [(name, node)]
  | (n, old) :: entries =>
    if n = name then (name, node) :: entries else (n, old) :: setEntry name node entries

/-- The entries of a directory. -/
def entries : FileNode → List (Text × FileNode)
  | directory es => es
  | _ => []

/-- The entry of that name, or an empty directory. -/
def entryOr (name : Text) (node : FileNode) : FileNode :=
  (node.entries.lookup name).getD empty

/-- The tree with a node at the given names, and the directories on the way to it. -/
def put (node : FileNode) : List Text → FileNode → FileNode
  | [], _ => node
  | name :: names, root =>
    directory (setEntry name (put node names (root.entryOr name)) root.entries)

/-- The tree with a file at the path, whose components are names. -/
def addFile (root : FileNode) (path : Text) (content : Bytes) : FileNode :=
  put (file content) (Path.components path) root

/-- The tree with a directory at the path, whose components are names. What stands there
already is kept. -/
def addDirectory (root : FileNode) (path : Text) : FileNode :=
  put ((Path.components path).foldl (fun node name => node.entryOr name) root)
    (Path.components path) root

mutual

/-- The files from a node on, which has the given path, with their content. -/
def filesFrom (path : Text) : FileNode → List (Text × Bytes)
  | file content => [(path, content)]
  | device _ => []
  | directory es => filesIn path es

/-- The files in and below a directory of the given path. -/
def filesIn (path : Text) : List (Text × FileNode) → List (Text × Bytes)
  | [] => []
  | (name, node) :: es => filesFrom (Path.join path name) node ++ filesIn path es

end

/-- All files of the tree with their paths. -/
def files (root : FileNode) : List (Text × Bytes) :=
  filesFrom [] root

/-- The files of the tree that an older tree does not have, or has with another content. -/
def changedFrom (old new : FileNode) : List (Text × Bytes) :=
  new.files.filter (· ∉ old.files)

/-! ## Order -/

/-- The entries with one more, in the order of names if they were. -/
def insertEntry (name : Text) (node : FileNode) : List (Text × FileNode) → List (Text × FileNode)
  | [] => [(name, node)]
  | (n, other) :: entries =>
    if name < n then (name, node) :: (n, other) :: entries
    else (n, other) :: insertEntry name node entries

mutual

/-- The node with the entries of every directory in the order of their names. -/
def sorted : FileNode → FileNode
  | file content => file content
  | device content => device content
  | directory es => directory (sortedEntries es)

/-- The entries in the order of their names, each sorted itself. -/
def sortedEntries : List (Text × FileNode) → List (Text × FileNode)
  | [] => []
  | (name, node) :: es => insertEntry name node.sorted (sortedEntries es)

end

end FileNode

end StylusSurvey
