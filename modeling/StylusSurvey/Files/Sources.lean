import StylusSurvey.Files.Tree

/-!
# Source files

The source files that a list of paths stands for. A path to a file stands for
that file, and a path to a directory for the source files below it, entries in
the order of their names. Directories with build products and settings are
passed over, unless a path leads to one.
-/

namespace StylusSurvey

open Text

/-- A file to be read as a source. -/
structure SourceFile where
  path : Text
  content : Bytes
deriving DecidableEq, Repr

namespace SourceFile

/-- Entries of this name are passed over. -/
def isSkipped (name : Text) : Bool :=
  name = "target" || name = ".git" || name = ".cargo"

/-- A file of this name is a source file. -/
def isSource (name : Text) : Bool :=
  Path.extension? name = some ['r', 's']

mutual

/-- The source files from an entry on that has the given name and path. -/
def fromEntry (name path : Text) : FileNode → List SourceFile
  | .file content => if isSource name then [{ path, content }] else []
  | .device _ => []
  | .directory entries => below path entries

/-- The source files in and below a directory of the given path. -/
def below (path : Text) : List (Text × FileNode) → List SourceFile
  | [] => []
  | (name, node) :: entries =>
    (if isSkipped name then [] else fromEntry name (Path.join path name) node) ++ below path entries

end

/-- The source files that a path stands for at which the node stands. -/
def ofNode (path : Text) (node : FileNode) : List SourceFile :=
  match node with
  | .file content => [{ path, content }]
  | .device _ => []
  | .directory _ => below path node.sorted.entries

end SourceFile

end StylusSurvey
