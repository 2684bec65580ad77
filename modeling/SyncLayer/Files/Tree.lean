import SyncLayer.Error.System
import SyncLayer.Text.Pieces

/-!
# Trees of files

A tree holds directories and files at places. The place of a node is given by the names that lead
to it from the root; the root itself is a directory that is always there.

A path is names with slashes between them. It is followed from the root if it begins with a slash,
and from the working directory of the tree otherwise. Each name is looked up in a directory: the
empty one and `.` stand for that directory, and `..` for the one above it.
-/

namespace SyncLayer

/-- What stands at a place of a tree. -/
inductive FileNode where
  | directory (isWritable : Bool)
  | file (bytes : ByteArray)

/-- The names that lead to a node from the root. -/
abbrev FilePlace := List String

/-- A tree of files. -/
structure FileTree where
  nodes : List (FilePlace × FileNode) := []
  workingDirectory : FilePlace := []

namespace FileTree

/-- The number of bytes that a name may have. -/
def nameLimit : Nat := 255

/-- The number of bytes at which a path is too long. -/
def pathLimit : Nat := 4096

/-- The node at a place. -/
def node? (t : FileTree) (place : FilePlace) : Option FileNode :=
  if place = [] then some (.directory true) else t.nodes.lookup place

/-! ### Places -/

/-- The place of a name that is looked up at a place. -/
def enter (t : FileTree) (place : FilePlace) (name : String) : Except SystemError FilePlace :=
  match t.node? place with
  | none => .error .notFound
  | some (.file _) => .error .notDirectory
  | some (.directory _) =>
    if name = "" ∨ name = "." then .ok place
    else if name = ".." then .ok place.dropLast
    else if nameLimit < name.utf8ByteSize then .error .nameTooLong
    else .ok (place ++ [name])

/-- The names of a path and the place where they are followed from. -/
def route (t : FileTree) (path : String) : Except SystemError (FilePlace × List String) :=
  if path = "" then .error .notFound
  else if pathLimit ≤ path.utf8ByteSize then .error .nameTooLong
  else
    let names := (Text.pieces '/' path.toList).map String.ofList
    .ok (if names.head? = some "" then [] else t.workingDirectory, names)

/-- The place that a path leads to. Nothing needs to stand there. -/
def place (t : FileTree) (path : String) : Except SystemError FilePlace := do
  let (start, names) ← t.route path
  names.foldlM t.enter start

/-! ### Reading -/

/-- The bytes of the file that a path leads to. -/
def read (t : FileTree) (path : String) : Except SystemError ByteArray := do
  match t.node? (← t.place path) with
  | none => .error .notFound
  | some (.directory _) => .error .isDirectory
  | some (.file bytes) => .ok bytes

/-! ### Making files -/

/-- The tree with a node at a place where none stands. -/
def make (t : FileTree) (place : FilePlace) (node : FileNode) : Except SystemError FileTree :=
  match t.node? place.dropLast with
  | some (.directory true) => .ok { t with nodes := t.nodes ++ [(place, node)] }
  | some (.directory false) => .error .notPermitted
  | some (.file _) => .error .notDirectory
  | none => .error .notFound

/-- The tree with a file where a path leads, and the place of the file. A file that stands there
is kept. -/
def withFile (t : FileTree) (path : String) : Except SystemError (FileTree × FilePlace) := do
  let place ← t.place path
  match t.node? place with
  | some (.file _) => .ok (t, place)
  | some (.directory _) => .error .isDirectory
  | none => return (← t.make place (.file .empty), place)

/-- Look a name up at a place, and make the directory that is not there. -/
def enterMaking (here : FileTree × FilePlace) (name : String) :
  Except SystemError (FileTree × FilePlace)
  := do
  let (t, place) := here
  let place ← t.enter place name
  match t.node? place with
  | some (.directory _) => .ok (t, place)
  | some (.file _) => .error .notDirectory
  | none => return (← t.make place (.directory true), place)

/-- The tree with all the directories of a path. -/
def withDirectories (t : FileTree) (path : String) : Except SystemError FileTree := do
  let (start, names) ← t.route path
  return (← names.foldlM enterMaking (t, start)).1

/-! ### What stands below a directory -/

/-- The paths of the files below the working directory, from there. -/
def localFiles (t : FileTree) : List String :=
  t.nodes.filterMap (fun
    | (place, .file _) =>
      if t.workingDirectory.isPrefixOf place then
        some ("/".intercalate (place.drop t.workingDirectory.length))
      else none
    | (_, .directory _) => none)

end FileTree

end SyncLayer
