import SyncLayer.Files.Tree
import SyncLayer.Logging.Config

/-!
# The log file

The file that is logged to is the one a path names, in the directory that the path names it in. A
path that ends in `..`, or names nothing, stands for a file with the default name. Where the file
cannot be opened its directory is made first.
-/

namespace SyncLayer

/-- A file by its directory and its name there. -/
structure LogFile where
  directory : String
  name : String
deriving DecidableEq, Repr

namespace LogFile

/-- Whether a name on a path stands for the directory it is looked up in. -/
def isIdle (name : List Char) : Bool :=
  name.isEmpty || name == ['.']

/-- The names of a path without the idle ones at its end. The first one is kept: it tells whether
the path begins at the root. -/
def trim : List (List Char) → List (List Char)
  | [] => []
  | first :: rest => first :: (rest.reverse.dropWhile isIdle).reverse

/-- The directory that names lead to. -/
def directoryOf (names : List (List Char)) : String :=
  if names = [[]] then "/" else String.ofList (['/'].intercalate names)

/-- The name that is looked up last, if it is one of a file. -/
def nameOf (last : List Char) : String :=
  if isIdle last ∨ last = ['.', '.'] then LogConfig.defaultFile else String.ofList last

/-- The file that a path stands for. -/
def ofPath (path : String) : LogFile :=
  let names := trim (Text.pieces '/' path.toList)
  match names.dropLast with
  | [] => { directory := ".", name := nameOf (names.getLastD []) }
  | front => { directory := directoryOf (trim front), name := nameOf (names.getLastD []) }

/-- The path of a file. -/
def path (f : LogFile) : String :=
  (if f.directory = "/" then "/" else f.directory ++ "/") ++ f.name

/-- The tree with a log file in it. -/
def openIn (f : LogFile) (t : FileTree) : Except SystemError (FileTree × FilePlace) :=
  match t.withFile f.path with
  | .ok opened => .ok opened
  | .error _ => do (← t.withDirectories f.directory).withFile f.path

end LogFile

/-- The file that is logged to, if there is one. -/
def LogConfig.file? (c : LogConfig) : Option LogFile :=
  c.path.map LogFile.ofPath

end SyncLayer
