import InstrumentRelay.Bytes
import InstrumentRelay.Error

/-!
# Files and folders

A path is a text in which slashes stand between names. It leads from folder to folder, from the root
if a slash comes first and from the working folder otherwise, to a file or a folder. Names and
paths are bounded in length, counted in bytes, and cannot hold the character NUL.

`FileTree.read` gives the content of the file to which a path leads, or what is wrong with the path:
of several faults the text of the path itself has precedence, and then the first one on the way.
-/

namespace InstrumentRelay

namespace FilePath

/-- How long a name can be, in bytes. -/
def longestName : Nat := 255

/-- How long a path can be, in bytes. -/
def longestPath : Nat := 4095

/-- The names in a path. A slash at one of its ends has an empty name beside it, and so have two
slashes in a row between them. -/
def names (path : String) : List String := path.splitOn "/"

/-- The name is not too long. -/
def nameFits (name : String) : Bool := name.utf8ByteSize ≤ longestName

/-- The name says something new: it neither stays at its place nor goes back. -/
def isProper (name : String) : Bool := name ≠ "" && name ≠ "." && name ≠ ".."

/-- What is wrong with a text as a path, wherever it might lead. -/
def fault? (path : String) : Option IoKind :=
  if path.toList.contains '\x00' then some .invalidInput
  else if path = "" then some .notFound
  else if longestPath < path.utf8ByteSize then some .invalidFilename
  else none

/-- A file can be made under this path, if need be along with the folders on the way. -/
def isUsable (path : String) : Bool :=
  (fault? path).isNone && (names path).all nameFits && isProper ((names path).getLastD "")

end FilePath

/-- What can be found at the end of a path. -/
inductive FileEntry where
  /-- A file, with its content. -/
  | file (content : Bytes)
  /-- A folder. -/
  | folder
  deriving DecidableEq, Repr

/-- The files and folders of a machine. -/
structure FileTree where
  /-- What is at the end of these names, from the root. -/
  entry? : List String → Option FileEntry
  /-- The names of the working folder. -/
  home : List String

namespace FileTree

/-- What these names lead to from a place. All but the last one have to be names of folders; a
single dot stays at its place, and two dots go back by one. -/
def follow (t : FileTree) (place : List String) : List String → Except IoKind FileEntry
  | [] => (t.entry? place).elim (.error .notFound) .ok
  | name :: rest =>
    match t.entry? place with
    | none => .error .notFound
    | some (.file _) => .error .notADirectory
    | some .folder =>
      if name = "" ∨ name = "." then t.follow place rest
      else if name = ".." then t.follow place.dropLast rest
      else if FilePath.nameFits name then t.follow (place ++ [name]) rest
      else .error .invalidFilename

/-- What a path leads to. -/
def find (t : FileTree) (path : String) : Except IoKind FileEntry :=
  match FilePath.fault? path with
  | some kind => .error kind
  | none => t.follow (if path.front = '/' then [] else t.home) (FilePath.names path)

/-- The content of the file to which a path leads. -/
def read (t : FileTree) (path : String) : Except IoKind Bytes := do
  match ← t.find path with
  | .file content => return content
  | .folder => throw .isDirectory

end FileTree

end InstrumentRelay
