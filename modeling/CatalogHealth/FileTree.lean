import CatalogHealth.Text.Split
import CatalogHealth.Yaml.Document

/-!
# Files

A command reads a configuration and a snapshot and writes reports. Files stand
at places in a tree of directories; a path leads from the working directory, or
from the root, to a place. Only what the paths of a command can show is kept:
there are no permissions, links or times.
-/

namespace CatalogHealth

/-- What a file holds. -/
inductive FileContent where
  /-- A text. -/
  | text (characters : String)
  /-- A text of which only the value is known that it is read as. -/
  | document (value : Value)

/-- The value that a file is read as. -/
def FileContent.value : FileContent → Except Fault Value
  | text characters => Yaml.read characters
  | document value => .ok value

/-- The way to a file or directory: the name of the root, then the names of the
directories, then its own. -/
abbrev Place := List String

/-- The path that shows a place. -/
def Place.path (place : Place) : String := "/".intercalate place

/-- Files in their directories. -/
structure FileTree where
  /-- The files. -/
  files : List (Place × FileContent) := []
  /-- Directories that may be empty. The others follow from what stands in
  them. -/
  directories : List Place := []
  /-- The working directory. -/
  work : Place := [""]
  /-- The directory that belongs to the user. -/
  home : Place := [""]

namespace FileTree

/-- The content of the file at a place. -/
def content? (tree : FileTree) (place : Place) : Option FileContent := tree.files.lookup place

/-- Whether a place holds a file. -/
def isFile (tree : FileTree) (place : Place) : Bool := (tree.content? place).isSome

/-- All places of which a tree knows that they, or the directories on the way to
them, are there. -/
def knownPlaces (tree : FileTree) : List Place :=
  tree.work :: tree.home :: tree.directories ++ tree.files.map (·.1)

/-- Whether a place holds a directory. -/
def isDirectory (tree : FileTree) (place : Place) : Bool :=
  !tree.isFile place && tree.knownPlaces.any place.isPrefixOf

/-- The names of a path between its slashes. -/
def pathNames (path : String) : List String := (Text.pieces '/' path.toList).map String.ofList

/-- The place from which a path leads: the root, or else the working
directory. -/
def origin (tree : FileTree) (path : String) : Place :=
  if path.toList.head? = some '/' then tree.work.take 1 else tree.work

/-- The place to which one name leads from a directory. The root is its own
parent. -/
def enter (here : Place) (name : String) : Place :=
  if name = "" || name = "." then here
  else if name = ".." then if here.length ≤ 1 then here else here.dropLast
  else here ++ [name]

/-- The place to which names lead; on the way every place has to be a
directory. -/
def follow (tree : FileTree) : Place → List String → Option Place
  | here, [] => some here
  | here, name :: rest =>
    if tree.isDirectory here then follow tree (enter here name) rest else none

/-- The place to which a path leads. -/
def place? (tree : FileTree) (path : String) : Option Place :=
  tree.follow (tree.origin path) (pathNames path)

/-- The content of the file to which a path leads. -/
def read? (tree : FileTree) (path : String) : Option FileContent :=
  (tree.place? path).bind tree.content?

/-- A file put at a place, in place of the file that was there. -/
def putFile (tree : FileTree) (place : Place) (content : FileContent) : FileTree :=
  { tree with files := (place, content) :: tree.files.filter fun file => file.1 ≠ place }

/-- The greatest number of bytes of a name. -/
def nameLimit : Nat := 255

/-- The greatest number of bytes of a path. -/
def pathLimit : Nat := 4095

/-- Whether something may be made at a path of which the last name and the
directory that would hold it are given. -/
def checkName (tree : FileTree) (here : Place) (path name : String) : Except Fault Unit :=
  if name.toList.contains '\x00' then .error .zeroInPath
  else if pathLimit < path.utf8ByteSize then .error (.nameTooLong path)
  else if tree.isFile here then .error (.belowFile path)
  else if nameLimit < name.utf8ByteSize then .error (.nameTooLong path)
  else .ok ()

/-- The tree with the directories to which names lead made where they are
missing, and the last of them. The names that were followed so far show where a
file is in the way. -/
def makeDirectories (tree : FileTree) (here : Place) (followed : List String) :
    List String → Except Fault (FileTree × Place)
  | [] => .ok (tree, here)
  | name :: rest =>
    let followed := followed ++ [name]
    let path := "/".intercalate followed
    let next := enter here name
    if name = "" then tree.makeDirectories here followed rest
    else do
      tree.checkName here path name
      if tree.isFile next then
        if rest.all (· = "") then throw (.directoryIsFile path)
        else tree.makeDirectories next followed rest
      else if tree.isDirectory next then tree.makeDirectories next followed rest
      else
        FileTree.makeDirectories { tree with directories := next :: tree.directories } next followed
          rest

/-- The tree with a text written to the file to which a path leads, and the
place of that file. Missing directories on the way are made. -/
def write (tree : FileTree) (path text : String) : Except Fault (FileTree × Place) := do
  let names := pathNames path
  let (made, parent) ← tree.makeDirectories (tree.origin path) [] names.dropLast
  let name := names.getLast?.getD ""
  made.checkName parent path name
  let target := enter parent name
  if made.isDirectory target then throw (.writesDirectory path)
  return (made.putFile target (.text text), target)

end FileTree

end CatalogHealth
