import CatalogHealth.CommandLine.Execution

/-!
# The program

The files that a command may read are fetched first; the command is then carried
out on them, and what it printed and wrote is passed on. No database driver is
linked, so a database cannot be reached from here.
-/

namespace CatalogHealth.CommandLine

/-- The file at a place, if it can be read. -/
def fetch (place : Place) : IO (List (Place × FileContent)) := do
  match ← (IO.FS.readFile place.path).toBaseIO with
  | .ok characters => return [(place, .text characters)]
  | .error _ => return []

/-- A text is written to the file at a place. -/
def store (place : Place) (text : String) : IO Unit := do
  if 2 < place.length then IO.FS.createDirAll (Place.path place.dropLast)
  IO.FS.writeFile place.path text

/-- The place that an absolute path names. -/
def placeOfAbsolute (path : String) : Place := (FileTree.pathNames path).foldl FileTree.enter [""]

/-- The string that is printed for a text. A half of a pair, which has no bytes, is
replaced. -/
def printed (t : Text) : String :=
  String.ofList (t.points.map fun point => point.char?.getD '\ufffd')

end CatalogHealth.CommandLine

open CatalogHealth CommandLine in
/-- A command line is carried out. -/
def main (words : List String) : IO UInt32 := do
  let work := placeOfAbsolute (← IO.currentDir).toString
  let home := placeOfAbsolute ((← IO.getEnv "HOME").getD "/")
  let tree : FileTree := { work, home }
  let places := (Invocation.ofWords words).inputs tree
  let files := (← places.mapM fetch).flatten
  let (exit, console) := run words { tree := { tree with files } }
  IO.print (printed console.out)
  IO.eprint (printed console.err)
  for (place, text) in console.written do store place text
  match exit with
  | .code code => return code.toUInt32
  | .fault fault => do
    IO.eprintln (printed fault.line)
    return 1
