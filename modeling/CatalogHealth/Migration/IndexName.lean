import CatalogHealth.Checksum
import CatalogHealth.Migration.Options

/-!
# Names of generated indexes

The full name of an index joins its table and columns with underscores and adds
what the options ask for. The database keeps 63 bytes of a name. A longer one is
replaced by a name in which a checksum stands for the columns and the table is
cut to whole characters, so that the added parts stay intact.
-/

namespace CatalogHealth

/-- The number of bytes that the database keeps of a name. -/
def maxIdentifierBytes : Nat := 63

/-- The bytes of a text in UTF-8. -/
def utf8Bytes (cs : List Char) : List UInt8 := cs.flatMap String.utf8EncodeChar

/-- The number of bytes of a text in UTF-8. -/
def utf8Length (cs : List Char) : Nat := cs.foldr (fun c size => c.utf8Size + size) 0

/-- As many characters from the beginning of a text as fit into some bytes. -/
def cutToBytes : Nat → List Char → List Char
  | _, [] => []
  | room, c :: rest =>
    if c.utf8Size ≤ room then c :: cutToBytes (room - c.utf8Size) rest else []

/-- The cut text fits. -/
theorem utf8Length_cutToBytes (room : Nat) (cs : List Char) :
    utf8Length (cutToBytes room cs) ≤ room := by
  induction cs generalizing room with
  | nil => simp [cutToBytes, utf8Length]
  | cons c rest ih =>
    unfold cutToBytes
    split
    · have := ih (room - c.utf8Size)
      simp only [utf8Length, List.foldr_cons] at *
      omega
    · simp [utf8Length]

/-- The cut text is the beginning of the whole one. -/
theorem cutToBytes_isPrefix (room : Nat) (cs : List Char) : cutToBytes room cs <+: cs := by
  induction cs generalizing room with
  | nil => simp [cutToBytes]
  | cons c rest ih =>
    unfold cutToBytes
    split
    · exact List.cons_prefix_cons.2 ⟨rfl, ih _⟩
    · exact List.nil_prefix

/-- The parts of a name with those that the options add. -/
def decorated (options : GeneratingOptions) (withoutNulls : Bool) (parts : List String) :
    List String :=
  let marked :=
    if withoutNulls && options.nameWithoutNulls then parts ++ ["without_nulls"] else parts
  match options.placement with
  | .suffix => marked ++ ["idx"]
  | .front => "idx" :: marked
  | .absent => marked

/-- A name of some parts. -/
def joinedName (options : GeneratingOptions) (withoutNulls : Bool) (parts : List String) : String :=
  "_".intercalate (decorated options withoutNulls parts)

/-- The full name of an index. -/
def fullIndexName (options : GeneratingOptions) (withoutNulls : Bool) (table : String)
    (columns : List String) : String :=
  joinedName options withoutNulls (table :: columns)

/-- The number that stands for the columns in a shortened name. -/
def columnsDigest (columns : List String) : String :=
  toString ((checksum (utf8Bytes ("_".intercalate columns).toList)).toNat % 10000000)

/-- The beginning of the table's name that a shortened name has room for. -/
def tableHead (options : GeneratingOptions) (withoutNulls : Bool) (table digest : String) :
    String :=
  let tail := joinedName options withoutNulls [digest]
  String.ofList (cutToBytes (maxIdentifierBytes - utf8Length tail.toList - 1) table.toList)

/-- The name of an index, shortened if the full one is too long. -/
def indexName (options : GeneratingOptions) (withoutNulls : Bool) (table : String)
    (columns : List String) : String :=
  let full := fullIndexName options withoutNulls table columns
  if utf8Length full.toList ≤ maxIdentifierBytes then full
  else
    let digest := columnsDigest columns
    joinedName options withoutNulls [tableHead options withoutNulls table digest, digest]

end CatalogHealth
