import CatalogHealth.Value.Basic

/-!
# Options of generated statements

How statements are written, and whether indexes for foreign keys are generated
at all. Options are set by name; a flag takes the truth of any value, while the
indentation and the place of `idx` in index names are checked.
-/

namespace CatalogHealth

/-- Where `idx` stands in the name of a generated index. -/
inductive Placement where
  /-- At the end. -/
  | suffix
  /-- At the beginning. -/
  | front
  /-- Nowhere. -/
  | absent
deriving DecidableEq, Repr

namespace Placement

/-- The name of a placement in documents. -/
def name : Placement → String
  | suffix => "suffix"
  | front => "prefix"
  | absent => "none"

/-- The placement that a value names. -/
def ofValue (value : Value) : Except Fault Placement :=
  match [suffix, front, absent].find? fun placement => value = .text placement.name with
  | some placement => .ok placement
  | none => do throw (.unknownPlacement (← value.shownQuoted))

end Placement

/-- How statements are written. -/
structure GeneratingOptions where
  /-- Whether indexes are built, dropped and rebuilt without locking. Such
  statements cannot stand inside a transaction. -/
  concurrently : Bool := true
  /-- Whether keywords are written in capitals. -/
  uppercaseKeywords : Bool := false
  /-- Whether a statement that builds an index takes two lines. -/
  breakLines : Bool := true
  /-- The number of spaces in front of the second line. -/
  indentation : Nat := 4
  /-- Whether an index for a foreign key skips rows in which a nullable column
  is null. -/
  excludeNulls : Bool := true
  /-- Whether the name of such an index says so. -/
  nameWithoutNulls : Bool := true
  /-- Where `idx` stands in the name of an index. -/
  placement : Placement := .suffix
  /-- Whether indexes for foreign keys are generated. -/
  indexForeignKeys : Bool := false
  /-- The indentation is small. -/
  indentation_le : indentation ≤ 8 := by decide
deriving DecidableEq, Repr

namespace GeneratingOptions

/-- The options where none is set. -/
def standard : GeneratingOptions := {}

/-- The names of the options in documents. -/
def names : List String :=
  ["concurrently", "uppercase_keywords", "break_lines", "indentation", "exclude_nulls",
   "name_without_nulls", "idx_position", "index_foreign_keys"]

/-- The indentation that a value stands for. -/
def checkedIndentation : Value → Except Fault { n : Nat // n ≤ 8 }
  | .int value =>
    if h : 0 ≤ value ∧ value ≤ 8 then .ok ⟨value.toNat, by omega⟩
    else .error .indentationOutOfRange
  | _ => .error .indentationNotInteger

/-- The options that some settings give, the last setting of a name winning;
an unknown name is refused. -/
def ofEntries (entries : List (String × Value)) : Except Fault GeneratingOptions := do
  if entries.any fun entry => !names.contains entry.1 then throw .wrongKind
  let setting (name : String) : Option Value := entries.reverse.lookup name
  let flag (name : String) (default : Bool) : Bool :=
    ((setting name).map Value.truthy).getD default
  let ⟨indentation, indentation_le⟩ ←
    checkedIndentation ((setting "indentation").getD (.int 4))
  let placement ← Placement.ofValue ((setting "idx_position").getD (.text "suffix"))
  return { concurrently := flag "concurrently" true
           uppercaseKeywords := flag "uppercase_keywords" false
           breakLines := flag "break_lines" true
           indentation
           excludeNulls := flag "exclude_nulls" true
           nameWithoutNulls := flag "name_without_nulls" true
           placement
           indexForeignKeys := flag "index_foreign_keys" false
           indentation_le }

/-- Keywords as the options want them. -/
def keyword (options : GeneratingOptions) (words : String) : String :=
  if options.uppercaseKeywords then String.ofList (words.toList.map Char.toUpper) else words

end GeneratingOptions

end CatalogHealth
