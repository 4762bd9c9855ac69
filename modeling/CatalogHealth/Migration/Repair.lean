import CatalogHealth.Finding.Basic
import CatalogHealth.Migration.Identifier
import CatalogHealth.Migration.IndexName
import CatalogHealth.Value.Reading

/-!
# Repairs

A repair is one change that a statement makes: dropping an index, rebuilding
one, validating a constraint, or building an index for a foreign key. A finding
asks for a repair by its check and its metadata. Findings of other checks and
findings without the metadata that their repair needs ask for none; neither do
two identical indexes that each back a constraint.
-/

namespace CatalogHealth

/-- A change that a statement makes. -/
inductive Repair where
  /-- An index is dropped. -/
  | dropIndex (schema index : Text)
  /-- An index is built anew. -/
  | reindex (schema index : Text)
  /-- A constraint is checked against all rows. -/
  | validate (schema table constraint : Text)
  /-- An index is built on the columns of a foreign key; rows in which one of
  the nullable columns is null are left out if there are any such columns. -/
  | indexColumns (schema : Text) (table : String) (columns nullable : List String)
deriving DecidableEq, Repr

namespace Metadata

/-- The text under a name. -/
def textOf (metadata : Metadata) (name : String) : Except Fault Text :=
  match metadata.get name with
  | .text value => .ok value
  | _ => .error .wrongKind

/-- The texts under a name, which may be absent or empty. -/
def textsOf (metadata : Metadata) (name : String) : Except Fault (List Text) := do
  (← (metadata.get name).membersOrNone).mapM fun
    | .text value => .ok value
    | _ => .error .wrongKind

/-- The members under a name that are texts; lists and mappings are no
members. -/
def textMembersOf (metadata : Metadata) (name : String) : Except Fault (List Text) := do
  let members ← (metadata.get name).membersOrNone
  if members.all Value.isScalar then return members.filterMap Value.text? else throw .wrongKind

/-- Whether something is recorded under each of some names. -/
def hasAll (metadata : Metadata) (names : List String) : Bool :=
  names.all fun name => (metadata.get name).truthy

end Metadata

namespace Repair

/-- The index for a foreign key, if its finding lists columns. Its name is measured in
bytes, so the names in it need to have some. -/
def ofForeignKey (options : GeneratingOptions) (metadata : Metadata) : Except Fault Repair := do
  let nullable ← metadata.textMembersOf "nullable_columns"
  let columns ← metadata.textsOf "columns"
  let table ← metadata.textOf "table"
  let table ← table.asString
  let columns ← columns.mapM Text.asString
  let schema ← metadata.textOf "schema"
  let filled := columns.filter fun (name : String) => nullable.contains name
  return .indexColumns schema table columns (if options.excludeNulls then filled else [])

/-- The repair that a finding asks for. -/
def ofFinding? (options : GeneratingOptions) (finding : Finding) :
    Except Fault (Option Repair) := do
  let metadata := finding.metadata
  match finding.checkName with
  | "duplicated_indexes" =>
    if metadata.hasAll ["schema", "redundant_index"] then
      return some (.dropIndex (← metadata.textOf "schema") (← metadata.textOf "redundant_index"))
    else return none
  | "unused_indexes" =>
    if metadata.hasAll ["schema", "index"] then
      return some (.dropIndex (← metadata.textOf "schema") (← metadata.textOf "index"))
    else return none
  | "invalid_indexes" | "bloated_indexes" =>
    if metadata.hasAll ["schema", "index"] then
      return some (.reindex (← metadata.textOf "schema") (← metadata.textOf "index"))
    else return none
  | "not_valid_constraints" =>
    if metadata.hasAll ["schema", "table", "constraint"] then
      return some (.validate (← metadata.textOf "schema") (← metadata.textOf "table")
        (← metadata.textOf "constraint"))
    else return none
  | "foreign_keys_without_index" =>
    if options.indexForeignKeys && metadata.hasAll ["schema", "table", "columns"] then
      return some (← ofForeignKey options metadata)
    else return none
  | _ => return none

/-- Whether a repair may stand inside a transaction. -/
def isTransactional (options : GeneratingOptions) : Repair → Bool
  | validate .. => true
  | _ => !options.concurrently

/-- Keywords with the option to avoid locks in their middle. -/
def concurrentKeyword (options : GeneratingOptions) (before after : String) : String :=
  options.keyword (before ++ (if options.concurrently then " concurrently" else "") ++ after)

/-- The condition that some columns are not null. -/
def notNullCondition (options : GeneratingOptions) (columns : List String) : Text :=
  Text.join (" " ++ options.keyword "and" ++ " ")
    (columns.map fun (name : String) =>
      quoteIdentifier name ++ " " ++ options.keyword "is not null")

/-- The statement that builds an index, without the comment on its name. -/
def createIndexSql (options : GeneratingOptions) (name : String) (schema : Text)
    (table : String) (columns nullable : List String) : Text :=
  let separator :=
    if options.breakLines then "\n" ++ String.ofList (List.replicate options.indentation ' ')
    else " "
  concurrentKeyword options "create index" " if not exists" ++ " " ++ quoteIdentifier name ++
    separator ++ options.keyword "on" ++ " " ++ qualifiedIdentifier schema table ++ " (" ++
    Text.join ", " (columns.map fun (name : String) => quoteIdentifier name) ++ ")" ++
    (if nullable.isEmpty then ("" : Text)
     else " " ++ options.keyword "where" ++ " " ++ notNullCondition options nullable) ++ ";"

/-- The comment in front of a statement whose index name was shortened. -/
def fullNameComment (options : GeneratingOptions) (full : String) : String :=
  "/* " ++ full ++ " */" ++ (if options.breakLines then "\n" else " ")

/-- The statement that makes a repair. -/
def sql (options : GeneratingOptions) : Repair → Text
  | dropIndex schema index =>
    concurrentKeyword options "drop index" " if exists" ++ " " ++
      qualifiedIdentifier schema index ++ ";"
  | reindex schema index =>
    concurrentKeyword options "reindex index" "" ++ " " ++ qualifiedIdentifier schema index ++ ";"
  | validate schema table constraint =>
    options.keyword "alter table if exists" ++ " " ++ qualifiedIdentifier schema table ++ " " ++
      options.keyword "validate constraint" ++ " " ++ quoteIdentifier constraint ++ ";"
  | indexColumns schema table columns nullable =>
    let withoutNulls := !nullable.isEmpty
    let full := fullIndexName options withoutNulls table columns
    let name := indexName options withoutNulls table columns
    (if name = full then "" else fullNameComment options full) ++
      createIndexSql options name schema table columns nullable

end Repair

end CatalogHealth
