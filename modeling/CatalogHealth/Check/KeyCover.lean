import CatalogHealth.Check.Basic
import CatalogHealth.Sorting
import CatalogHealth.Value.Reading

/-!
# Foreign keys without an index

A foreign key is covered when the first columns of an index of its table are
exactly the columns of the key, in any order. Only valid indexes without a
condition count, either btree indexes or, for a single column, hash indexes.
Primary keys and uniqueness constraints count as well, because an index stands
behind each. An index with an expression anywhere among its keys is passed
over. Columns that cannot be members of a set are a fault as soon as they come to
be compared, and the columns of an uncovered key have to be texts and its reference one
that can be written.
-/

namespace CatalogHealth

/-- How the check for uncovered foreign keys presents itself. -/
def foreignKeysWithoutIndexLabel : CheckLabel where
  name := "foreign_keys_without_index"
  category := "constraints"
  description := "Foreign key columns without indexes — slow cascades and lock contention"

/-- The columns by which an index finds rows, if it can serve a foreign key of
the given number of columns. -/
def servingColumns? (count : Nat) (index : Index) : Option (List Value) :=
  match index.columnNames? with
  | none => none
  | some names =>
    if !index.isValid || index.predicate.truthy || names.isEmpty then none
    else if index.method = .text "btree" || (index.method = .text "hash" && count == 1) then
      some names
    else none

/-- Whether an index stands behind every constraint of a kind. -/
def ConstraintType.hasIndex (kind : ConstraintType) : Bool :=
  kind = .primaryKey || kind = .unique

/-- The column lists by which rows of a table can be found. -/
def accessPaths (snapshot : Snapshot) (table : Text) (count : Nat) : List (List Value) :=
  (snapshot.indexesOf table).filterMap (servingColumns? count) ++
    ((snapshot.constraintsOf table).filter fun con => con.kind.hasIndex).map Constraint.columns

/-- Whether a list begins with exactly the columns of a foreign key, in any
order. -/
def beginsWith (key columns : List Value) : Except Fault Bool := do
  let leading := columns.take key.length
  discard (leading.mapM Value.asMember)
  return Value.sameSet leading key

/-- Whether rows can be found by the columns of a foreign key. -/
def isCovered (snapshot : Snapshot) (key : Constraint) : Except Fault Bool := do
  discard (key.columns.mapM Value.asMember)
  (accessPaths snapshot key.tableQualifiedName key.columns.length).anyM (beginsWith key.columns)

/-- The columns of a foreign key that may be null. A column that the table does
not list counts as refusing nulls. -/
def nullableColumns (snapshot : Snapshot) (key : Constraint) : List Value :=
  key.columns.filter fun name =>
    (((snapshot.table? key.tableQualifiedName).bind (·.column? name)).map
      fun column => !column.notNull).getD false

/-- The finding about an uncovered foreign key, given its columns in one text and the
identifier of the referenced table. -/
def uncoveredKeyFinding (snapshot : Snapshot) (key : Constraint) (columns reference : Text) :
    Finding :=
  let table := key.tableQualifiedName
  let target : Text := if reference = "" then "unknown" else reference
  { severity := .warning
    checkName := foreignKeysWithoutIndexLabel.name
    category := foreignKeysWithoutIndexLabel.category
    title := "Foreign key '" ++ key.qualifiedName ++ "' has no covering index"
    detail :=
      "Foreign key '" ++ key.name.display ++ "' on '" ++ table ++ "' (" ++ columns ++
      ") references '" ++ target ++ "' but no index starts with its columns. DELETE and UPDATE " ++
      "on the referenced table must scan " ++
      "'" ++ table ++ "' while holding a lock."
    objectName := key.qualifiedName
    remediation :=
      "Create an index:\n  CREATE INDEX CONCURRENTLY ON " ++ table ++ " (" ++ columns ++ ");"
    metadata :=
      [("schema", key.tableSchema), ("table", key.tableName), ("constraint", key.name),
       ("columns", .list key.columns), ("nullable_columns", .list (nullableColumns snapshot key)),
       ("references", .text reference)] }

/-- What there is to report about a foreign key. -/
def coverReport (snapshot : Snapshot) (key : Constraint) : Except Fault (List Finding) := do
  if key.columns.isEmpty then
    return [foreignKeysWithoutIndexLabel.cannotEvaluate key.qualifiedName
      "foreign key has no columns"]
  if ← isCovered snapshot key then return []
  let columns ← Value.joined key.columns
  return [uncoveredKeyFinding snapshot key columns (← key.writtenReference)]

/-- Foreign keys whose rows can only be found by a scan. -/
def foreignKeysWithoutIndex : Check where
  toCheckLabel := foreignKeysWithoutIndexLabel
  run snapshot _ :=
    ((sortByText Constraint.qualifiedName
      (snapshot.constraints.filter fun con => con.kind = .foreignKey)).mapM
        (coverReport snapshot)).map List.flatten

end CatalogHealth
