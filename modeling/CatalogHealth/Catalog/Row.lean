import CatalogHealth.Snapshot.Basic
import CatalogHealth.Value.Reading

/-!
# Rows of the catalogue

Each query answers rows of a fixed width, and each row is read by its
positions. Missing sizes and counts are taken as zero, missing texts as empty
where a text is needed; other values are kept as they are. The share of dead rows
stands in for the bloat of a table.
-/

namespace CatalogHealth

/-- A row: its values in the order of the query's columns. -/
abbrev Row := List Value

namespace Row

/-- A row that has a given width. -/
def ofWidth (width : Nat) (row : Row) : Except Fault Row :=
  if row.length < width then .error (.tooFewValues width row.length)
  else if width < row.length then .error (.tooManyValues width)
  else .ok row

end Row

namespace Value

/-- The integer that a value is or spells; nothing and what is empty count as
zero. -/
def integerOrZero (value : Value) : Except Fault Int :=
  if value.truthy then value.integer else .ok 0

/-- A value; nothing and what is empty count as the empty text. -/
def orEmpty (value : Value) : Value := if value.truthy then value else .text ""

end Value

/-- A table by schema and name. -/
structure TableName where
  /-- The schema. -/
  schema : Value
  /-- The table. -/
  table : Value
deriving DecidableEq, Repr

namespace TableName

/-- The table of a schema and a name, unless one of them cannot be looked up. -/
def of (schema table : Value) : Except Fault TableName := do
  return { schema := ← schema.asMember, table := ← table.asMember }

/-- Whether two tables have the same schema and name. -/
def same (a b : TableName) : Bool := a.schema.same b.schema && a.table.same b.table

end TableName

/-- The share of dead rows among all rows, if both counts are known and there
are rows at all. -/
def deadShare (live dead : Value) : Except Fault (Option Binary64) :=
  if live = .null ∨ dead = .null then .ok none
  else
    match live.number?, dead.number? with
    | some l, some d => do
      let total ← l.add d
      if total.le (.int 0) then return none else return some (← d.div total)
    | _, _ => .error (.unsupportedOperands "+" live.kindName dead.kindName)

/-- A column and its table from a row. -/
def columnOfRow (row : Row) : Except Fault (TableName × Column) := do
  match ← row.ofWidth 5 with
  | [schema, table, name, dataType, notNull] =>
    return (← TableName.of schema table, { name, dataType, notNull := notNull.truthy })
  | _ => throw .wrongKind

/-- The letters with which the catalogue marks the kinds of constraints. -/
def constraintMarks : List (String × ConstraintType) :=
  [("p", .primaryKey), ("f", .foreignKey), ("u", .unique), ("c", .check), ("n", .notNull),
   ("x", .exclude)]

/-- The kind of constraint that the catalogue marks with a letter. -/
def constraintKindOf (mark : Value) : Except Fault ConstraintType :=
  match constraintMarks.find? fun entry => mark = .text entry.1 with
  | some (_, kind) => .ok kind
  | none => if mark.isScalar then .error (.missingKey mark.quoted) else .error .wrongKind

/-- A constraint from a row. -/
def constraintOfRow (row : Row) : Except Fault Constraint := do
  match ← row.ofWidth 9 with
  | [schema, table, name, mark, validated, columns, refSchema, refTable, refColumns] =>
    let kind ← constraintKindOf mark
    let columns ← columns.membersOrNone
    let refColumns ← refColumns.membersOrNone
    return { name
             kind
             tableSchema := schema
             tableName := table
             columns
             refSchema := refSchema.orEmpty
             refTable := refTable.orEmpty
             refColumns
             validated := validated.truthy }
  | _ => throw .wrongKind

/-- A sequence from a row. -/
def sequenceOfRow (row : Row) : Except Fault Sequence := do
  match ← row.ofWidth 8 with
  | [schema, name, dataType, lastValue, minValue, maxValue, increment, cycle] =>
    let increment ← increment.integer
    return { schema
             name
             dataType
             lastValue
             minValue
             maxValue
             increment
             cycle := cycle.truthy }
  | _ => throw .wrongKind

/-- What belongs to a table, in order. -/
def belongingTo {α : Type} (table : TableName) (pairs : List (TableName × α)) : List α :=
  (pairs.filter fun pair => pair.1.same table).map (·.2)

/-- A table from a row and from what was read of its columns, indexes and
constraints. -/
def tableOfRow (columns : List (TableName × Column)) (indexNames constraintNames :
    List (TableName × Value)) (row : Row) : Except Fault Table := do
  match ← row.ofWidth 6 with
  | [schema, table, rowEstimate, sizeBytes, live, dead] =>
    let key ← TableName.of schema table
    let rowEstimate ← rowEstimate.integerOrZero
    let sizeBytes ← sizeBytes.integerOrZero
    let bloatRatio ← deadShare live dead
    return { schema
             name := table
             columns := belongingTo key columns
             rowEstimate
             sizeBytes
             bloatRatio
             indexNames := belongingTo key indexNames
             constraintNames := belongingTo key constraintNames }
  | _ => throw .wrongKind

/-- What identifies the index of a row: its schema, its table and its name. -/
structure IndexName where
  /-- The schema. -/
  schema : Value
  /-- The table. -/
  table : Value
  /-- The index. -/
  index : Value
deriving DecidableEq, Repr

/-- Whether two rows are about the same index. -/
def IndexName.same (a b : IndexName) : Bool :=
  a.schema.same b.schema && a.table.same b.table && a.index.same b.index

/-- What identifies the index of a row, if the row is long enough. -/
def indexNameOfRow? : Row → Option IndexName
  | schema :: table :: index :: _ => some ⟨schema, table, index⟩
  | _ => none

/-- Neighbours with the same key in one group, in order, under the key of the
first of them. -/
def runs {α β : Type} (same : β → β → Bool) : List (β × α) → List (β × List α)
  | [] => []
  | (key, x) :: rest =>
    match runs same rest with
    | [] => [(key, [x])]
    | (k, group) :: more =>
      if same key k then (key, x :: group) :: more else (key, [x]) :: (k, group) :: more

/-- The rows of each index that are complete when a row without a name turns up;
the last index in front of such a row is still waiting for more. -/
def indexGroups (rows : List Row) : List (IndexName × List Row) :=
  let named := (rows.map fun row => (indexNameOfRow? row).map (·, row)).takeWhile Option.isSome
  let groups := runs IndexName.same (named.filterMap id)
  if named.length < rows.length then groups.dropLast else groups

/-- What the first row of an index says about the index itself. -/
structure IndexHead where
  /-- Whether it enforces uniqueness. -/
  isUnique : Value
  /-- Whether the planner may use it. -/
  isValid : Value
  /-- The access method. -/
  method : Value
  /-- The condition of a partial index. -/
  predicate : Value
  /-- The constraint that it backs. -/
  constraintName : Value
  /-- The size in bytes. -/
  sizeBytes : Value
  /-- The number of scans. -/
  scans : Value
  /-- The statement that would build it. -/
  definition : Value
deriving DecidableEq, Repr

/-- What a row says about its index. -/
def indexHeadOfRow (row : Row) : Except Fault IndexHead :=
  match row.take 11 with
  | [_, _, _, isUnique, isValid, method, predicate, constraintName, sizeBytes, scans, definition] =>
    .ok { isUnique, isValid, method, predicate, constraintName, sizeBytes, scans, definition }
  | short => .error (.tooFewValues 11 short.length)

/-- The key of an index in a row; a row without a position holds none. Null
ordering is known for btree indexes only. -/
def indexKeyOfRow (method : Value) (row : Row) : Except Fault (Option IndexKey) := do
  match ← Row.ofWidth 7 (row.drop 11) with
  | [position, name, expression, descending, nullsFirst, opclass, collation] =>
    if position = .null then return none
    return some
      { name
        expression := if name.truthy then .null else expression
        descending := descending.truthy
        nullsFirst := if method = .text "btree" then .bool nullsFirst.truthy else .null
        opclass := opclass.orEmpty
        collation := collation.orEmpty }
  | _ => throw .wrongKind

/-- An index from its name, what its first row says, its keys and a measured
bloat. -/
def indexOfParts (name : IndexName) (head : IndexHead) (keys : List IndexKey)
    (bloatRatio : Option Binary64) : Except Fault Index := do
  let sizeBytes ← head.sizeBytes.integerOrZero
  let scanCount ←
    if head.scans = .null then pure none else some <$> head.scans.integer
  return { name := name.index
           tableSchema := name.schema
           tableName := name.table
           keys
           isUnique := head.isUnique.truthy
           isValid := head.isValid.truthy
           method := head.method
           predicate := head.predicate
           constraintName := head.constraintName
           sizeBytes
           scanCount
           bloatRatio
           definition := head.definition.orEmpty }

end CatalogHealth
