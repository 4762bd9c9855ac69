import CatalogHealth.Snapshot.Basic
import CatalogHealth.Text.Capital
import CatalogHealth.Text.Split
import CatalogHealth.Value.Reading

/-!
# Snapshots from documents

A snapshot document lists tables, indexes, constraints and sequences as
mappings. A relation is named bare or below its schema; a bare name takes the
schema of its entry, and an entry without one that of the document. Entries are
read in the order of the four lists, and the first fault ends the reading. A
missing key and a value of the wrong kind are faults of the entry, so they are
reported as such; the other faults are reported as they are.
-/

namespace CatalogHealth

/-- The schema and the own name that a relation name stands for: a text with a
point is cut at the first one, any other takes the given schema. A list or a
mapping that holds a point cannot be cut. -/
def relationName (schema : Value) : Value → Except Fault (Value × Value)
  | .text name =>
    match Text.cut (.char '.') name.points with
    | some (before, after) => .ok (.text ⟨before⟩, .text ⟨after⟩)
    | none => .ok (schema, .text name)
  | .list items =>
    if items.contains (.text ".") then .error .noSuchOperation else .ok (schema, .list items)
  | .map entries =>
    if (entries.map (·.1)).contains (.text ".") then .error .noSuchOperation
    else .ok (schema, .map entries)
  | value => .error (.notSearchable value.kindName)

namespace Value

/-- The members under a key that may be missing or hold nothing. -/
def memberList (key : String) (entry : Value) : Except Fault (List Value) := do
  (← entry.lookupD key .null).membersOrNone

/-- The truth of the value under a key. -/
def flag (key : String) (default : Bool) (entry : Value) : Except Fault Bool := do
  return (← entry.lookupD key (.bool default)).truthy

/-- The integer under a key. -/
def integerOr (key : String) (default : Int) (entry : Value) : Except Fault Int := do
  (← entry.lookupD key (.int default)).integer

/-- The binary64 number under a key that may be missing or absent. -/
def real? (key : String) (entry : Value) : Except Fault (Option Binary64) := do
  match ← entry.lookupD key .null with
  | .null => return none
  | value => return some (← value.real)

/-- The schema and the own name of the relation that an entry names under a
key. -/
def relation (entry : Value) (key : String) (schema : Value) : Except Fault (Value × Value) := do
  let name ← entry.require key
  relationName (← entry.lookupD "schema" schema) name

end Value

/-- A column from its entry, which may be its bare name. -/
def Column.ofEntry : Value → Except Fault Column
  | .text name => .ok { name := .text name }
  | entry => do
    let name ← entry.require "name"
    let dataType ← entry.lookupD "type" (.text "")
    let notNull ← entry.flag "not_null" false
    return { name, dataType, notNull }

/-- A table from its entry. -/
def Table.ofEntry (schema : Value) (entry : Value) : Except Fault Table := do
  let (schema, name) ← entry.relation "name" schema
  let columns ← (← entry.memberList "columns").mapM Column.ofEntry
  let rowEstimate ← entry.integerOr "rows" 0
  let sizeBytes ← entry.integerOr "size" 0
  let bloatRatio ← entry.real? "bloat_ratio"
  let indexNames ← entry.memberList "indexes"
  let constraintNames ← entry.memberList "constraints"
  return { schema, name, columns, rowEstimate, sizeBytes, bloatRatio, indexNames, constraintNames }

/-- A key of an index from its entry, which may be its bare column name. -/
def IndexKey.ofEntry : Value → Except Fault IndexKey
  | .text name => .ok { name := .text name }
  | entry => do
    let name ← entry.lookupD "name" .null
    let expression ← entry.lookupD "expression" .null
    let descending ← entry.flag "descending" false
    let nullsFirst ← entry.lookupD "nulls_first" .null
    let opclass ← entry.lookupD "opclass" (.text "")
    let collation ← entry.lookupD "collation" (.text "")
    return { name, expression, descending, nullsFirst, opclass, collation }

/-- An index from its entry. -/
def Index.ofEntry (schema : Value) (entry : Value) : Except Fault Index := do
  let (tableSchema, tableName) ← entry.relation "table" schema
  let name ← entry.require "name"
  let keys ← (← entry.memberList "columns").mapM IndexKey.ofEntry
  let isUnique ← entry.flag "unique" false
  let isValid ← entry.flag "valid" true
  let method ← entry.lookupD "method" (.text "btree")
  let predicate ← entry.lookupD "predicate" .null
  let constraintName ← entry.lookupD "constraint" .null
  let sizeBytes ← entry.integerOr "size" 0
  let scanCount ←
    match ← entry.lookupD "scans" .null with
    | .null => pure none
    | value => some <$> value.integer
  let bloatRatio ← entry.real? "bloat_ratio"
  let definition ← entry.lookupD "definition" (.text "")
  return { name, tableSchema, tableName, keys, isUnique, isValid, method, predicate,
           constraintName, sizeBytes, scanCount, bloatRatio, definition }

/-- The kind of constraint that a document names, in any capitalisation and
with underscores for spaces. -/
def ConstraintType.ofText? (t : Text) : Option ConstraintType :=
  ofName? ⟨t.capitals.points.map fun c => if c = .char '_' then .char ' ' else c⟩

/-- A constraint from its entry. -/
def Constraint.ofEntry (schema : Value) (entry : Value) : Except Fault Constraint := do
  let (tableSchema, tableName) ← entry.relation "table" schema
  let some typeName := (← entry.require "type").text? | throw .noSuchOperation
  let some kind := ConstraintType.ofText? typeName
    | throw (.unknownConstraintType (← (← entry.require "name").shown) typeName)
  let references ← entry.lookupD "references" .null
  let (refSchema, refTable) ←
    if references.truthy then relationName tableSchema references else pure (.text "", .text "")
  let name ← entry.require "name"
  let columns ← entry.memberList "columns"
  let refColumns ← entry.memberList "ref_columns"
  let validated ← entry.flag "validated" true
  return { name, kind, tableSchema, tableName, columns, refSchema, refTable, refColumns, validated }

/-- A sequence from its entry. -/
def Sequence.ofEntry (schema : Value) (entry : Value) : Except Fault Sequence := do
  let (schema, name) ← entry.relation "name" schema
  let dataType ← entry.lookupD "type" (.text "bigint")
  let lastValue ← entry.lookupD "last_value" .null
  let minValue ← entry.lookupD "min_value" .null
  let maxValue ← entry.lookupD "max_value" .null
  let increment ← entry.integerOr "increment" 1
  let cycle ← entry.flag "cycle" false
  return { schema, name, dataType, lastValue, minValue, maxValue, increment, cycle }

/-- A fault that an entry of a document causes: missing keys and values of the
wrong kind are the entry's own. -/
def Fault.inEntry : Fault → Fault
  | .missingKey quoted => .entryLacksKey quoted
  | fault => if fault.kind = .type then .entryOfWrongKind fault.message else fault

namespace Snapshot

/-- The objects that a document lists. -/
def entriesOf (document : Value) (schema : Value) :
    Except Fault (List Table × List Index × List Constraint × List Sequence) := do
  let tables ← (← document.memberList "tables").mapM (Table.ofEntry schema)
  let indexes ← (← document.memberList "indexes").mapM (Index.ofEntry schema)
  let constraints ← (← document.memberList "constraints").mapM (Constraint.ofEntry schema)
  let sequences ← (← document.memberList "sequences").mapM (Sequence.ofEntry schema)
  return (tables, indexes, constraints, sequences)

/-- The snapshot that a document describes. -/
def ofDocument (document : Value) : Except Fault Snapshot := do
  let schema ← document.lookupD "default_schema" (.text "public")
  let (tables, indexes, constraints, sequences) ←
    (entriesOf document schema).mapError Fault.inEntry
  let database ← document.lookupD "database" (.text "")
  ofObjects tables indexes constraints sequences database

/-- The schema of bare names in a document. -/
def defaultSchema (document : List (Value × Value)) : Value :=
  (Value.find? "default_schema" document).getD (.text "public")

/-- A mapping is read with its schema for bare names. -/
theorem ofDocument_map (document : List (Value × Value)) : ofDocument (.map document) = (do
    let (tables, indexes, constraints, sequences) ←
      (entriesOf (.map document) (defaultSchema document)).mapError Fault.inEntry
    let database ← (Value.map document).lookupD "database" (.text "")
    ofObjects tables indexes constraints sequences database) := rfl

/-- The snapshot in a file whose content was read as a value; an empty file
lists no objects. -/
def ofFileContent (path : String) (content : Value) : Except Fault Snapshot :=
  if content.truthy then
    match content with
    | .map entries => ofDocument (.map entries)
    | _ => .error (.snapshotNotMapping path)
  else ofDocument (.map [])

end Snapshot

end CatalogHealth
