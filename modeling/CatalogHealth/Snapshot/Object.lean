import CatalogHealth.Value.Comparison

/-!
# Tables, indexes, constraints and sequences

The four kinds of objects that a catalogue lists, with the identifiers under
which findings name them. An index lives in the schema of its table. A
constraint is identified by its table and its own name, because foreign key
and check names are unique only within a table. Names and types are texts where
the catalogue is well formed, but a document may put any value in their place;
it is kept as it is, and identifiers show it as running text. An integer of too many
digits is no running text, and what would show one cannot be written.
-/

namespace CatalogHealth

/-- A name below its schema. -/
def qualify (schema name : Value) : Text := schema.display ++ "." ++ name.display

/-- The identifier of a text below a text joins them with a point. -/
theorem qualify_text (schema name : Text) :
    qualify (.text schema) (.text name) = schema ++ "." ++ name := rfl

/-- A column of a table. -/
structure Column where
  /-- The column's name. -/
  name : Value
  /-- The declared type, empty if nothing is known of it. -/
  dataType : Value := .text ""
  /-- Whether the column refuses nulls. -/
  notNull : Bool := false
deriving DecidableEq, Repr

/-- A table. -/
structure Table where
  /-- The schema that holds the table. -/
  schema : Value
  /-- The table's own name. -/
  name : Value
  /-- The columns in order. -/
  columns : List Column := []
  /-- The estimated number of rows. -/
  rowEstimate : Int := 0
  /-- The size on disk in bytes. -/
  sizeBytes : Int := 0
  /-- The share of dead or free space, if it was estimated. -/
  bloatRatio : Option Binary64 := none
  /-- The names of the table's indexes. -/
  indexNames : List Value := []
  /-- The names of the table's constraints. -/
  constraintNames : List Value := []
deriving DecidableEq, Repr

namespace Table

/-- The identifier of a table. -/
def qualifiedName (table : Table) : Text := qualify table.schema table.name

/-- The first column of that name. -/
def column? (table : Table) (name : Value) : Option Column :=
  table.columns.find? fun column => column.name.equals name

end Table

/-- One key of an index: a plain column, or an expression if it has no name. -/
structure IndexKey where
  /-- The column's name; an expression has none. -/
  name : Value := .null
  /-- The text of the expression. -/
  expression : Value := .null
  /-- Whether the key is in descending order. -/
  descending : Bool := false
  /-- Whether nulls come first, absent if that is not known. -/
  nullsFirst : Value := .null
  /-- The operator class unless it is the default one. -/
  opclass : Value := .text ""
  /-- The collation unless it is the default one. -/
  collation : Value := .text ""
deriving DecidableEq, Repr

/-- What two keys have to share for their indexes to serve the same lookups. -/
structure KeySignature where
  /-- The column's name, or the expression in parentheses. -/
  key : Value
  /-- Whether the key is in descending order. -/
  descending : Bool
  /-- Whether nulls come first, absent if that is not known. -/
  nullsFirst : Value
  /-- The operator class. -/
  opclass : Value
  /-- The collation. -/
  collation : Value
deriving DecidableEq, Repr

namespace KeySignature

/-- Whether two signatures are the same, part by part. -/
def same (a b : KeySignature) : Bool :=
  a.key.same b.key && a.descending == b.descending && a.nullsFirst.same b.nullsFirst &&
    a.opclass.same b.opclass && a.collation.same b.collation

/-- Whether two lists of signatures are the same, key by key. -/
def allSame : List KeySignature → List KeySignature → Bool
  | [], [] => true
  | a :: as, b :: bs => a.same b && allSame as bs
  | _, _ => false

end KeySignature

namespace IndexKey

/-- Whether the key is an expression. -/
def isExpression (key : IndexKey) : Bool := key.name = .null

/-- The text of an expression in parentheses, which stay empty without one. -/
def expressionText (key : IndexKey) : Text :=
  "(" ++ (if key.expression.truthy then key.expression.display else "") ++ ")"

/-- Whether the signature of a key can be written: a column stands in it as it is, and an
expression as running text. -/
def isWritable (key : IndexKey) : Bool := !key.isExpression || key.expression.isWritable

/-- The signature of a key. -/
def signature (key : IndexKey) : KeySignature where
  key := if key.isExpression then .text key.expressionText else key.name
  descending := key.descending
  nullsFirst := key.nullsFirst
  opclass := key.opclass
  collation := key.collation

end IndexKey

/-- An index. -/
structure Index where
  /-- The index's own name. -/
  name : Value
  /-- The schema of its table, which is also its own. -/
  tableSchema : Value
  /-- The name of its table. -/
  tableName : Value
  /-- The keys in order. -/
  keys : List IndexKey := []
  /-- Whether the index enforces uniqueness. -/
  isUnique : Bool := false
  /-- Whether the planner may use the index. -/
  isValid : Bool := true
  /-- The access method. -/
  method : Value := .text "btree"
  /-- The condition of a partial index. -/
  predicate : Value := .null
  /-- The constraint that the index backs. -/
  constraintName : Value := .null
  /-- The size on disk in bytes. -/
  sizeBytes : Int := 0
  /-- The number of scans since the statistics were reset, if it is known. -/
  scanCount : Option Int := none
  /-- The share of free space, if it was estimated. -/
  bloatRatio : Option Binary64 := none
  /-- The statement that would build the index. -/
  definition : Value := .text ""
deriving DecidableEq, Repr

namespace Index

/-- The identifier of an index. -/
def qualifiedName (index : Index) : Text := qualify index.tableSchema index.name

/-- The identifier of the table that owns the index. -/
def tableQualifiedName (index : Index) : Text := qualify index.tableSchema index.tableName

/-- The column names in key order, if no key is an expression. -/
def columnNames? (index : Index) : Option (List Value) :=
  if index.keys.any IndexKey.isExpression then none else some (index.keys.map (·.name))

/-- The signatures of the keys in order. -/
def signature (index : Index) : List KeySignature := index.keys.map (·.signature)

/-- The signatures of the keys in order, if they can be written. -/
def writtenSignature (index : Index) : Except Fault (List KeySignature) :=
  if index.keys.all IndexKey.isWritable then .ok index.signature else .error .integerTooLong

/-- Whether a constraint stands or falls with the index. -/
def isConstraintBacking (index : Index) : Bool := index.constraintName.truthy

end Index

/-- The kinds of constraints. -/
inductive ConstraintType where
  /-- A primary key. -/
  | primaryKey
  /-- A reference to the key of another table. -/
  | foreignKey
  /-- A uniqueness constraint. -/
  | unique
  /-- A condition on each row. -/
  | check
  /-- A column that refuses nulls. -/
  | notNull
  /-- An exclusion of overlapping rows. -/
  | exclude
deriving DecidableEq, Repr

namespace ConstraintType

/-- The SQL name of a kind of constraint. -/
def name : ConstraintType → String
  | primaryKey => "PRIMARY KEY"
  | foreignKey => "FOREIGN KEY"
  | unique => "UNIQUE"
  | check => "CHECK"
  | notNull => "NOT NULL"
  | exclude => "EXCLUDE"

/-- All kinds of constraints. -/
def all : List ConstraintType := [primaryKey, foreignKey, unique, check, notNull, exclude]

/-- The kind with a given SQL name. -/
def ofName? (t : Text) : Option ConstraintType := all.find? fun kind => kind.name = t

end ConstraintType

/-- A constraint. -/
structure Constraint where
  /-- The constraint's own name. -/
  name : Value
  /-- Its kind. -/
  kind : ConstraintType
  /-- The schema of its table. -/
  tableSchema : Value
  /-- The name of its table. -/
  tableName : Value
  /-- The constrained columns in order. -/
  columns : List Value := []
  /-- The schema of the referenced table; empty means that of its own table. -/
  refSchema : Value := .text ""
  /-- The name of the referenced table, empty if there is none. -/
  refTable : Value := .text ""
  /-- The referenced columns in order. -/
  refColumns : List Value := []
  /-- Whether all existing rows were checked. -/
  validated : Bool := true
deriving DecidableEq, Repr

namespace Constraint

/-- The identifier of the table that owns the constraint. -/
def tableQualifiedName (con : Constraint) : Text := qualify con.tableSchema con.tableName

/-- The identifier of a constraint: its table's identifier and its own name. -/
def qualifiedName (con : Constraint) : Text := qualify (.text con.tableQualifiedName) con.name

/-- The schema of the referenced table: that of its own table unless another one is
named. -/
def targetSchema (con : Constraint) : Value :=
  if con.refSchema.truthy then con.refSchema else con.tableSchema

/-- The identifier of the referenced table, empty if there is none. -/
def refQualifiedName (con : Constraint) : Text :=
  if con.refTable.truthy then
    qualify con.targetSchema con.refTable
  else ""

/-- The identifier of the referenced table, if it can be written. -/
def writtenReference (con : Constraint) : Except Fault Text :=
  if con.refTable.truthy && !(con.targetSchema.isWritable && con.refTable.isWritable) then
    .error .integerTooLong
  else .ok con.refQualifiedName

/-- An identifier that can be written is the identifier of the referenced table. -/
theorem eq_refQualifiedName_of_writtenReference {con : Constraint} {target : Text}
    (h : con.writtenReference = .ok target) : target = con.refQualifiedName := by
  unfold writtenReference at h
  split at h
  · cases h
  · cases h
    rfl

end Constraint

/-- A sequence. -/
structure Sequence where
  /-- The schema that holds the sequence. -/
  schema : Value
  /-- The sequence's own name. -/
  name : Value
  /-- The integer type of its values. -/
  dataType : Value := .text "bigint"
  /-- The value handed out last. -/
  lastValue : Value := .null
  /-- The least value. -/
  minValue : Value := .null
  /-- The greatest value. -/
  maxValue : Value := .null
  /-- The step between values. -/
  increment : Int := 1
  /-- Whether the sequence starts over at its end. -/
  cycle : Bool := false
deriving DecidableEq, Repr

/-- The identifier of a sequence. -/
def Sequence.qualifiedName (seq : Sequence) : Text := qualify seq.schema seq.name

/-- An object of any of the four kinds. -/
inductive SchemaObject where
  /-- A table. -/
  | table (table : Table)
  /-- An index. -/
  | index (index : Index)
  /-- A constraint. -/
  | constraint (con : Constraint)
  /-- A sequence. -/
  | sequence (seq : Sequence)
deriving DecidableEq, Repr

namespace SchemaObject

/-- The identifier of an object. -/
def qualifiedName : SchemaObject → Text
  | table t => t.qualifiedName
  | index i => i.qualifiedName
  | constraint c => c.qualifiedName
  | sequence s => s.qualifiedName

/-- The object's own name. -/
def name : SchemaObject → Value
  | table t => t.name
  | index i => i.name
  | constraint c => c.name
  | sequence s => s.name

/-- The identifier of the table that owns an index or a constraint. -/
def owner? : SchemaObject → Option Text
  | table _ => none
  | index i => some i.tableQualifiedName
  | constraint c => some c.tableQualifiedName
  | sequence _ => none

end SchemaObject

end CatalogHealth
