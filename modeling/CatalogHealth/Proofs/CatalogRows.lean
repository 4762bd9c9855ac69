import CatalogHealth.Catalog.Row
import CatalogHealth.Proofs.SequenceRoom

/-!
# Rows as the queries answer them

The queries of the catalogue give each of their columns a type: names are texts, counts of rows are
integers of 64 bits, and what a join does not find is absent. Rows of these types are always read,
and this module says as what. Which rows belong together, and what a whole catalogue is read as, is
outside its scope.
-/

namespace CatalogHealth

/-! ## Cells -/

namespace Value

/-- The value of a cell that may be absent. -/
def ofCell {α : Type} (value : α → Value) (cell : Option α) : Value := cell.elim .null value

/-- An absent integer is read as zero. -/
theorem integerOrZero_ofCell (cell : Option Int) :
    (ofCell int cell).integerOrZero = .ok (cell.getD 0) := by
  cases cell with
  | none => rfl
  | some n =>
    by_cases hzero : n = 0
    · rw [hzero]
      rfl
    · have htruthy : (int n).truthy = true := bne_iff_ne.2 hzero
      exact if_pos htruthy

/-- An absent text is read as the empty one. -/
theorem orEmpty_ofCell (cell : Option Text) : (ofCell text cell).orEmpty = text (cell.getD "") := by
  cases cell with
  | none => rfl
  | some t =>
    by_cases hempty : t = ""
    · rw [hempty]
      rfl
    · have htruthy : (text t).truthy = true := bne_iff_ne.2 hempty
      exact if_pos htruthy

/-- An absent truth value is read as false. -/
theorem truthy_ofCell (cell : Option Bool) : (ofCell bool cell).truthy = cell.getD false := by
  cases cell with
  | none => rfl
  | some b => rfl

/-- Only a text that is not empty counts as true. -/
theorem truthy_ofCell_text (cell : Option Text) :
    (ofCell text cell).truthy = !decide (cell.getD "" = "") := by
  cases cell with
  | none => rfl
  | some t => rfl

/-- Only what is absent is read as the absent value. -/
theorem ofCell_eq_null_iff {α : Type} (value : α → Value) (h : ∀ a, value a ≠ null)
    (cell : Option α) : ofCell value cell = null ↔ cell = none := by
  cases cell with
  | none => exact iff_of_true rfl rfl
  | some a => exact iff_of_false (h a) (by simp)

end Value

/-! ## Tables -/

/-- A row about a table. -/
structure TableRow where
  /-- The schema. -/
  schema : Text
  /-- The table. -/
  table : Text
  /-- The estimated number of rows. -/
  rowEstimate : Option Int
  /-- The size in bytes. -/
  sizeBytes : Option Int
  /-- The number of live rows, if there are statistics. -/
  live : Option Int64
  /-- The number of dead rows, if there are statistics. -/
  dead : Option Int64

namespace TableRow

/-- The values of a row, in the order of the query's columns. -/
def values (row : TableRow) : Row :=
  [.text row.schema, .text row.table, .ofCell .int row.rowEstimate, .ofCell .int row.sizeBytes,
   .ofCell (fun n => .int n.toInt) row.live, .ofCell (fun n => .int n.toInt) row.dead]

/-- The identifier of the table. -/
def identifier (row : TableRow) : Text := row.schema ++ "." ++ row.table

/-- The share of dead rows among all rows, rounded once, if both counts are known and there are
rows at all. -/
def deadShare (row : TableRow) : Option Binary64 :=
  match row.live, row.dead with
  | some live, some dead =>
    let total := live.toInt + dead.toInt
    if total ≤ 0 then none
    else some (.ofRatio (dead.toInt < 0) dead.toInt.natAbs total.natAbs)
  | _, _ => none

/-- A count of 64 bits is in range of what can be divided. -/
theorem natAbs_lt_rangeLimit (count : Int64) : count.toInt.natAbs < Binary64.rangeLimit := by
  have hupper := count.toInt_lt
  have hlower := count.le_toInt
  have hlimit : 2 ^ 64 ≤ Binary64.rangeLimit := by decide +kernel
  omega

/-- The share of dead rows can always be taken. -/
theorem deadShare_eq (row : TableRow) : CatalogHealth.deadShare
    (.ofCell (fun n => .int n.toInt) row.live) (.ofCell (fun n => .int n.toInt) row.dead) =
      .ok row.deadShare := by
  unfold deadShare
  cases row.live with
  | none => rfl
  | some live =>
    cases row.dead with
    | none => rfl
    | some dead =>
      change (if (Number.int (live.toInt + dead.toInt)).le (.int 0) then pure none
        else some <$> (Number.int dead.toInt).div (.int (live.toInt + dead.toInt))) = _
      rw [Number.le_int]
      by_cases hempty : live.toInt + dead.toInt ≤ 0
      · simp only [hempty, decide_true, if_true]
        rfl
      · have hrange := natAbs_lt_rangeLimit dead
        have htotal : 1 ≤ (live.toInt + dead.toInt).natAbs := by omega
        have hlimit : ¬Binary64.rangeLimit * (live.toInt + dead.toInt).natAbs ≤
            dead.toInt.natAbs := by
          have hle := Nat.mul_le_mul_left Binary64.rangeLimit htotal
          omega
        have hne : live.toInt + dead.toInt ≠ 0 := by omega
        have hpositive : ¬live.toInt + dead.toInt < 0 := by omega
        rw [Number.div, if_neg hne, Binary64.ofRatio_eq _ (by omega), if_neg hlimit,
          Binary64.inRange?_finite]
        simp only [hempty, hpositive, decide_false, Bool.bne_false, if_false, Bool.false_eq_true]
        rw [Binary64.ofRatio_eq _ (by omega), if_neg hlimit]
        rfl

/-- A row about a table is read with what belongs to the table. -/
theorem tableOfRow_values (row : TableRow) (columns : List (TableName × Column))
    (indexNames constraintNames : List (TableName × Value)) :
    tableOfRow columns indexNames constraintNames row.values = .ok
      { schema := .text row.schema
        name := .text row.table
        columns := belongingTo ⟨.text row.schema, .text row.table⟩ columns
        rowEstimate := row.rowEstimate.getD 0
        sizeBytes := row.sizeBytes.getD 0
        bloatRatio := row.deadShare
        indexNames := belongingTo ⟨.text row.schema, .text row.table⟩ indexNames
        constraintNames := belongingTo ⟨.text row.schema, .text row.table⟩ constraintNames } := by
  have hread : tableOfRow columns indexNames constraintNames row.values = (do
      let rowEstimate ← (Value.ofCell .int row.rowEstimate).integerOrZero
      let sizeBytes ← (Value.ofCell .int row.sizeBytes).integerOrZero
      let bloatRatio ← CatalogHealth.deadShare (.ofCell (fun n => .int n.toInt) row.live)
        (.ofCell (fun n => .int n.toInt) row.dead)
      return { schema := .text row.schema
               name := .text row.table
               columns := belongingTo ⟨.text row.schema, .text row.table⟩ columns
               rowEstimate
               sizeBytes
               bloatRatio
               indexNames := belongingTo ⟨.text row.schema, .text row.table⟩ indexNames
               constraintNames :=
                 belongingTo ⟨.text row.schema, .text row.table⟩ constraintNames }) := rfl
  rw [hread, Value.integerOrZero_ofCell, Value.integerOrZero_ofCell, deadShare_eq]
  rfl

end TableRow

/-- What belongs to a table is what carries its schema and its name. -/
theorem belongingTo_map {α β : Type} (schema table : Text) (schemaOf tableOf : α → Text)
    (result : α → β) (xs : List α) :
    belongingTo ⟨.text schema, .text table⟩
        (xs.map fun x => (⟨.text (schemaOf x), .text (tableOf x)⟩, result x)) =
      (xs.filter fun x => schemaOf x = schema ∧ tableOf x = table).map result := by
  have hsame : ∀ x, TableName.same ⟨.text (schemaOf x), .text (tableOf x)⟩
      ⟨.text schema, .text table⟩ = decide (schemaOf x = schema ∧ tableOf x = table) := by
    intro x
    simp [TableName.same, Value.same_text]
  rw [belongingTo, List.filter_map, List.map_map]
  exact congrArg _ (List.filter_congr fun x _ => hsame x)

/-! ## Columns -/

/-- A row about a column. -/
structure ColumnRow where
  /-- The schema. -/
  schema : Text
  /-- The table. -/
  table : Text
  /-- The column. -/
  name : Text
  /-- The declared type. -/
  dataType : Text
  /-- Whether the column refuses nulls. -/
  notNull : Bool

namespace ColumnRow

/-- The values of a row, in the order of the query's columns. -/
def values (row : ColumnRow) : Row :=
  [.text row.schema, .text row.table, .text row.name, .text row.dataType, .bool row.notNull]

/-- The column that a row is about. -/
def column (row : ColumnRow) : Column where
  name := .text row.name
  dataType := .text row.dataType
  notNull := row.notNull

theorem columnOfRow_values (row : ColumnRow) :
    columnOfRow row.values = .ok (⟨.text row.schema, .text row.table⟩, row.column) := rfl

end ColumnRow

/-! ## Keys of indexes -/

/-- A row about a key of an index, or about an index without keys. -/
structure IndexRow where
  /-- The schema. -/
  schema : Text
  /-- The table. -/
  table : Text
  /-- The index. -/
  index : Text
  /-- Whether the index enforces uniqueness. -/
  isUnique : Bool
  /-- Whether the planner may use the index. -/
  isValid : Bool
  /-- The access method. -/
  method : Text
  /-- The condition of a partial index. -/
  predicate : Option Text
  /-- The constraint that the index backs. -/
  constraintName : Option Text
  /-- The size in bytes. -/
  sizeBytes : Option Int
  /-- The number of scans, if there are statistics. -/
  scans : Option Int
  /-- The statement that would build the index. -/
  definition : Option Text
  /-- The place of the key, absent if the index has no keys. -/
  position : Option Int
  /-- The column, absent if the key is an expression. -/
  column : Option Text
  /-- The text of the key. -/
  keyDefinition : Option Text
  /-- Whether the key is in descending order. -/
  descending : Option Bool
  /-- Whether nulls come first. -/
  nullsFirst : Option Bool
  /-- The operator class unless it is the default one. -/
  opclass : Option Text
  /-- The collation unless it is the default one. -/
  collation : Option Text

namespace IndexRow

/-- The values that all rows of an index have in common. -/
def headValues (row : IndexRow) : Row :=
  [.text row.schema, .text row.table, .text row.index, .bool row.isUnique, .bool row.isValid,
   .text row.method, .ofCell .text row.predicate, .ofCell .text row.constraintName,
   .ofCell .int row.sizeBytes, .ofCell .int row.scans, .ofCell .text row.definition]

/-- The values that are about the key. -/
def keyValues (row : IndexRow) : Row :=
  [.ofCell .int row.position, .ofCell .text row.column, .ofCell .text row.keyDefinition,
   .ofCell .bool row.descending, .ofCell .bool row.nullsFirst, .ofCell .text row.opclass,
   .ofCell .text row.collation]

/-- The values of a row, in the order of the query's columns. -/
def values (row : IndexRow) : Row := row.headValues ++ row.keyValues

/-- What tells indexes apart: the schema, the table and the own name. -/
def path (row : IndexRow) : Text × Text × Text := (row.schema, row.table, row.index)

/-- The identifier of the index. -/
def identifier (row : IndexRow) : Text := row.schema ++ "." ++ row.index

/-- The name under which the rows of an index are grouped. -/
def name (row : IndexRow) : IndexName := ⟨.text row.schema, .text row.table, .text row.index⟩

/-- The key that a row is about, in an index of some access method. The order of nulls is known of
B-trees only. -/
def key (method : Text) (row : IndexRow) : IndexKey where
  name := .ofCell .text row.column
  expression := if row.column.getD "" = "" then .ofCell .text row.keyDefinition else .null
  descending := row.descending.getD false
  nullsFirst := if method = "btree" then .bool (row.nullsFirst.getD false) else .null
  opclass := .text (row.opclass.getD "")
  collation := .text (row.collation.getD "")

/-- The key is an expression if it has no column. -/
theorem isExpression_key (method : Text) (row : IndexRow) :
    (row.key method).isExpression = row.column.isNone := by
  have hnull := Value.ofCell_eq_null_iff .text (fun _ => by simp) row.column
  rw [IndexKey.isExpression, Bool.eq_iff_iff, decide_eq_true_iff, Option.isNone_iff_eq_none]
  exact hnull

/-- What a row says about its index. -/
def head (row : IndexRow) : IndexHead where
  isUnique := .bool row.isUnique
  isValid := .bool row.isValid
  method := .text row.method
  predicate := .ofCell .text row.predicate
  constraintName := .ofCell .text row.constraintName
  sizeBytes := .ofCell .int row.sizeBytes
  scans := .ofCell .int row.scans
  definition := .ofCell .text row.definition

/-- The index that a row begins, with the keys that some rows are about. -/
def toIndex (first : IndexRow) (rows : List IndexRow) : Index where
  name := .text first.index
  tableSchema := .text first.schema
  tableName := .text first.table
  keys := (rows.filter fun row => row.position.isSome).map (key first.method)
  isUnique := first.isUnique
  isValid := first.isValid
  method := .text first.method
  predicate := .ofCell .text first.predicate
  constraintName := .ofCell .text first.constraintName
  sizeBytes := first.sizeBytes.getD 0
  scanCount := first.scans
  definition := .text (first.definition.getD "")

theorem indexNameOfRow?_values (row : IndexRow) : indexNameOfRow? row.values = some row.name := rfl

theorem indexHeadOfRow_values (row : IndexRow) : indexHeadOfRow row.values = .ok row.head := rfl

/-- The key that a row is about, unless it has no place. -/
def key? (method : Text) (row : IndexRow) : Option IndexKey :=
  if row.position.isSome then some (row.key method) else none

theorem indexKeyOfRow_values (method : Text) (row : IndexRow) :
    indexKeyOfRow (.text method) row.values = .ok (row.key? method) := by
  have hread : indexKeyOfRow (.text method) row.values =
      if Value.ofCell .int row.position = .null then .ok none
      else .ok (some
        { name := .ofCell .text row.column
          expression :=
            if (Value.ofCell .text row.column).truthy then .null
            else .ofCell .text row.keyDefinition
          descending := (Value.ofCell .bool row.descending).truthy
          nullsFirst :=
            if Value.text method = .text "btree" then
              .bool (Value.ofCell .bool row.nullsFirst).truthy
            else .null
          opclass := (Value.ofCell .text row.opclass).orEmpty
          collation := (Value.ofCell .text row.collation).orEmpty }) := rfl
  have hposition := Value.ofCell_eq_null_iff .int (fun _ => by simp) row.position
  rw [hread, Value.orEmpty_ofCell, Value.orEmpty_ofCell, key?]
  simp only [hposition, Value.truthy_ofCell, Value.truthy_ofCell_text, Value.text.injEq,
    Bool.not_eq_true', decide_eq_false_iff_not, ite_not]
  cases row.position with
  | none => rfl
  | some position => rfl

/-- The keys of an index are those of its rows that have a place. -/
theorem filterMap_key? (method : Text) (rows : List IndexRow) :
    rows.filterMap (key? method) =
      (rows.filter fun row => row.position.isSome).map (key method) := by
  induction rows with
  | nil => rfl
  | cons row rest ih =>
    cases hposition : row.position with
    | none => simp [key?, hposition, ← ih]
    | some position => simp [key?, hposition, ← ih]

/-- An index that is not measured is read from its first row and its keys. -/
theorem indexOfParts_head (first : IndexRow) (rows : List IndexRow) :
    indexOfParts first.name first.head ((rows.map (key? first.method)).filterMap id) none =
      .ok (first.toIndex rows) := by
  have hkeys : (rows.map (key? first.method)).filterMap id =
      (rows.filter fun row => row.position.isSome).map (key first.method) := by
    rw [List.filterMap_map, Function.id_comp, filterMap_key?]
  have hsize := Value.integerOrZero_ofCell first.sizeBytes
  have hdefinition := Value.orEmpty_ofCell first.definition
  unfold indexOfParts toIndex
  rw [hkeys]
  simp only [head, hsize, hdefinition]
  cases first.scans with
  | none => rfl
  | some scans => rfl

end IndexRow

/-! ## Constraints -/

/-- The letter with which the catalogue marks a kind of constraint. -/
def ConstraintType.letter : ConstraintType → Text
  | primaryKey => "p"
  | foreignKey => "f"
  | unique => "u"
  | check => "c"
  | notNull => "n"
  | exclude => "x"

/-- A row about a constraint of a kind that the query selects. -/
structure ConstraintRow where
  /-- The schema. -/
  schema : Text
  /-- The table. -/
  table : Text
  /-- The constraint. -/
  name : Text
  /-- The kind, which the row marks with its letter. -/
  kind : ConstraintType
  /-- Whether all existing rows were checked. -/
  validated : Bool
  /-- The constrained columns in order. -/
  columns : List Text
  /-- The schema of the referenced table. -/
  refSchema : Option Text
  /-- The referenced table. -/
  refTable : Option Text
  /-- The referenced columns in order. -/
  refColumns : List Text

namespace ConstraintRow

/-- The values of a row, in the order of the query's columns. -/
def values (row : ConstraintRow) : Row :=
  [.text row.schema, .text row.table, .text row.name, .text row.kind.letter, .bool row.validated,
   .list (row.columns.map .text), .ofCell .text row.refSchema, .ofCell .text row.refTable,
   .list (row.refColumns.map .text)]

/-- The identifier of the constraint. -/
def identifier (row : ConstraintRow) : Text := row.schema ++ "." ++ row.table ++ "." ++ row.name

/-- The constraint that a row is about. -/
def constraint (row : ConstraintRow) : Constraint where
  name := .text row.name
  kind := row.kind
  tableSchema := .text row.schema
  tableName := .text row.table
  columns := row.columns.map .text
  refSchema := .text (row.refSchema.getD "")
  refTable := .text (row.refTable.getD "")
  refColumns := row.refColumns.map .text
  validated := row.validated

theorem constraintOfRow_values (row : ConstraintRow) :
    constraintOfRow row.values = .ok row.constraint := by
  have hkind : constraintKindOf (.text row.kind.letter) = .ok row.kind := by
    cases row.kind <;> rfl
  have hread : constraintOfRow row.values = (do
      let kind ← constraintKindOf (.text row.kind.letter)
      let columns ← (Value.list (row.columns.map .text)).membersOrNone
      let refColumns ← (Value.list (row.refColumns.map .text)).membersOrNone
      return { name := .text row.name
               kind
               tableSchema := .text row.schema
               tableName := .text row.table
               columns
               refSchema := (Value.ofCell .text row.refSchema).orEmpty
               refTable := (Value.ofCell .text row.refTable).orEmpty
               refColumns
               validated := row.validated }) := rfl
  rw [hread, hkind, Value.membersOrNone_list, Value.membersOrNone_list, Value.orEmpty_ofCell,
    Value.orEmpty_ofCell]
  rfl

end ConstraintRow

/-! ## Sequences -/

/-- A row about a sequence. -/
structure SequenceRow where
  /-- The schema. -/
  schema : Text
  /-- The sequence. -/
  name : Text
  /-- The integer type of its values. -/
  dataType : Text
  /-- The value handed out last, if there is one. -/
  lastValue : Option Int
  /-- The least value. -/
  minValue : Option Int
  /-- The greatest value. -/
  maxValue : Option Int
  /-- The step between values. -/
  increment : Int
  /-- Whether the sequence starts over at its end. -/
  cycle : Bool

namespace SequenceRow

/-- The values of a row, in the order of the query's columns. -/
def values (row : SequenceRow) : Row :=
  [.text row.schema, .text row.name, .text row.dataType, .ofCell .int row.lastValue,
   .ofCell .int row.minValue, .ofCell .int row.maxValue, .int row.increment, .bool row.cycle]

/-- The identifier of the sequence. -/
def identifier (row : SequenceRow) : Text := row.schema ++ "." ++ row.name

/-- The sequence that a row is about. -/
def sequence (row : SequenceRow) : Sequence where
  schema := .text row.schema
  name := .text row.name
  dataType := .text row.dataType
  lastValue := .ofCell .int row.lastValue
  minValue := .ofCell .int row.minValue
  maxValue := .ofCell .int row.maxValue
  increment := row.increment
  cycle := row.cycle

theorem sequenceOfRow_values (row : SequenceRow) :
    sequenceOfRow row.values = .ok row.sequence := rfl

end SequenceRow

end CatalogHealth
