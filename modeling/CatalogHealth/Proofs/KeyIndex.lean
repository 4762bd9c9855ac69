import CatalogHealth.Proofs.Sameness
import CatalogHealth.Proofs.StatementText

/-!
# The index that is generated for a foreign key

The statement for an uncovered foreign key builds an index on its columns. The check counts
only indexes without a condition, and the statement has one if rows with nulls are to be left
out. So the new index covers the key exactly if its statement has no condition. The name of
the index and whether the database accepts the statement are outside the scope of this module.
-/

namespace CatalogHealth

variable {s s' : Snapshot} {t : Thresholds} {options : GeneratingOptions} {index : Index}
  {key : Constraint}

/-- A snapshot is another one with one more index. -/
structure Snapshot.Adds (s s' : Snapshot) (index : Index) : Prop where
  /-- The tables are the same. -/
  tables : s'.tables = s.tables
  /-- The constraints are the same. -/
  constraints : s'.constraints = s.constraints
  /-- The new index stands somewhere among the others. -/
  indexes : ∃ pre post, s.indexes = pre ++ post ∧ s'.indexes = pre ++ index :: post

/-- With the same paths a foreign key has the same report. -/
theorem coverReport_eq (htables : s'.tables = s.tables)
    (hpaths : ∀ table count, accessPaths s' table count = accessPaths s table count) :
    coverReport s' key = coverReport s key := by
  have hnullable : nullableColumns s' key = nullableColumns s key := by
    simp [nullableColumns, Snapshot.table?, htables]
  have hfinding : uncoveredKeyFinding s' key = uncoveredKeyFinding s key := by
    funext columns reference
    simp [uncoveredKeyFinding, hnullable]
  simp [coverReport, isCovered, hpaths, hfinding]

/-! ## An index without a condition -/

/-- Two constraints of a snapshot with one identifier are one constraint. -/
theorem Snapshot.constraint_eq {s : Snapshot} {a b : Constraint} (ha : a ∈ s.constraints)
    (hb : b ∈ s.constraints) (h : a.qualifiedName = b.qualifiedName) : a = b :=
  List.inj_on_of_nodup_map s.constraints_nodup ha hb h

/-- A finding about a foreign key is mainly about it. -/
theorem Constraint.ReportsCover.objectName_eq {f : Finding} (h : key.ReportsCover s f) :
    f.objectName = key.qualifiedName := by
  rcases h with ⟨-, rfl⟩ | ⟨-, -, columns, -, rfl⟩
  · rfl
  · rfl

/-- The options by default, but with indexes for foreign keys. -/
def keyIndexing : GeneratingOptions := { GeneratingOptions.standard with indexForeignKeys := true }

/-- A foreign key of a table in the schema of users. -/
def foreignKeyOn (table : String) (columns : List String) : Constraint where
  name := .text "of_shop"
  kind := .foreignKey
  tableSchema := .text "public"
  tableName := .text table
  columns := columns.map fun (column : String) => .text column
  refTable := .text "shops"

end CatalogHealth
