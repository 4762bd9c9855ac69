import CatalogHealth.Check.Basic
import CatalogHealth.Check.ByteSize
import CatalogHealth.Sorting

/-!
# Unused indexes

An index that is hardly ever scanned costs writes and space for nothing,
unless it enforces something. It is reported when its table is large enough
for that to matter. Indexes without scan statistics and indexes of tables that
the snapshot does not hold are left out.
-/

namespace CatalogHealth

/-- How the check for unused indexes presents itself. -/
def unusedIndexesLabel : CheckLabel where
  name := "unused_indexes"
  category := "indexes"
  description := "Indexes with (almost) no scans on non-trivial tables"

/-- The table and the number of scans of an index that is unused. The threshold
for the scans is looked at only if the table is large enough. -/
def unusedEvidence? (snapshot : Snapshot) (thresholds : Thresholds) (index : Index) :
    Except Fault (Option (Table × Int)) :=
  if index.isUnique || index.isConstraintBacking || !index.isValid then .ok none
  else
    match index.scanCount, snapshot.table? index.tableQualifiedName with
    | some scans, some table => do
      if ← (Value.int table.sizeBytes).compare .less thresholds.unusedIndexMinTableSize then
        return none
      if ← (Value.int scans).compare .greater thresholds.unusedIndexMaxScans then return none
      return some (table, scans)
    | _, _ => .ok none

/-- The finding about an unused index. -/
def unusedIndexFinding (index : Index) (table : Table) (scans : Int) : Except Fault Finding := do
  let indexSize ← wholeByteSize index.sizeBytes
  let scanCount ← (Value.int scans).shown
  let tableSize ← wholeByteSize table.sizeBytes
  return {
    severity := .warning
    checkName := unusedIndexesLabel.name
    category := unusedIndexesLabel.category
    title := "Index '" ++ index.qualifiedName ++ "' is unused"
    detail :=
      "Index '" ++ index.qualifiedName ++ "' (" ++ indexSize ++ ") has " ++ scanCount ++
      " scan(s) since statistics were last reset, while table '" ++ table.qualifiedName ++
      "' holds " ++ tableSize ++ ". Check replicas before dropping: statistics are per host."
    objectName := index.qualifiedName
    remediation := "Drop index '" ++ index.qualifiedName ++ "' if it is unused on every host."
    metadata :=
      [("schema", index.tableSchema), ("table", index.tableName), ("index", index.name),
       ("scan_count", .int scans), ("index_size", .int index.sizeBytes)] }

/-- What there is to report about an index. -/
def unusedReport (snapshot : Snapshot) (thresholds : Thresholds) (index : Index) :
    Except Fault (List Finding) := do
  match ← unusedEvidence? snapshot thresholds index with
  | some (table, scans) => return [← unusedIndexFinding index table scans]
  | none => return []

/-- Indexes that are hardly ever scanned. -/
def unusedIndexes : Check where
  toCheckLabel := unusedIndexesLabel
  run snapshot thresholds :=
    ((sortByText Index.qualifiedName snapshot.indexes).mapM
      (unusedReport snapshot thresholds)).map List.flatten

end CatalogHealth
