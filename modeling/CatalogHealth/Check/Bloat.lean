import CatalogHealth.Check.Basic
import CatalogHealth.Check.ByteSize
import CatalogHealth.Sorting

/-!
# Bloat

Tables and indexes are judged alike by the estimated share of wasted space. A
share outside the range from zero to one cannot be judged; without an estimate
there is nothing to report. Both thresholds have to be reached.
-/

namespace CatalogHealth

/-- What an estimated share of wasted space says about a relation. -/
inductive BloatVerdict where
  /-- Nothing to report. -/
  | acceptable
  /-- The share is no ratio. -/
  | outOfRange (ratio : Binary64)
  /-- Too much of the space is wasted. -/
  | bloated (ratio : Binary64)
deriving DecidableEq, Repr

/-- Whether a share lies between zero and one. -/
def isRatio (ratio : Binary64) : Bool :=
  (Number.int 0).le (.float ratio) && (Number.float ratio).le (.int 1)

/-- The verdict about a relation of a given size. The threshold for the size is
looked at only if the one for the share is reached. -/
def bloatVerdict (thresholds : Thresholds) (size : Int) :
    Option Binary64 → Except Fault BloatVerdict
  | none => .ok .acceptable
  | some ratio =>
    if !isRatio ratio then .ok (.outOfRange ratio)
    else do
      if ← (Value.float ratio).compare .less thresholds.bloatRatio then return .acceptable
      if ← (Value.int size).compare .less thresholds.bloatMinSize then return .acceptable
      return .bloated ratio

/-- The number of wasted bytes: the product of size and share, rounded to the
binary64 format and cut to a whole number. -/
def wastedBytes (size : Int) (ratio : Binary64) : Except Fault Int := do
  (Number.float ((← (Number.int size).toFloat).mul ratio)).truncate

/-- The reason why a share cannot be judged. -/
def bloatOutOfRange (ratio : Binary64) : String :=
  "bloat ratio " ++ ratio.plain ++ " out of range"

/-- How the check for bloated indexes presents itself. -/
def bloatedIndexesLabel : CheckLabel where
  name := "bloated_indexes"
  category := "indexes"
  description := "Indexes whose estimated bloat exceeds the configured ratio"

/-- The finding about a bloated index. -/
def bloatedIndexFinding (index : Index) (ratio : Binary64) : Except Fault Finding := do
  let wasted ← wastedBytes index.sizeBytes ratio
  let wastedSize ← wholeByteSize wasted
  let size ← wholeByteSize index.sizeBytes
  return {
    severity := .warning
    checkName := bloatedIndexesLabel.name
    category := bloatedIndexesLabel.category
    title := "Index '" ++ index.qualifiedName ++ "' is " ++ ratio.percent ++ " bloated"
    detail :=
      "About " ++ wastedSize ++ " of the " ++ size ++ " used by '" ++ index.qualifiedName ++
      "' is wasted space."
    objectName := index.qualifiedName
    remediation := "Rebuild with REINDEX INDEX CONCURRENTLY " ++ index.qualifiedName ++ "."
    metadata :=
      [("schema", index.tableSchema), ("table", index.tableName), ("index", index.name),
       ("bloat_ratio", .float ratio), ("bloat_bytes", .int wasted)] }

/-- What the estimate for an index gives reason to report. -/
def indexBloatReport (thresholds : Thresholds) (index : Index) :
    Except Fault (List Finding) := do
  match ← bloatVerdict thresholds index.sizeBytes index.bloatRatio with
  | .acceptable => return []
  | .outOfRange ratio =>
    return [bloatedIndexesLabel.cannotEvaluate index.qualifiedName (bloatOutOfRange ratio)]
  | .bloated ratio => return [← bloatedIndexFinding index ratio]

/-- Indexes that waste space. -/
def bloatedIndexes : Check where
  toCheckLabel := bloatedIndexesLabel
  run snapshot thresholds :=
    ((sortByText Index.qualifiedName snapshot.indexes).mapM (indexBloatReport thresholds)).map
      List.flatten

/-- How the check for bloated tables presents itself. -/
def bloatedTablesLabel : CheckLabel where
  name := "bloated_tables"
  category := "tables"
  description := "Tables whose estimated bloat exceeds the configured ratio"

/-- The finding about a bloated table. -/
def bloatedTableFinding (table : Table) (ratio : Binary64) : Except Fault Finding := do
  let wasted ← wastedBytes table.sizeBytes ratio
  let wastedSize ← wholeByteSize wasted
  let size ← wholeByteSize table.sizeBytes
  return {
    severity := .warning
    checkName := bloatedTablesLabel.name
    category := bloatedTablesLabel.category
    title := "Table '" ++ table.qualifiedName ++ "' is " ++ ratio.percent ++ " bloated"
    detail :=
      "About " ++ wastedSize ++ " of the " ++ size ++ " used by '" ++ table.qualifiedName ++
      "' is dead or free space."
    objectName := table.qualifiedName
    remediation :=
      "Check autovacuum settings for the table. Reclaiming the space needs VACUUM FULL or " ++
      "pg_repack, which lock or rewrite the table; schedule it by hand."
    metadata :=
      [("schema", table.schema), ("table", table.name), ("bloat_ratio", .float ratio),
       ("bloat_bytes", .int wasted)] }

/-- What the estimate for a table gives reason to report. -/
def tableBloatReport (thresholds : Thresholds) (table : Table) :
    Except Fault (List Finding) := do
  match ← bloatVerdict thresholds table.sizeBytes table.bloatRatio with
  | .acceptable => return []
  | .outOfRange ratio =>
    return [bloatedTablesLabel.cannotEvaluate table.qualifiedName (bloatOutOfRange ratio)]
  | .bloated ratio => return [← bloatedTableFinding table ratio]

/-- Tables that waste space. -/
def bloatedTables : Check where
  toCheckLabel := bloatedTablesLabel
  run snapshot thresholds :=
    ((sortByText Table.qualifiedName snapshot.tables).mapM (tableBloatReport thresholds)).map
      List.flatten

end CatalogHealth
