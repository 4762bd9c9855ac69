import CatalogHealth.Check.Basic
import CatalogHealth.Sorting

/-!
# Tables without a primary key

A table is reported unless the snapshot holds a primary key constraint for its
identifier. Choosing a key is left to the people who know the data.
-/

namespace CatalogHealth

/-- How the check for missing primary keys presents itself. -/
def tablesWithoutPrimaryKeyLabel : CheckLabel where
  name := "tables_without_primary_key"
  category := "tables"
  description := "Tables without primary keys"

/-- Whether a table has a primary key. -/
def hasPrimaryKey (snapshot : Snapshot) (table : Table) : Bool :=
  snapshot.constraints.any fun con =>
    con.kind = .primaryKey && con.tableQualifiedName = table.qualifiedName

/-- The finding about a table without a primary key. -/
def missingPrimaryKeyFinding (table : Table) : Finding where
  severity := .warning
  checkName := tablesWithoutPrimaryKeyLabel.name
  category := tablesWithoutPrimaryKeyLabel.category
  title := "Table '" ++ table.qualifiedName ++ "' has no primary key"
  detail :=
    "Table '" ++ table.qualifiedName ++ "' lacks a primary key. Rows cannot be addressed " ++
    "reliably, duplicates go unnoticed, and logical replication cannot apply UPDATE or DELETE " ++
    "without a replica identity."
  objectName := table.qualifiedName
  remediation :=
    "Choose a key for '" ++ table.qualifiedName ++ "' and add it with ALTER TABLE ... ADD " ++
    "PRIMARY KEY. No statement is generated: the key columns are a modelling decision."
  metadata := [("schema", table.schema), ("table", table.name)]

/-- Tables whose rows cannot be addressed reliably. -/
def tablesWithoutPrimaryKey : Check where
  toCheckLabel := tablesWithoutPrimaryKeyLabel
  run snapshot _ :=
    .ok <| (sortByText Table.qualifiedName snapshot.tables).filterMap fun table =>
      if hasPrimaryKey snapshot table then none else some (missingPrimaryKeyFinding table)

end CatalogHealth
