import CatalogHealth.Check.Basic
import CatalogHealth.Sorting

/-!
# Invalid indexes and unvalidated constraints

A build that failed halfway leaves an index that is maintained on writes and
never read. A constraint may have been added without looking at the rows that
existed; it then says nothing about them until it is validated. Both are
reported in the order of their identifiers.
-/

namespace CatalogHealth

/-- How the check for invalid indexes presents itself. -/
def invalidIndexesLabel : CheckLabel where
  name := "invalid_indexes"
  category := "indexes"
  description := "Invalid indexes — maintained on writes but never used by the planner"

/-- The finding about an invalid index. -/
def invalidIndexFinding (index : Index) : Finding where
  severity := .high
  checkName := invalidIndexesLabel.name
  category := invalidIndexesLabel.category
  title := "Index '" ++ index.qualifiedName ++ "' is invalid"
  detail :=
    "Index '" ++ index.qualifiedName ++ "' on '" ++ index.tableQualifiedName ++
    "' is marked invalid, usually after CREATE INDEX CONCURRENTLY or REINDEX CONCURRENTLY " ++
    "failed. It still slows down writes but is never used for reads, and an invalid unique " ++
    "index does not enforce uniqueness."
  objectName := index.qualifiedName
  remediation := "Rebuild it with REINDEX INDEX CONCURRENTLY " ++ index.qualifiedName ++ "."
  metadata :=
    [("schema", index.tableSchema), ("table", index.tableName), ("index", index.name)]

/-- Indexes that the planner never uses. -/
def invalidIndexes : Check where
  toCheckLabel := invalidIndexesLabel
  run snapshot _ :=
    .ok <| (sortByText Index.qualifiedName snapshot.indexes).filterMap fun index =>
      if index.isValid then none else some (invalidIndexFinding index)

/-- How the check for unvalidated constraints presents itself. -/
def notValidConstraintsLabel : CheckLabel where
  name := "not_valid_constraints"
  category := "constraints"
  description := "Constraints created NOT VALID that were never validated"

/-- The finding about an unvalidated constraint. -/
def notValidConstraintFinding (con : Constraint) : Finding where
  severity := .warning
  checkName := notValidConstraintsLabel.name
  category := notValidConstraintsLabel.category
  title := "Constraint '" ++ con.qualifiedName ++ "' is not validated"
  detail :=
    con.kind.name ++ " constraint '" ++ con.name.display ++ "' on '" ++ con.tableQualifiedName ++
    "' applies to new rows only; existing rows were never checked against it."
  objectName := con.qualifiedName
  remediation :=
    "ALTER TABLE " ++ con.tableQualifiedName ++ " VALIDATE CONSTRAINT " ++ con.name.display ++ ";"
  metadata :=
    [("schema", con.tableSchema), ("table", con.tableName), ("constraint", con.name),
     ("constraint_type", .text con.kind.name)]

/-- Constraints that were never validated. -/
def notValidConstraints : Check where
  toCheckLabel := notValidConstraintsLabel
  run snapshot _ :=
    .ok <| (sortByText Constraint.qualifiedName snapshot.constraints).filterMap fun con =>
      if con.validated then none else some (notValidConstraintFinding con)

end CatalogHealth
