import CatalogHealth.Finding.Order
import CatalogHealth.Migration.Repair

/-!
# Corrective statements

Statements follow the order of the findings that ask for them. Of several
findings about the same thing the first one counts, and a statement with the
text of an earlier one is left out.
-/

namespace CatalogHealth

/-- A statement that makes a repair. -/
structure Statement where
  /-- The text of the statement. -/
  sql : Text
  /-- The check whose finding asked for it. -/
  checkName : String
  /-- The objects that the finding names. -/
  objects : List Text
  /-- Whether it may stand inside a transaction. -/
  transactional : Bool
deriving DecidableEq, Repr

namespace Statement

/-- The statement that makes the repair of a finding. -/
def ofRepair (options : GeneratingOptions) (finding : Finding) (repair : Repair) : Statement where
  sql := repair.sql options
  checkName := finding.checkName
  objects := finding.objects
  transactional := repair.isTransactional options

/-- The statement that a finding asks for. -/
def ofFinding? (options : GeneratingOptions) (finding : Finding) :
    Except Fault (Option Statement) := do
  return (← Repair.ofFinding? options finding).map (ofRepair options finding)

/-- The statements whose texts are new, given the texts seen before. -/
def freshFrom (seen : List Text) : List Statement → List Statement
  | [] => []
  | s :: rest => if s.sql ∈ seen then freshFrom seen rest else s :: freshFrom (s.sql :: seen) rest

/-- The statements that some findings ask for. -/
def generate (options : GeneratingOptions) (findings : List Finding) :
    Except Fault (List Statement) := do
  let statements ← (Finding.merge findings).mapM (ofFinding? options)
  return freshFrom [] (statements.filterMap id)

end Statement

end CatalogHealth
