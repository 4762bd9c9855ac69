import CatalogHealth.Finding.Basic
import CatalogHealth.Snapshot.Basic
import CatalogHealth.Threshold

/-!
# Checks

A check looks at a whole snapshot and reports findings. Its answer is a
function of the snapshot and the thresholds alone. An object that cannot be
judged is reported as such and does not stop the check; a fault does.
-/

namespace CatalogHealth

/-- How a check presents itself. -/
structure CheckLabel where
  /-- The unique name of the check. -/
  name : String
  /-- The category that groups it with others. -/
  category : String
  /-- What the check looks for. -/
  description : String
deriving DecidableEq, Repr

/-- A check. -/
structure Check extends CheckLabel where
  /-- The place among the checks that ask for one; the others follow in the
  order of their registration. -/
  priority : Option Int := none
  /-- The findings about a snapshot. -/
  run : Snapshot → Thresholds → Except Fault (List Finding)

namespace CheckLabel

/-- The finding about an object that is too incomplete to judge. -/
def cannotEvaluate (label : CheckLabel) (object reason : Text) : Finding where
  severity := .info
  checkName := label.name
  category := label.category
  title := "Cannot evaluate '" ++ object ++ "'"
  detail := "Check '" ++ label.name ++ "' skipped '" ++ object ++ "': " ++ reason ++ "."
  objectName := object
  metadata := [("reason", .text reason)]

end CheckLabel

end CatalogHealth
