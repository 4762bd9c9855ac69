import CatalogHealth.Check.Bloat
import CatalogHealth.Check.Invalid
import CatalogHealth.Check.KeyCover
import CatalogHealth.Check.PrimaryKey
import CatalogHealth.Check.Redundancy
import CatalogHealth.Check.SequenceRange
import CatalogHealth.Check.Unused

/-!
# The built-in checks

The nine checks in the order in which they run and are reported.
-/

namespace CatalogHealth

/-- The built-in checks in order. -/
def builtinChecks : List Check :=
  [invalidIndexes, duplicatedIndexes, unusedIndexes, bloatedIndexes, tablesWithoutPrimaryKey,
   bloatedTables, foreignKeysWithoutIndex, notValidConstraints, sequenceOverflow]

/-- The names of the built-in checks are distinct. -/
theorem builtinChecks_names_nodup : (builtinChecks.map fun check => check.name).Nodup := by
  decide

/-- The built-in check of a given name. -/
def builtinCheck? (name : String) : Option Check :=
  builtinChecks.find? fun check => check.name = name

end CatalogHealth
