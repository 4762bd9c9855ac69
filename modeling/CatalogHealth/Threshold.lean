import CatalogHealth.Value.Comparison

/-!
# Thresholds

Five numbers say what counts as a problem. They are policy and not measured
fact, so each can be set. What is set is kept as a document gives it, and it is
checked before anything is evaluated. A ratio that is no number at all is ordered
with nothing, so no bound refuses it. A threshold that was never checked may be
any value; a check on which it bears is at fault where it comes to compare it.
-/

namespace CatalogHealth

/-- What counts as a problem. -/
structure Thresholds where
  /-- The share of wasted space from which on a relation is bloated. -/
  bloatRatio : Value := .float (Binary64.ofRatio false 1 2)
  /-- The size below which bloat does not matter. -/
  bloatMinSize : Value := .int 0
  /-- The number of scans up to which an index is unused. -/
  unusedIndexMaxScans : Value := .int 0
  /-- The table size below which an unused index does not matter. -/
  unusedIndexMinTableSize : Value := .int 10485760
  /-- The share of remaining values below which a sequence runs out. -/
  sequenceRemainingRatio : Value := .float (Binary64.ofRatio false 1 10)
deriving DecidableEq, Repr

namespace Thresholds

/-- The names of the thresholds in documents and messages, in order. -/
def names : List String :=
  ["bloat_ratio", "bloat_min_size", "unused_index_max_scans", "unused_index_min_table_size",
   "sequence_remaining_ratio"]

/-- The thresholds with the one of that name set. -/
def assign? (thresholds : Thresholds) (name : String) (value : Value) : Option Thresholds :=
  if name = "bloat_ratio" then some { thresholds with bloatRatio := value }
  else if name = "bloat_min_size" then some { thresholds with bloatMinSize := value }
  else if name = "unused_index_max_scans" then
    some { thresholds with unusedIndexMaxScans := value }
  else if name = "unused_index_min_table_size" then
    some { thresholds with unusedIndexMinTableSize := value }
  else if name = "sequence_remaining_ratio" then
    some { thresholds with sequenceRemainingRatio := value }
  else none

/-- The thresholds with every given one set; an unknown name is refused. -/
def ofEntries (entries : List (String × Value)) : Except Fault Thresholds :=
  entries.foldlM
    (fun thresholds entry =>
      match thresholds.assign? entry.1 entry.2 with
      | some changed => .ok changed
      | none => .error .wrongKind)
    {}

/-- A threshold has to be a number and not negative. -/
def checkNumber (name : String) (value : Value) : Except Fault Unit :=
  match value with
  | .int n => do if n < 0 then throw (.thresholdNegative name (← value.shown))
  | .float x =>
    if (Number.float x).lt (.int 0) then .error (.thresholdNegative name x.plain) else .ok ()
  | _ => do throw (.thresholdNotNumber name (← value.shownQuoted))

/-- A ratio has to be at most one. -/
def checkRatio (name : String) (ratio : Value) : Except Fault Unit := do
  if ← ratio.compare .greater (.int 1) then throw (.thresholdNotRatio name)

/-- Whether the thresholds can be used: each has to be a number and not negative,
and then the two ratios have to be at most one. -/
def validate (thresholds : Thresholds) : Except Fault Unit := do
  checkNumber "bloat_ratio" thresholds.bloatRatio
  checkNumber "bloat_min_size" thresholds.bloatMinSize
  checkNumber "unused_index_max_scans" thresholds.unusedIndexMaxScans
  checkNumber "unused_index_min_table_size" thresholds.unusedIndexMinTableSize
  checkNumber "sequence_remaining_ratio" thresholds.sequenceRemainingRatio
  checkRatio "bloat_ratio" thresholds.bloatRatio
  checkRatio "sequence_remaining_ratio" thresholds.sequenceRemainingRatio

end Thresholds

end CatalogHealth
