import CatalogHealth.Finding.Order

/-!
# Reports

A report holds one result for each check that was to run and the findings of
all of them. A result is in exactly one of four states: passed, failed,
unfinished, or finished with findings.
-/

namespace CatalogHealth

/-- What became of one check. -/
structure CheckResult where
  /-- The name of the check. -/
  checkName : String
  /-- Its category. -/
  category : String
  /-- Its description. -/
  description : String
  /-- Its findings. -/
  findings : List Finding := []
  /-- The fault that ended it, if any. -/
  error : Option Text := none
  /-- Whether it ran to its end, well or badly. -/
  completed : Bool := true
deriving DecidableEq, Repr

namespace CheckResult

/-- Whether the check ended with a fault. -/
def isFailed (result : CheckResult) : Bool := result.error.any fun message => !message.isEmpty

/-- Whether the check ended well and found nothing. -/
def isPassed (result : CheckResult) : Bool :=
  result.findings.isEmpty && !result.isFailed && result.completed

end CheckResult

/-- What an evaluation found. -/
structure Report where
  /-- The name of the database, empty if it has none. -/
  database : Value := .text ""
  /-- The results in the order of the checks. -/
  results : List CheckResult := []
  /-- The findings of all checks. -/
  findings : List Finding := []
  /-- Whether every check ran to its end. -/
  complete : Bool := true
deriving DecidableEq, Repr

namespace Report

/-- The number of findings of a severity. -/
def count (report : Report) (severity : Severity) : Nat :=
  report.findings.countP fun finding => finding.severity = severity

/-- The number of checks that ended with a fault. -/
def failedCount (report : Report) : Nat := report.results.countP (·.isFailed)

/-- The number of checks that found nothing. -/
def passedCount (report : Report) : Nat := report.results.countP (·.isPassed)

/-- The checks that did not run to their end. -/
def unfinished (report : Report) : List String :=
  (report.results.filter fun result => !result.completed).map (·.checkName)

/-- The name of the database as headings show it. -/
def subject (report : Report) : Text :=
  if report.database.truthy then report.database.display else "snapshot"

/-- A report can be written if the name of its database can. -/
def checkWritable (report : Report) : Except Fault Unit := discard report.database.shown

end Report

end CatalogHealth
