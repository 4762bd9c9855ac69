import CatalogHealth.Migration.Statement
import CatalogHealth.Report.Basic
import CatalogHealth.Value.Json

/-!
# Reports as JSON

The report as one JSON object: what was looked at, a summary, the results, the
findings and, if they were asked for, the corrective statements.
-/

namespace CatalogHealth

/-- The name of the tool in reports. -/
def toolName : String := "pg-health"

/-- The version of the tool in reports. -/
def toolVersion : String := "0.1.0"

/-- A count as a value. -/
def Value.count (n : Nat) : Value := .int n

/-- A result as reports write it. -/
def CheckResult.toValue (result : CheckResult) : Value :=
  .record
    [("check_name", .text result.checkName), ("category", .text result.category),
     ("description", .text result.description), ("passed", .bool result.isPassed),
     ("completed", .bool result.completed), ("error", .ofText? result.error)]

/-- A finding as reports write it. -/
def Finding.toValue (f : Finding) : Value :=
  .record
    [("severity", .text f.severity.name), ("check_name", .text f.checkName),
     ("category", .text f.category), ("title", .text f.title), ("detail", .text f.detail),
     ("object_name", .text f.objectName), ("objects", .texts f.objects),
     ("remediation", .text f.remediation), ("metadata", .record f.metadata)]

/-- A statement as reports write it. -/
def Statement.toValue (s : Statement) : Value :=
  .record
    [("sql", .text s.sql), ("check_name", .text s.checkName), ("objects", .texts s.objects),
     ("transactional", .bool s.transactional)]

namespace Report

/-- What was looked at, and with what. -/
def metaValue (report : Report) : Value :=
  .record
    [("tool", .text toolName), ("version", .text toolVersion),
     ("database", report.database), ("complete", .bool report.complete)]

/-- The numbers of a report. -/
def summaryValue (report : Report) : Value :=
  .record
    [("total_checks", .count report.results.length), ("checks_passed", .count report.passedCount),
     ("checks_failed", .count report.failedCount),
     ("incomplete_checks", .texts (report.unfinished.map Text.ofString)),
     ("high", .count (report.count .high)), ("warnings", .count (report.count .warning)),
     ("info", .count (report.count .info))]

/-- A report as one value. -/
def toValue (report : Report) (statements? : Option (List Statement)) : Value :=
  .record <|
    [("meta", report.metaValue), ("summary", report.summaryValue),
     ("results", .list (report.results.map CheckResult.toValue)),
     ("findings", .list (report.findings.map Finding.toValue))] ++
    match statements? with
    | none => []
    | some statements => [("statements", .list (statements.map Statement.toValue))]

/-- A report as JSON text. -/
def json (report : Report) (statements? : Option (List Statement)) : String :=
  (report.toValue statements?).json 0

end Report

end CatalogHealth
