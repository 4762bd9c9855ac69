import CatalogHealth.Report.Basic
import CatalogHealth.Text.Blank

/-!
# Reports as Markdown

A heading, a summary line, and the findings below a heading for each severity
that occurs. Blank characters at the end are dropped, and the text ends with a
line break.
-/

namespace CatalogHealth

/-- The heading above the findings of a severity. -/
def Severity.heading : Severity → String
  | .high => "High"
  | .warning => "Warnings"
  | .info => "Informational"

/-- The lines about what can be done about a finding. -/
def Finding.adviceLines (f : Finding) : List Text :=
  if f.remediation = "" then [""] else ["", "**Remediation:** " ++ f.remediation, ""]

/-- The lines about a finding. -/
def Finding.markdownLines (f : Finding) : List Text :=
  let headline : Text := "### " ++ f.title
  let place : Text := "*" ++ f.category ++ "/" ++ f.checkName ++ "* — `" ++ f.objectName ++ "`"
  headline :: "" :: place :: "" :: f.detail :: f.adviceLines

namespace Report

/-- The lines about the findings of a severity. -/
def markdownSection (report : Report) (severity : Severity) : List Text :=
  let findings := report.findings.filter fun finding => finding.severity = severity
  let headline : Text := "## " ++ severity.heading ++ " (" ++ toString findings.length ++ ")"
  if findings.isEmpty then []
  else "" :: headline :: "" :: findings.flatMap Finding.markdownLines

/-- The line that sums a report up. -/
def summaryLine (report : Report) : Text :=
  let total := toString report.results.length
  let passed := toString report.passedCount
  let high := toString (report.count .high)
  let warnings := toString (report.count .warning)
  let info := toString (report.count .info)
  "**" ++ total ++ "** checks run, **" ++ passed ++ "** passed. " ++ high ++ " high, " ++
    warnings ++ " warnings, " ++ info ++ " info."

/-- The lines about checks that did not run to their end. -/
def unfinishedLines (report : Report) : List Text :=
  if report.complete then []
  else ["", "> **Partial report:** unfinished checks: " ++ ", ".intercalate report.unfinished]

/-- The lines of a report. -/
def markdownLines (report : Report) : List Text :=
  let headline : Text := "# pg-health report: " ++ report.subject
  let closing : List Text := if report.findings.isEmpty then ["", "No problems found."] else []
  headline :: "" :: report.summaryLine ::
    (report.unfinishedLines ++ Severity.all.flatMap report.markdownSection ++ closing)

/-- A report as Markdown. -/
def markdown (report : Report) : Text :=
  (Text.join "\n" report.markdownLines).stripEnd ++ "\n"

end Report

end CatalogHealth
