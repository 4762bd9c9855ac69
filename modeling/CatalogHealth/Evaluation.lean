import CatalogHealth.Deadline
import CatalogHealth.Exclusion
import CatalogHealth.Registry
import CatalogHealth.Report.Basic

/-!
# Evaluation

Every enabled check runs on the whole snapshot, and the rules of exclusion
silence findings afterwards. Checks may finish in any order: what one of them
finds is recorded in its own result, and the findings are merged in the order of
the registry. A check that ends with a fault and a check that does not finish before
the deadline leave a finding about themselves; a rule of exclusion that cannot be
matched ends the evaluation.
-/

namespace CatalogHealth

/-- The name that stands for the evaluation itself in findings. -/
def engineObject : String := "(engine)"

/-- The finding about a check that ended with a fault. -/
def failureFinding (label : CheckLabel) (error : Text) : Finding where
  severity := .info
  checkName := label.name
  category := label.category
  title := "Check '" ++ label.name ++ "' failed"
  detail :=
    "Check '" ++ label.name ++ "' raised " ++ error ++
    ". Its results are missing from this report; all other checks ran normally."
  objectName := engineObject
  metadata := [("error", .text error)]

/-- The finding about a check that did not finish in time. -/
def unfinishedFinding (label : CheckLabel) : Finding where
  severity := .info
  checkName := label.name
  category := label.category
  title := "Check '" ++ label.name ++ "' did not complete"
  detail :=
    "Check '" ++ label.name ++
    "' was not finished before the evaluation deadline. This report is partial."
  objectName := engineObject

/-- The result of a check that has not run yet. -/
def pendingResult (check : Check) : CheckResult where
  checkName := check.name
  category := check.category
  description := check.description
  completed := false

/-- What a check finds on a snapshot, or the fault that ends it. -/
def outcome (snapshot : Snapshot) (thresholds : Thresholds) (check : Check) :
    List Finding × Option Text :=
  match check.run snapshot thresholds with
  | .ok findings => (findings, none)
  | .error fault => ([], some fault.line)

/-- The result of a check that ran to its end. -/
def finishedResult (snapshot : Snapshot) (rules : Exclusions) (thresholds : Thresholds)
    (check : Check) : Except Fault CheckResult := do
  let (found, error) := outcome snapshot thresholds check
  let findings ← rules.filterFindings snapshot check.name found
  return { checkName := check.name
           category := check.category
           description := check.description
           findings
           error }

/-- The results after one more check ran to its end; only its own result
changes. -/
def recordResult (result : CheckResult) (results : List CheckResult) : List CheckResult :=
  results.map fun other => if other.checkName = result.checkName then result else other

/-- The findings that a result contributes to the report. -/
def contribution (result : CheckResult) : List Finding :=
  let label : CheckLabel :=
    { name := result.checkName, category := result.category, description := result.description }
  if result.isFailed then failureFinding label (result.error.getD "") :: result.findings
  else if !result.completed then unfinishedFinding label :: result.findings
  else result.findings

/-- The report about some results. -/
def reportOf (database : Value) (results : List CheckResult) : Report where
  database := database
  results := results
  findings := Finding.merge (results.flatMap contribution)
  complete := results.all fun result => result.isFailed || result.completed

/-- The report about some checks of which those in `finished` ran to their end,
in that order. -/
def evaluateInOrder (snapshot : Snapshot) (rules : Exclusions) (thresholds : Thresholds)
    (checks finished : List Check) : Except Fault Report := do
  let results ← finished.mapM (finishedResult snapshot rules thresholds)
  return reportOf snapshot.database
    (results.foldl (fun results result => recordResult result results) (checks.map pendingResult))

/-- What is evaluated, and how. -/
structure EvaluationRequest where
  /-- The checks to choose from. -/
  registry : Registry := .builtin
  /-- The rules of exclusion. -/
  rules : Exclusions := []
  /-- The thresholds, not yet checked. -/
  thresholds : Thresholds := {}
  /-- The categories to run, all if there are none. -/
  categories : List Text := []
  /-- The number of workers. -/
  workers : Value := .int 1
  /-- The seconds after which the evaluation stops, absent if it does not. -/
  timeout : Value := .null

/-- The checks that a request chooses, in the order in which they run. -/
def EvaluationRequest.checks (request : EvaluationRequest) : List Check :=
  request.registry.enabledChecks request.categories

/-- The report about a snapshot, unless the thresholds are refused. -/
def evaluate (snapshot : Snapshot) (request : EvaluationRequest) : Except Fault Report := do
  request.thresholds.validate
  evaluateInOrder snapshot request.rules request.thresholds request.checks
    (← finishedBefore request.workers request.timeout request.checks)

/-! ## Progress -/

/-- The lines about one result, given its place. -/
def progressOf (total : Nat) (numbered : CheckResult × Nat) : List Text :=
  let (result, place) := numbered
  let line : Text :=
    "  [" ++ toString place ++ "/" ++ toString total ++ "] " ++ result.category ++ "/" ++
    result.checkName ++ ": " ++ result.description
  if !result.completed then []
  else if result.isFailed then [line, "    ERROR: " ++ result.error.getD ""]
  else [line]

/-- The lines that tell which of some checks have run. -/
def progressLines (total : Nat) (results : List CheckResult) : List Text :=
  let opening : Text := "Evaluating " ++ toString total ++ " checks..."
  opening :: (results.zipIdx 1).flatMap (progressOf total)

/-- The lines that tell how an evaluation went along. -/
def Report.progress (report : Report) : List Text :=
  let high := toString (report.count .high)
  let warnings := toString (report.count .warning)
  let info := toString (report.count .info)
  let closing : Text :=
    "Done. " ++ high ++ " high, " ++ warnings ++ " warnings, " ++ info ++ " info."
  progressLines report.results.length report.results ++ [closing]

/-- The results in front of the first fault. -/
def resultsBeforeFault {α β : Type} (f : α → Except Fault β) : List α → List β
  | [] => []
  | x :: rest =>
    match f x with
    | .ok y => y :: resultsBeforeFault f rest
    | .error _ => []

/-- The lines that tell how far an evaluation came whose thresholds were not
refused and that a fault ended. -/
def EvaluationRequest.interruptedProgress (request : EvaluationRequest) (snapshot : Snapshot) :
    List Text :=
  progressLines request.checks.length
    (resultsBeforeFault (finishedResult snapshot request.rules request.thresholds)
      ((finishedBefore request.workers request.timeout request.checks).toOption.getD []))

end CatalogHealth
