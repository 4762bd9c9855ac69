import CatalogHealth.Check.Basic
import CatalogHealth.Value.Basic

/-!
# Deadlines

An evaluation may have a deadline and several workers. A single worker looks at the
deadline in front of each check. Several workers are waited for when all checks are
handed out; until then a worker is started whenever none is free, and while it
starts, every check that was handed out before runs to its end. So a deadline that has
passed still leaves the checks that were handed out up to the last start.
-/

namespace CatalogHealth

/-- The number of checks that have run once a number of workers was started. Each
start lets all checks run that were handed out before it: the first runs one check,
and every worker that is free takes one more before the next worker is needed. -/
def runsOfWorkers (started : Nat) : Nat := started * (started + 1) / 2

/-- The number of checks out of `total` that have run when the last one is handed
out to at most some workers: those that were handed out since the last start have
not. -/
def runsAtOnce (total : Nat) : Nat → Nat
  | 0 => 0
  | workers + 1 =>
    if runsOfWorkers (workers + 1) ≤ total then runsOfWorkers (workers + 1)
    else runsAtOnce total workers

/-- The seconds that are told apart from none: a deadline that is not further away
has passed. -/
def instant : Number := .float (Binary64.ofDecimal false 1 (-9))

/-- The seconds that can be waited for workers. -/
def longestWait : Number := .int 9223372036

/-- The seconds up to a deadline, if there is one. -/
def secondsOf (timeout : Value) : Except Fault (Option Number) :=
  if timeout = .null then .ok none
  else
    match timeout.number? with
    | some seconds => do
      discard seconds.toFloat
      return some seconds
    | none => .error .wrongKind

/-- The greatest number of workers that may be started for `total` checks. -/
def workerCount (total : Nat) (workers : Number) : Nat :=
  ((List.range total).find? fun count => workers.le (.int (count : Nat))).getD total

/-- The checks that finish before a deadline. With a single worker a deadline that
has passed lets none finish. With several workers it is looked at when all checks
are handed out. Any other deadline is taken to be far enough away, if it is in the
range of time at all. -/
def finishedBefore (workers timeout : Value) (checks : List Check) :
    Except Fault (List Check) := do
  let seconds? ← secondsOf timeout
  match workers.number?, seconds? with
  | none, _ => throw .wrongKind
  | _, none => return checks
  | some workers, some seconds =>
    if workers.le (.int 1) then return if seconds.le instant then [] else checks
    let runs := runsAtOnce checks.length (workerCount checks.length workers)
    if !instant.lt seconds then return checks.take runs
    if longestWait.lt seconds && decide (runs < checks.length) then throw .waitTooLong
    return checks

end CatalogHealth
