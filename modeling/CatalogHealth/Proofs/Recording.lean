import CatalogHealth.Proofs.Matching
import CatalogHealth.Proofs.Reporting

/-!
# Recording results in any order

Several workers finish their checks in whatever order, and each finished check is recorded in
its own result. The names of registered checks are distinct, so no check touches the result of
another one, and the report is put together in the order of the registry. Which checks finish
before a deadline is left open here: the laws hold for any of them.
-/

namespace CatalogHealth

/-! ## The checks of a request -/

namespace Registry

/-- The checks that ask for a place are all there. -/
theorem placed_perm (checks : List Check) :
    (placed checks).Perm (checks.filter fun check => check.priority.isSome) := by
  have hasking : (checks.filterMap fun check => check.priority.map (·, check)).map Prod.snd =
      checks.filter fun check => check.priority.isSome := by
    induction checks with
    | nil => rfl
    | cons check rest ih =>
      cases hpriority : check.priority with
      | none => simpa [hpriority] using ih
      | some place => simpa [hpriority] using ih
  exact hasking ▸ (sortBy_perm _).map Prod.snd

/-- The checks in the order in which they run are those that are switched on and asked for. -/
theorem enabledChecks_perm (registry : Registry) (categories : List Text) :
    (registry.enabledChecks categories).Perm (registry.checks.filter fun check =>
      !registry.disabled.contains check.name &&
        (categories.isEmpty || categories.contains check.category)) := by
  have hsplit : ∀ checks : List Check, (placed checks ++ unplaced checks).Perm checks := by
    intro checks
    have hunplaced : unplaced checks =
        checks.filter fun check => !check.priority.isSome := by
      simp [unplaced, Option.not_isSome]
    rw [hunplaced]
    exact ((placed_perm checks).append_right _).trans (List.filter_append_perm _ checks)
  exact hsplit _

end Registry

namespace EvaluationRequest

variable {request : EvaluationRequest} {check : Check}

/-- The checks that run are registered. -/
theorem mem_registry_of_mem_checks (h : check ∈ request.checks) :
    check ∈ request.registry.checks :=
  (List.mem_filter.1 ((request.registry.enabledChecks_perm request.categories).mem_iff.1 h)).1

/-- The names of the checks that run are distinct. -/
theorem checks_names_nodup (request : EvaluationRequest) :
    (request.checks.map fun check => check.name).Nodup := by
  have hperm := request.registry.enabledChecks_perm request.categories
  refine (hperm.map fun check => check.name).nodup_iff.2 ?_
  exact request.registry.names_nodup.sublist (List.filter_sublist.map _)

/-- The report about a snapshot once some of the checks ran to their end, recorded in that
order; the others are left unfinished. -/
def reportAfter (request : EvaluationRequest) (s : Snapshot) (finished : List Check) :
    Except Fault Report := do
  request.thresholds.validate
  evaluateInOrder s request.rules request.thresholds request.checks finished

/-- An evaluation reports after the checks that finish before its deadline. -/
theorem evaluate_eq_reportAfter {s : Snapshot} {finished : List Check}
    (h : finishedBefore request.workers request.timeout request.checks = .ok finished) :
    evaluate s request = request.reportAfter s finished := by
  rw [evaluate, h]
  rfl

/-- An evaluation reports if the thresholds are accepted, the deadline can be kept and the
findings of the checks that finish can be matched. -/
theorem evaluate_eq_ok {s : Snapshot} {report : Report} :
    evaluate s request = .ok report ↔ request.thresholds.validate = .ok () ∧ ∃ finished,
      finishedBefore request.workers request.timeout request.checks = .ok finished ∧
        evaluateInOrder s request.rules request.thresholds request.checks finished =
          .ok report := by
  rw [evaluate, Traversal.bind_eq_ok]
  simp only [Traversal.bind_eq_ok]
  constructor
  · rintro ⟨⟨⟩, hvalid, h⟩
    exact ⟨hvalid, h⟩
  · rintro ⟨hvalid, h⟩
    exact ⟨(), hvalid, h⟩

end EvaluationRequest

/-- The checks that finish before a deadline are some of those that run, in the same order. -/
theorem finishedBefore_sublist {workers timeout : Value} {checks finished : List Check}
    (h : finishedBefore workers timeout checks = .ok finished) : finished.Sublist checks := by
  obtain ⟨seconds?, -, h⟩ := Traversal.bind_eq_ok.1 h
  cases hworkers : workers.number? with
  | none =>
    rw [hworkers] at h
    cases h
  | some count =>
    rw [hworkers] at h
    cases seconds? with
    | none =>
      cases Traversal.pure_eq_ok.1 h
      exact List.Sublist.refl _
    | some seconds =>
      simp only at h
      split at h
      · cases Traversal.pure_eq_ok.1 h
        split
        · exact List.nil_sublist _
        · exact List.Sublist.refl _
      · split at h
        · cases Traversal.pure_eq_ok.1 h
          exact List.take_sublist ..
        · split at h
          · cases h
          · cases Traversal.pure_eq_ok.1 h
            exact List.Sublist.refl _

/-! ## Results in any order -/

variable {s : Snapshot} {rules : Exclusions} {t : Thresholds}
  {checks finished arrivals : List Check}

/-- A result carries the name of its check. -/
theorem finishedResult_checkName {check : Check} {result : CheckResult}
    (h : finishedResult s rules t check = .ok result) : result.checkName = check.name := by
  obtain ⟨findings, -, h⟩ := Traversal.bind_eq_ok.1 h
  cases Traversal.pure_eq_ok.1 h
  rfl

/-- The results of checks carry their names in order. -/
theorem checkNames_of_mapM {results : List CheckResult}
    (h : finished.mapM (finishedResult s rules t) = .ok results) :
    results.map CheckResult.checkName = finished.map fun check => check.name := by
  have hpairs := Traversal.mapM_eq_ok.1 h
  clear h
  induction hpairs with
  | nil => rfl
  | cons hresult _ ih => rw [List.map_cons, List.map_cons, finishedResult_checkName hresult, ih]

/-- A check that cannot be recorded is one whose findings cannot be matched. -/
theorem fault_of_finishedResult {check : Check} {fault : Fault}
    (h : finishedResult s rules t check = .error fault) : fault = .wrongKind := by
  unfold finishedResult at h
  cases hfilter : rules.filterFindings s check.name (outcome s t check).1 with
  | error other =>
    simp only [hfilter] at h
    cases h
    exact Exclusions.fault_of_filterFindings hfilter
  | ok findings =>
    simp only [hfilter] at h
    cases h

/-- What becomes of a pending result does not depend on the order in which others are recorded. -/
theorem foldl_replacedBy_of_perm {results results' : List CheckResult}
    (hperm : results.Perm results') (hnodup : (results.map CheckResult.checkName).Nodup)
    (pending : CheckResult) :
    results.foldl replacedBy pending = results'.foldl replacedBy pending := by
  have hnames := hperm.map CheckResult.checkName
  by_cases hmem : pending.checkName ∈ results.map CheckResult.checkName
  · obtain ⟨result, hresult, hname⟩ := List.mem_map.1 hmem
    rw [foldl_replacedBy_of_mem hnodup hresult hname.symm,
      foldl_replacedBy_of_mem (hnames.nodup_iff.1 hnodup) (hperm.mem_iff.1 hresult) hname.symm]
  · rw [foldl_replacedBy_of_notMem hmem,
      foldl_replacedBy_of_notMem fun h => hmem (hnames.mem_iff.2 h)]

/-- A report is put together once the findings of every finished check could be matched. -/
theorem evaluateInOrder_eq_ok {report : Report} :
    evaluateInOrder s rules t checks finished = .ok report ↔
      ∃ results, finished.mapM (finishedResult s rules t) = .ok results ∧
        report = reportOf s.database
          (checks.map fun check => results.foldl replacedBy (pendingResult check)) := by
  rw [evaluateInOrder, Traversal.bind_eq_ok]
  refine exists_congr fun results => and_congr_right fun _ => ?_
  rw [Traversal.pure_eq_ok, foldl_recordResult, List.map_map, eq_comm]
  rfl

/-- Only findings that cannot be matched stand against a report. -/
theorem fault_of_evaluateInOrder {fault : Fault}
    (h : evaluateInOrder s rules t checks finished = .error fault) : fault = .wrongKind := by
  unfold evaluateInOrder at h
  cases hresults : finished.mapM (finishedResult s rules t) with
  | error other =>
    rw [hresults] at h
    cases h
    obtain ⟨check, -, hfault⟩ := Traversal.exists_fault_of_mapM hresults
    exact fault_of_finishedResult hfault
  | ok results =>
    rw [hresults] at h
    cases h

/-- The report does not depend on the order in which finished checks are recorded. -/
theorem evaluateInOrder_of_perm (hperm : arrivals.Perm finished)
    (hnodup : (finished.map fun check => check.name).Nodup) :
    evaluateInOrder s rules t checks arrivals = evaluateInOrder s rules t checks finished := by
  -- Both orders record the same results, each in its own slot.
  have hforth : ∀ {first second : List Check} {report : Report}, first.Perm second →
      (second.map fun check => check.name).Nodup →
        evaluateInOrder s rules t checks second = .ok report →
          evaluateInOrder s rules t checks first = .ok report := by
    intro first second report hperm hnodup h
    obtain ⟨results, hresults, rfl⟩ := evaluateInOrder_eq_ok.1 h
    obtain ⟨recorded, hrecorded, hsame⟩ := Traversal.exists_mapM_of_perm hperm hresults
    have hdistinct : (results.map CheckResult.checkName).Nodup :=
      checkNames_of_mapM hresults ▸ hnodup
    refine evaluateInOrder_eq_ok.2 ⟨recorded, hrecorded, congrArg (reportOf s.database) ?_⟩
    exact List.map_congr_left fun check _ =>
      foldl_replacedBy_of_perm hsame.symm hdistinct (pendingResult check)
  cases hfinished : evaluateInOrder s rules t checks finished with
  | ok report => exact hforth hperm hnodup hfinished
  | error fault =>
    cases harrivals : evaluateInOrder s rules t checks arrivals with
    | ok report =>
      have hnodup' := (hperm.map fun check => check.name).nodup_iff.2 hnodup
      cases (hforth hperm.symm hnodup' harrivals).symm.trans hfinished
    | error other =>
      rw [fault_of_evaluateInOrder hfinished, fault_of_evaluateInOrder harrivals]

/-- On several workers the checks may be recorded in any order: the report is that of a single
worker which runs them in the order of the registry. Without a deadline the number of workers
changes nothing. A rule that cannot be matched ends all of these evaluations alike. -/
theorem report_independent_of_arrival (request : EvaluationRequest)
    (hperm : arrivals.Perm request.checks) :
    request.reportAfter s arrivals =
        evaluate s { request with workers := .int 1, timeout := .null } ∧
      ∀ workers : Int, evaluate s { request with workers := .int workers, timeout := .null } =
        evaluate s { request with workers := .int 1, timeout := .null } := by
  have hall : ∀ workers : Int,
      evaluate s { request with workers := .int workers, timeout := .null } =
        request.reportAfter s request.checks :=
    fun workers => EvaluationRequest.evaluate_eq_reportAfter rfl
  have harrivals : request.reportAfter s arrivals = request.reportAfter s request.checks := by
    rw [EvaluationRequest.reportAfter, evaluateInOrder_of_perm hperm request.checks_names_nodup]
    rfl
  exact ⟨harrivals.trans (hall 1).symm, fun workers => (hall workers).trans (hall 1).symm⟩

/-- A check that never comes to its end. -/
def faultyCheck : Check where
  name := "faulty"
  category := "tables"
  description := "A check at fault"
  run _ _ := .error .wrongKind

/-- A table that nothing protects. -/
def keylessTable : Snapshot :=
  { bareSnapshot with
    tables := [{ schema := .text "public", name := .text "orders" }]
    tables_nodup := by decide }

/-- Two checks of which the first one is at fault. -/
def faultyRequest : EvaluationRequest where
  registry :=
    { checks := [faultyCheck, tablesWithoutPrimaryKey]
      names_nodup := by decide
      disabled_registered := by simp }

/-- The check that is at fault may be recorded last. -/
theorem report_independent_of_arrival_faulty :
    (faultyRequest.checks.reverse.Perm faultyRequest.checks) ∧
      ∃ report, faultyRequest.reportAfter keylessTable faultyRequest.checks.reverse = .ok report ∧
        evaluate keylessTable { faultyRequest with workers := .int 1, timeout := .null } =
          .ok report ∧
        evaluate keylessTable { faultyRequest with workers := .int 4, timeout := .null } =
          .ok report ∧
        report.results.map CheckResult.checkName = ["faulty", "tables_without_primary_key"] ∧
        report.failedCount = 1 ∧ report.findings.length = 2 := by
  have hperm := List.reverse_perm faultyRequest.checks
  obtain ⟨hserial, hworkers⟩ :=
    report_independent_of_arrival (s := keylessTable) faultyRequest hperm
  have hruns : (faultyRequest.reportAfter keylessTable faultyRequest.checks.reverse).toOption.any
      (fun report =>
        report.results.map CheckResult.checkName = ["faulty", "tables_without_primary_key"] ∧
          report.failedCount = 1 ∧ report.findings.length = 2) = true := by
    decide +kernel
  obtain ⟨report, hreport, hfacts⟩ := Traversal.exists_ok_of_toOption hruns
  exact ⟨hperm, report, hreport, hserial.symm.trans hreport,
    (hworkers 4).trans (hserial.symm.trans hreport), of_decide_eq_true hfacts⟩

end CatalogHealth
