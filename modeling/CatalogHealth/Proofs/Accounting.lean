import CatalogHealth.Proofs.FindingKeys
import CatalogHealth.Proofs.Silencing

/-!
# A report accounts for its results

What the built-in checks find is about different things, and so are the findings of the
evaluation about itself. The report therefore keeps all of them, each once, and puts them in
order. Which checks finish before a deadline is left open, and so are the rules of exclusion.
Checks that repeat themselves are outside the scope of this module; of their findings a report
keeps the first one about each thing.
-/

namespace CatalogHealth

namespace Finding

variable {findings : List Finding} {f g : Finding}

/-- One finding comes strictly before another one by urgency, then by the objects and then by
the check. -/
def Below (f g : Finding) : Prop :=
  f.severity.rank < g.severity.rank ∨
    f.severity.rank = g.severity.rank ∧
      (textsLe f.objects g.objects = true ∧ f.objects ≠ g.objects ∨
        f.objects = g.objects ∧
          textLe f.checkName g.checkName = true ∧ f.checkName ≠ g.checkName)

/-- Headlines do not decide the order of findings about different things. -/
theorem Precedes.below (h : f.Precedes g) : f.Below g := by
  obtain ⟨hle, hkey⟩ := h
  change byPart SortKey.rank Nat.ble SortKey.objectsLe f.sortKey g.sortKey = true at hle
  unfold byPart at hle
  split at hle
  · rename_i hrank
    refine .inr ⟨hrank, ?_⟩
    change byPart SortKey.objects textsLe SortKey.checkLe f.sortKey g.sortKey = true at hle
    unfold byPart at hle
    split at hle
    · rename_i hobjects
      have hname : f.checkName ≠ g.checkName := fun hname => hkey (Prod.ext hname hobjects)
      change byPart SortKey.checkName textLe SortKey.titleLe f.sortKey g.sortKey = true at hle
      unfold byPart at hle
      split at hle
      · rename_i hsame
        exact absurd (Text.ofString_injective hsame) hname
      · exact .inr ⟨hobjects, hle, hname⟩
    · rename_i hobjects
      exact .inl ⟨hle, hobjects⟩
  · rename_i hrank
    exact .inl (Nat.lt_of_le_of_ne (Nat.le_of_ble_eq_true hle) hrank)

/-- Among findings about different things each one is the first about its own. -/
theorem firstsFrom_eq_self {seen : List (String × List Text)}
    (hseen : ∀ f ∈ findings, f.key ∉ seen) (hnodup : (findings.map key).Nodup) :
    firstsFrom seen findings = findings := by
  induction findings generalizing seen with
  | nil => rfl
  | cons f rest ih =>
    obtain ⟨hf, hrest⟩ := List.forall_mem_cons.1 hseen
    obtain ⟨hfresh, hdistinct⟩ := List.nodup_cons.1 hnodup
    rw [firstsFrom, if_neg hf, ih (fun g hg hmem => ?_) hdistinct]
    rcases List.mem_cons.1 hmem with hkey | hmem
    · exact hfresh (hkey ▸ List.mem_map_of_mem hg)
    · exact hrest g hg hmem

/-- Findings about different things are merged by putting them in order. -/
theorem merge_eq_sort (hnodup : (findings.map key).Nodup) : merge findings = sort findings := by
  have hfirsts : firsts findings = findings :=
    firstsFrom_eq_self (fun _ _ hmem => by cases hmem) hnodup
  rw [merge, hfirsts]

/-- A report keeps all findings about different things. -/
theorem merge_perm (hnodup : (findings.map key).Nodup) : (merge findings).Perm findings := by
  rw [merge_eq_sort hnodup]
  exact sortBy_perm findings

end Finding

namespace CheckResult

/-- A result says nothing twice, speaks for its own check and is in one state. -/
structure Consistent (result : CheckResult) : Prop where
  /-- Findings carry the name of the check. -/
  checkName : ∀ f ∈ result.findings, f.checkName = result.checkName
  /-- No two findings name the same objects. -/
  objects_nodup : (result.findings.map Finding.objects).Nodup
  /-- Findings are not about the evaluation. -/
  not_engine : ∀ f ∈ result.findings, f.objects ≠ [(engineObject : Text)]
  /-- A check that failed ran to its end. -/
  completed_of_failed : result.isFailed = true → result.completed = true
  /-- A check that failed found nothing. -/
  findings_of_failed : result.isFailed = true → result.findings = []
  /-- A check that did not run to its end found nothing. -/
  findings_of_unfinished : result.completed = false → result.findings = []

variable {result : CheckResult} {results : List CheckResult} {s : Snapshot} {t : Thresholds}
  {check : Check}

/-- What results contribute is their findings and the markers. -/
theorem contributions_perm (results : List CheckResult) :
    (results.flatMap contribution).Perm
      (results.flatMap CheckResult.findings ++ (results.filter isMarked).map marker) := by
  have hmarkers : results.flatMap (fun result =>
      if result.isMarked then [result.marker] else []) = (results.filter isMarked).map marker := by
    induction results with
    | nil => rfl
    | cons result rest ih =>
      rw [List.flatMap_cons, List.filter_cons, ih]
      split <;> rfl
  have hsplit := List.flatMap_append_perm results
    (fun result => if result.isMarked then [result.marker] else []) CheckResult.findings
  rw [hmarkers] at hsplit
  rw [List.flatMap_congr fun result _ => contribution_eq result]
  exact hsplit.symm.trans List.perm_append_comm

namespace Consistent

/-- A consistent result contributes no two findings about the same thing. -/
theorem contribution_keys_nodup (h : result.Consistent) :
    ((contribution result).map Finding.key).Nodup := by
  have hobjects : ((contribution result).map Finding.objects).Nodup := by
    rw [contribution_eq]
    split
    · rw [List.singleton_append, List.map_cons, List.nodup_cons]
      refine ⟨fun hmem => ?_, h.objects_nodup⟩
      obtain ⟨f, hf, hsame⟩ := List.mem_map.1 hmem
      exact h.not_engine f hf (hsame.trans result.marker_spec.2.1)
    · exact h.objects_nodup
  refine List.Nodup.of_map Prod.snd ?_
  rw [List.map_map]
  exact hobjects

/-- A consistent result is in exactly one of four states. -/
theorem one_state (h : result.Consistent) :
    [result.isPassed, result.isFailed, !result.completed,
      result.completed && !result.findings.isEmpty].count true = 1 := by
  unfold isPassed
  cases hfailed : result.isFailed with
  | true => simp [h.completed_of_failed hfailed, h.findings_of_failed hfailed]
  | false =>
    cases hcompleted : result.completed with
    | false => simp [h.findings_of_unfinished hcompleted]
    | true =>
      cases result.findings.isEmpty with
      | true => rfl
      | false => rfl

/-- Leaving findings out keeps a result consistent. -/
theorem silenced (h : result.Consistent) (rules : Exclusions) (s : Snapshot) :
    (result.silenced rules s).Consistent where
  checkName := fun f hf => h.checkName f (List.mem_filter.1 hf).1
  objects_nodup := h.objects_nodup.sublist (List.filter_sublist.map _)
  not_engine := fun f hf => h.not_engine f (List.mem_filter.1 hf).1
  completed_of_failed := h.completed_of_failed
  findings_of_failed := fun hfailed => by
    rw [CheckResult.silenced, h.findings_of_failed hfailed]
    rfl
  findings_of_unfinished := fun hunfinished => by
    rw [CheckResult.silenced, h.findings_of_unfinished hunfinished]
    rfl

end Consistent

/-- Consistent results of different checks contribute no two findings about the same thing. -/
theorem contributions_keys_nodup (hresults : ∀ result ∈ results, result.Consistent)
    (hnodup : (results.map CheckResult.checkName).Nodup) :
    ((results.flatMap contribution).map Finding.key).Nodup := by
  rw [List.map_flatMap, List.nodup_flatMap]
  refine ⟨fun result hresult => (hresults result hresult).contribution_keys_nodup, ?_⟩
  have hdisjoint := contributions_disjoint
    (fun result hresult => (hresults result hresult).checkName) hnodup
  refine hdisjoint.imp fun {first second} hcross key hkey hkey' => ?_
  obtain ⟨f, hf, rfl⟩ := List.mem_map.1 hkey
  obtain ⟨g, hg, hsame⟩ := List.mem_map.1 hkey'
  exact hcross f hf g hg hsame.symm

/-- The result of a built-in check is consistent. -/
theorem consistent_ownResult (hcheck : check ∈ builtinChecks) :
    (ownResult s t check).Consistent := by
  cases hrun : check.run s t with
  | ok found =>
    have hresult : ownResult s t check =
        { checkName := check.name, category := check.category, description := check.description,
          findings := found } := by simp [ownResult, outcome, hrun]
    rw [hresult]
    refine ⟨fun f hf => checkName_of_mem_run hcheck hrun hf, objects_nodup_of_run hcheck hrun,
      fun f hf hengine => ?_, ?_, ?_, ?_⟩
    · obtain ⟨object, -, hname⟩ := names_object_of_run hcheck hrun hf
      rw [hengine, List.mem_singleton] at hname
      have hpoint := object.point_mem_qualifiedName
      rw [hname] at hpoint
      exact absurd hpoint (by decide)
    · exact fun _ => rfl
    · simp [isFailed]
    · simp
  | error fault =>
    have hfindings : (ownResult s t check).findings = [] := by simp [ownResult, outcome, hrun]
    have hcompleted : (ownResult s t check).completed = true := rfl
    exact ⟨by simp [hfindings], by simp [hfindings], by simp [hfindings], fun _ => hcompleted,
      fun _ => hfindings, fun _ => hfindings⟩

/-- The result of a check that has not run yet is consistent. -/
theorem consistent_pendingResult (check : Check) : (pendingResult check).Consistent where
  checkName := by simp [pendingResult]
  objects_nodup := List.nodup_nil
  not_engine := by simp [pendingResult]
  completed_of_failed := by simp [pendingResult, isFailed]
  findings_of_failed := fun _ => rfl
  findings_of_unfinished := fun _ => rfl

end CheckResult

/-! ## Reports -/

/-- A report accounts for its results: nothing that they found is lost or said twice, and each
result is in one state. -/
structure Report.Accounts (report : Report) : Prop where
  /-- Findings come in strictly ascending order. -/
  ascending : report.findings.Pairwise Finding.Below
  /-- No two findings are about the same thing. -/
  keys_nodup : (report.findings.map Finding.key).Nodup
  /-- The findings are those of the results and one about each result that failed or did not
  complete. -/
  findings_perm : ∃ markers : List Finding,
    report.findings.Perm (report.results.flatMap CheckResult.findings ++ markers) ∧
      List.Forall₂ (fun result f => f.severity = .info ∧
          f.objects = [(engineObject : Text)] ∧ f.checkName = result.checkName)
        (report.results.filter fun result => result.isFailed || !result.completed) markers
  /-- Only these are about the evaluation. -/
  not_engine : ∀ f ∈ report.results.flatMap CheckResult.findings,
    f.objects ≠ [(engineObject : Text)]
  /-- A report is complete if no check is listed as unfinished. -/
  complete_iff : report.complete = true ↔ report.unfinished = []
  /-- A result passed, failed, did not complete, or completed with findings. -/
  one_state : ∀ result ∈ report.results,
    [result.isPassed, result.isFailed, !result.completed,
      result.completed && !result.findings.isEmpty].count true = 1

/-- A report about consistent results of different checks accounts for them. -/
theorem accounts_reportOf {results : List CheckResult} (database : Value)
    (hresults : ∀ result ∈ results, result.Consistent)
    (hnodup : (results.map CheckResult.checkName).Nodup) :
    (reportOf database results).Accounts where
  ascending := (Finding.merge_pairwise _).imp fun h => h.below
  keys_nodup := Finding.nodup_keys_merge _
  findings_perm := by
    refine ⟨(results.filter CheckResult.isMarked).map CheckResult.marker, ?_, ?_⟩
    · exact (Finding.merge_perm (CheckResult.contributions_keys_nodup hresults hnodup)).trans
        (CheckResult.contributions_perm results)
    · rw [List.forall₂_map_right_iff]
      exact List.forall₂_same.2 fun result _ => result.marker_spec
  not_engine := by
    intro f hf
    obtain ⟨result, hresult, hf⟩ := List.mem_flatMap.1 hf
    exact (hresults result hresult).not_engine f hf
  complete_iff := by
    have hstate : ∀ result ∈ results,
        (result.isFailed || result.completed) = result.completed := by
      intro result hresult
      cases hfailed : result.isFailed with
      | true => rw [(hresults result hresult).completed_of_failed hfailed, Bool.or_true]
      | false => rw [Bool.false_or]
    rw [Report.unfinished, List.map_eq_nil_iff, List.filter_eq_nil_iff]
    change results.all (fun result => result.isFailed || result.completed) = true ↔ _
    rw [List.all_eq_true]
    constructor
    · intro h result hresult
      simp [(hstate result hresult).symm.trans (h result hresult)]
    · intro h result hresult
      rw [hstate result hresult]
      simpa using h result hresult
  one_state := fun result hresult => (hresults result hresult).one_state

variable {s : Snapshot} {request : EvaluationRequest} {finished : List Check} {report : Report}

/-- The results of an evaluation with built-in checks are consistent, one for each check that was
to run. -/
theorem exists_results_of_reportAfter
    (hbuiltin : ∀ check ∈ request.registry.checks, check ∈ builtinChecks)
    (hfinished : finished.Subperm request.checks)
    (h : request.reportAfter s finished = .ok report) : ∃ results : List CheckResult,
      report = reportOf s.database results ∧ (∀ result ∈ results, result.Consistent) ∧
        results.map CheckResult.checkName = request.checks.map fun check => check.name := by
  have hmem : ∀ check ∈ request.checks, check ∈ builtinChecks := fun check hcheck =>
    hbuiltin check (EvaluationRequest.mem_registry_of_mem_checks hcheck)
  have hown : ∀ check ∈ finished, check.NamesItself s request.thresholds := fun check hcheck =>
    Check.namesItself_of_builtin (hmem check (hfinished.subset hcheck)) s request.thresholds
  obtain ⟨⟨⟩, -, h⟩ := Traversal.bind_eq_ok.1 h
  obtain ⟨-, rfl⟩ := (evaluateInOrder_silenced hown).1 h
  rw [← reportOf_silenced, ownResults_eq hfinished request.checks_names_nodup, List.map_map]
  refine ⟨_, rfl, fun result hresult => ?_, ?_⟩
  · obtain ⟨check, hcheck, rfl⟩ := List.mem_map.1 hresult
    rw [Function.comp]
    split
    · exact (CheckResult.consistent_ownResult (hmem check hcheck)).silenced _ _
    · exact (CheckResult.consistent_pendingResult check).silenced _ _
  · rw [List.map_map]
    refine List.map_congr_left fun check _ => ?_
    rw [Function.comp, Function.comp]
    split <;> rfl

/-- There is a report of the built-in checks if the thresholds are accepted and names and patterns
are texts. -/
theorem exists_reportAfter
    (hbuiltin : ∀ check ∈ request.registry.checks, check ∈ builtinChecks)
    (hnames : s.ObjectNamesAreTexts) (hpatterns : request.rules.PatternsAreTexts)
    (hvalid : request.thresholds.validate = .ok ()) (hfinished : finished.Subperm request.checks) :
    ∃ report, request.reportAfter s finished = .ok report := by
  have hown : ∀ check ∈ finished, check.NamesItself s request.thresholds := fun check hcheck =>
    Check.namesItself_of_builtin (hbuiltin check
      (EvaluationRequest.mem_registry_of_mem_checks (hfinished.subset hcheck))) s _
  refine ⟨_, Traversal.bind_eq_ok.2 ⟨(), hvalid, (evaluateInOrder_silenced hown).2 ⟨?_, rfl⟩⟩⟩
  exact fun check _ f _ => Exclusions.exists_silences hnames hpatterns f.checkName f

/-- The report of the built-in checks accounts for its results, whichever of the checks finish
before the deadline, under every selection of checks, rules and thresholds; there is one result
for each check that was selected. There is a report if the thresholds are accepted and names and
patterns are texts. -/
theorem builtin_report_accounts (s : Snapshot) (request : EvaluationRequest)
    (hbuiltin : ∀ check ∈ request.registry.checks, check ∈ builtinChecks) :
    (∀ (finished : List Check) (report : Report), finished.Subperm request.checks →
      request.reportAfter s finished = .ok report → report.Accounts ∧
        report.results.map CheckResult.checkName = request.checks.map fun check => check.name) ∧
    (∀ finished, finishedBefore request.workers request.timeout request.checks = .ok finished →
      finished.Subperm request.checks ∧ evaluate s request = request.reportAfter s finished) ∧
    (s.ObjectNamesAreTexts → request.rules.PatternsAreTexts →
      request.thresholds.validate = .ok () → ∀ finished, finished.Subperm request.checks →
        ∃ report, request.reportAfter s finished = .ok report) := by
  refine ⟨fun finished report hfinished h => ?_, fun finished h => ?_, ?_⟩
  · obtain ⟨results, rfl, hresults, hnames⟩ :=
      exists_results_of_reportAfter hbuiltin hfinished h
    exact ⟨accounts_reportOf _ hresults (hnames ▸ request.checks_names_nodup), hnames⟩
  · exact ⟨(finishedBefore_sublist h).subperm, EvaluationRequest.evaluate_eq_reportAfter h⟩
  · exact fun hnames hpatterns hvalid finished hfinished =>
      exists_reportAfter hbuiltin hnames hpatterns hvalid hfinished

/-- The checks of indexes are still unfinished when one of the others has a finding. -/
theorem builtin_report_accounts_partial : ∃ report,
    EvaluationRequest.reportAfter {} keylessTable (builtinChecks.drop 4) = .ok report ∧
      report.Accounts ∧
      report.unfinished =
        ["invalid_indexes", "duplicated_indexes", "unused_indexes", "bloated_indexes"] ∧
      report.findings.map Finding.checkName =
        ["tables_without_primary_key", "bloated_indexes", "duplicated_indexes",
          "invalid_indexes", "unused_indexes"] := by
  have hruns : (EvaluationRequest.reportAfter {} keylessTable
      (builtinChecks.drop 4)).toOption.any (fun report =>
        report.unfinished =
          ["invalid_indexes", "duplicated_indexes", "unused_indexes", "bloated_indexes"] ∧
        report.findings.map Finding.checkName =
          ["tables_without_primary_key", "bloated_indexes", "duplicated_indexes",
            "invalid_indexes", "unused_indexes"]) = true := by
    decide +kernel
  obtain ⟨report, hreport, hfacts⟩ := Traversal.exists_ok_of_toOption hruns
  obtain ⟨haccounts, -⟩ := builtin_report_accounts keylessTable {} fun check hcheck => hcheck
  have hfinished : (builtinChecks.drop 4).Subperm (EvaluationRequest.checks {}) :=
    (List.drop_sublist 4 builtinChecks).subperm
  exact ⟨report, hreport, (haccounts _ report hfinished hreport).1, of_decide_eq_true hfacts⟩

end CatalogHealth
