import CatalogHealth.Proofs.Silencing

/-!
# Checks are independent of each other

What a check contributes to a report it contributes under its own name, and the names of checks are
distinct. A report therefore puts together what its checks report alone: neither the order in which
checks are registered nor the places they ask for matter, and a check that is switched off, left
out by its category or at fault takes nothing from the others. Deadlines are outside the scope of
this module, and so are checks that report under the names of others.
-/

namespace CatalogHealth

/-! ## Findings about different things -/

namespace Finding

variable {findings others : List Finding}

/-- Keys about which nothing is found do not matter to what is found first. -/
theorem firstsFrom_congr {seen seen' : List (String × List Text)}
    (h : ∀ f ∈ findings, (f.key ∈ seen ↔ f.key ∈ seen')) :
    firstsFrom seen findings = firstsFrom seen' findings := by
  induction findings generalizing seen seen' with
  | nil => rfl
  | cons f rest ih =>
    obtain ⟨hf, hrest⟩ := List.forall_mem_cons.1 h
    unfold firstsFrom
    by_cases hmem : f.key ∈ seen
    · rw [if_pos hmem, if_pos (hf.1 hmem), ih hrest]
    · rw [if_neg hmem, if_neg fun hmem' => hmem (hf.2 hmem')]
      refine congrArg (f :: ·) (ih fun g hg => ?_)
      simp only [List.mem_cons, hrest g hg]

/-- Findings about other things may be chosen from on their own. -/
theorem firstsFrom_append {seen : List (String × List Text)}
    (h : ∀ f ∈ findings, ∀ g ∈ others, f.key ≠ g.key) :
    firstsFrom seen (findings ++ others) = firstsFrom seen findings ++ firstsFrom seen others := by
  induction findings generalizing seen with
  | nil => rfl
  | cons f rest ih =>
    obtain ⟨hf, hrest⟩ := List.forall_mem_cons.1 h
    rw [List.cons_append, firstsFrom, firstsFrom]
    by_cases hmem : f.key ∈ seen
    · rw [if_pos hmem, if_pos hmem, ih hrest]
    · have hothers : firstsFrom (f.key :: seen) others = firstsFrom seen others :=
        firstsFrom_congr fun g hg => by simp [(hf g hg).symm]
      rw [if_neg hmem, if_neg hmem, ih hrest, hothers, List.cons_append]

/-- From sources about different things the first findings may be chosen source by source. -/
theorem firsts_flatMap {α : Type} {source : α → List Finding} {xs : List α}
    (h : xs.Pairwise fun x y => ∀ f ∈ source x, ∀ g ∈ source y, f.key ≠ g.key) :
    firsts (xs.flatMap source) = xs.flatMap fun x => firsts (source x) := by
  induction xs with
  | nil => rfl
  | cons x rest ih =>
    obtain ⟨hx, hrest⟩ := List.pairwise_cons.1 h
    have hcross : ∀ f ∈ source x, ∀ g ∈ rest.flatMap source, f.key ≠ g.key := by
      intro f hf g hg
      obtain ⟨y, hy, hg⟩ := List.mem_flatMap.1 hg
      exact hx y hy f hf g hg
    rw [List.flatMap_cons, List.flatMap_cons, ← ih hrest]
    exact firstsFrom_append hcross

/-- Merged findings are put together again from two parts of them. -/
theorem merge_eq_sort_filter (p : Finding → Bool) (findings : List Finding) :
    merge findings =
      sort ((merge findings).filter p ++ (merge findings).filter fun f => !p f) := by
  have hparts := List.filter_append_perm p (merge findings)
  rw [← sort_eq_of_perm hparts.symm (nodup_keys_merge findings), sort_merge]

/-- What sources about different things contribute may be merged source by source. -/
theorem merge_flatMap {α : Type} {source : α → List Finding} {xs : List α}
    (h : xs.Pairwise fun x y => ∀ f ∈ source x, ∀ g ∈ source y, f.key ≠ g.key) :
    merge (xs.flatMap source) = sort (xs.flatMap fun x => merge (source x)) := by
  have hfirsts : (firsts (xs.flatMap source)).Perm (xs.flatMap fun x => merge (source x)) := by
    rw [firsts_flatMap h]
    exact List.Perm.flatMap_left xs fun x _ => (sortBy_perm (firsts (source x))).symm
  exact sort_eq_of_perm hfirsts (nodup_keys_firstsFrom [] _)

/-- The order of sources about different things does not matter. -/
theorem merge_flatMap_of_perm {α : Type} {source : α → List Finding} {xs ys : List α}
    (h : xs.Pairwise fun x y => ∀ f ∈ source x, ∀ g ∈ source y, f.key ≠ g.key)
    (hperm : xs.Perm ys) : merge (xs.flatMap source) = merge (ys.flatMap source) := by
  have h' : ys.Pairwise fun x y => ∀ f ∈ source x, ∀ g ∈ source y, f.key ≠ g.key :=
    (hperm.pairwise_iff fun hxy f hf g hg => (hxy g hg f hf).symm).1 h
  have hfirsts : (firsts (xs.flatMap source)).Perm (firsts (ys.flatMap source)) := by
    rw [firsts_flatMap h, firsts_flatMap h']
    exact hperm.flatMap_right _
  exact sort_eq_of_perm hfirsts (nodup_keys_firstsFrom [] _)

end Finding

/-! ## Results that speak for themselves -/

variable {results others : List CheckResult}

/-- Leaving results out by the names of their checks leaves their findings out. -/
theorem filter_findings_reportOf (database : Value)
    (hown : ∀ result ∈ results, result.SpeaksForItself) (keep : String → Bool) :
    (reportOf database results).findings.filter (fun f => keep f.checkName) =
      (reportOf database (results.filter fun result => keep result.checkName)).findings := by
  have hcontributed : (results.flatMap contribution).filter (fun f => keep f.checkName) =
      (results.filter fun result => keep result.checkName).flatMap contribution := by
    induction results with
    | nil => rfl
    | cons result rest ih =>
      obtain ⟨hresult, hrest⟩ := List.forall_mem_cons.1 hown
      have hname : ∀ f ∈ contribution result, keep f.checkName = keep result.checkName :=
        fun f hf => congrArg keep (hresult.checkName_of_mem_contribution hf)
      rw [List.flatMap_cons, List.filter_append, ih hrest, List.filter_congr hname,
        List.filter_cons]
      cases keep result.checkName with
      | true => simp
      | false => simp
  have hkey : ∀ f g : Finding, f.key = g.key → keep f.checkName = keep g.checkName :=
    fun f g h => congrArg keep (Prod.mk.inj h).1
  change (Finding.merge (results.flatMap contribution)).filter _ = Finding.merge _
  rw [Finding.filter_merge hkey, hcontributed]

/-- A report about results of different checks puts together the reports about each of them. -/
theorem findings_reportOf (database : Value)
    (hown : ∀ result ∈ results, result.SpeaksForItself)
    (hnodup : (results.map CheckResult.checkName).Nodup) :
    (reportOf database results).findings =
      Finding.sort (results.flatMap fun result => (reportOf database [result]).findings) := by
  have hsingle : ∀ result, (reportOf database [result]).findings =
      Finding.merge (contribution result) := fun result => by
    change Finding.merge (contribution result ++ []) = _
    rw [List.append_nil]
  simp only [hsingle]
  exact Finding.merge_flatMap (contributions_disjoint hown hnodup)

/-- The order of the results of different checks does not matter to the findings of a report. -/
theorem findings_reportOf_of_perm (database : Value)
    (hown : ∀ result ∈ results, result.SpeaksForItself)
    (hnodup : (results.map CheckResult.checkName).Nodup) (hperm : results.Perm others) :
    (reportOf database results).findings = (reportOf database others).findings :=
  Finding.merge_flatMap_of_perm (contributions_disjoint hown hnodup) hperm

/-! ## Requests without a deadline -/

/-- The registry that holds one check alone. -/
def Registry.only (check : Check) : Registry where
  checks := [check]
  names_nodup := List.nodup_singleton _
  disabled_registered := by simp

/-- A check that asks for no place. -/
def Check.anywhere (check : Check) : Check := { check with priority := none }

/-- Places have no part in what a check reports. -/
theorem Check.NamesItself.of_anywhere_eq {s : Snapshot} {t : Thresholds} {check other : Check}
    (h : check.NamesItself s t) (heq : check.anywhere = other.anywhere) :
    other.NamesItself s t := by
  have hanywhere : check.anywhere.NamesItself s t := h
  rw [heq] at hanywhere
  exact hanywhere

theorem exists_anywhere_eq {checks others : List Check} {check : Check}
    (hperm : (checks.map Check.anywhere).Perm (others.map Check.anywhere))
    (hcheck : check ∈ others) : ∃ source ∈ checks, source.anywhere = check.anywhere :=
  List.mem_map.1 (hperm.mem_iff.2 (List.mem_map_of_mem hcheck))

/-- Two registries hold the same checks, registered in any order and asking for any places, and
the same ones are switched off. -/
structure Registry.SameChecks (registry other : Registry) : Prop where
  /-- The checks are the same. -/
  checks : (registry.checks.map Check.anywhere).Perm (other.checks.map Check.anywhere)
  /-- The same names are switched off. -/
  disabled : ∀ name, name ∈ registry.disabled ↔ name ∈ other.disabled

namespace EvaluationRequest

/-- The request to run one check alone. -/
def alone (request : EvaluationRequest) (check : Check) : EvaluationRequest :=
  { request with registry := .only check }

/-- The evaluation goes on until all checks have run, on some number of workers. -/
def HasNoDeadline (request : EvaluationRequest) : Prop :=
  request.timeout = .null ∧ ∃ count : Int, request.workers = .int count

/-- The result of a check under the rules of a request, where these have an answer. -/
def resultOf (request : EvaluationRequest) (s : Snapshot) (check : Check) : CheckResult :=
  (ownResult s request.thresholds check).silenced request.rules s

variable {s : Snapshot} {request : EvaluationRequest} {check : Check} {report : Report}

/-- Without a deadline an evaluation reports after all checks. -/
theorem HasNoDeadline.evaluate_eq_reportAfter (hdeadline : request.HasNoDeadline) :
    evaluate s request = request.reportAfter s request.checks := by
  obtain ⟨htimeout, count, hworkers⟩ := hdeadline
  refine EvaluationRequest.evaluate_eq_reportAfter ?_
  rw [htimeout, hworkers]
  rfl

/-- A check that reports under its own name has a result that does. -/
theorem speaksForItself_resultOf (hown : check.NamesItself s request.thresholds) :
    (request.resultOf s check).SpeaksForItself := by
  intro f hf
  have hfound : f ∈ (outcome s request.thresholds check).1 := (List.mem_filter.1 hf).1
  unfold outcome at hfound
  cases hrun : check.run s request.thresholds with
  | ok found =>
    rw [hrun] at hfound
    exact hown found hrun f hfound
  | error fault =>
    rw [hrun] at hfound
    cases hfound

theorem speaksForItself_of_mem
    (hown : ∀ check ∈ request.checks, check.NamesItself s request.thresholds) :
    ∀ result ∈ request.checks.map (request.resultOf s), result.SpeaksForItself := by
  intro result hresult
  obtain ⟨check, hcheck, rfl⟩ := List.mem_map.1 hresult
  exact speaksForItself_resultOf (hown check hcheck)

/-- The results of a request are those of different checks. -/
theorem resultsOf_checkNames_nodup (request : EvaluationRequest) (s : Snapshot) :
    ((request.checks.map (request.resultOf s)).map CheckResult.checkName).Nodup := by
  rw [List.map_map]
  exact request.checks_names_nodup

/-- Without a deadline every check is recorded. -/
theorem evaluate_eq (hdeadline : request.HasNoDeadline)
    (hown : ∀ check ∈ request.checks, check.NamesItself s request.thresholds) :
    evaluate s request = (do
      request.thresholds.validate
      let results ← request.checks.mapM (finishedResult s request.rules request.thresholds)
      return reportOf s.database results) := by
  rw [hdeadline.evaluate_eq_reportAfter, reportAfter, evaluateInOrder]
  refine congrArg (request.thresholds.validate >>= ·) (funext fun _ => ?_)
  cases hresults : request.checks.mapM (finishedResult s request.rules request.thresholds) with
  | error fault => rfl
  | ok results =>
    obtain ⟨-, rfl⟩ := (mapM_finishedResult_eq_ok hown).1 hresults
    rw [List.map_map]
    exact congrArg (fun results => Except.ok (reportOf s.database results))
      (recorded_eq (fun _ => rfl) request.checks_names_nodup)

/-- Without a deadline an evaluation reports if the thresholds are accepted and the rules have an
answer about all that the checks found. -/
theorem evaluate_eq_ok_iff (hdeadline : request.HasNoDeadline)
    (hown : ∀ check ∈ request.checks, check.NamesItself s request.thresholds) :
    evaluate s request = .ok report ↔ request.thresholds.validate = .ok () ∧
      (∀ check ∈ request.checks, ∀ f ∈ (outcome s request.thresholds check).1,
        ∃ b, request.rules.silences s f.checkName f = .ok b) ∧
      report = reportOf s.database (request.checks.map (request.resultOf s)) := by
  simp only [evaluate_eq hdeadline hown, Traversal.bind_eq_ok, Traversal.pure_eq_ok,
    mapM_finishedResult_eq_ok hown, List.map_map]
  constructor
  · rintro ⟨⟨⟩, hvalid, results, ⟨hanswers, rfl⟩, rfl⟩
    exact ⟨hvalid, hanswers, rfl⟩
  · rintro ⟨hvalid, hanswers, rfl⟩
    exact ⟨(), hvalid, _, ⟨hanswers, rfl⟩, rfl⟩

/-! ## Other choices of checks -/

/-- Requests that run the same checks in any order and with any places have the same results in
another order. -/
theorem resultsOf_perm {other : EvaluationRequest}
    (hthresholds : other.thresholds = request.thresholds) (hrules : other.rules = request.rules)
    {checks : List Check}
    (hperm : (checks.map Check.anywhere).Perm (other.checks.map Check.anywhere)) :
    (checks.map (request.resultOf s)).Perm (other.checks.map (other.resultOf s)) := by
  have hsame : other.resultOf s = request.resultOf s := by
    funext check
    rw [resultOf, resultOf, hthresholds, hrules]
  have hanywhere : ∀ checks : List Check, checks.map (request.resultOf s) =
      (checks.map Check.anywhere).map (request.resultOf s) := fun checks => by
    rw [List.map_map]
    rfl
  rw [hsame, hanywhere checks, hanywhere other.checks]
  exact hperm.map _

/-- A request for some of the checks, chosen by their names, reports their findings and leaves the
others out. -/
theorem evaluate_kept {other : EvaluationRequest} (hdeadline : request.HasNoDeadline)
    (hown : ∀ check ∈ request.checks, check.NamesItself s request.thresholds)
    (hother : other.HasNoDeadline) (hthresholds : other.thresholds = request.thresholds)
    (hrules : other.rules = request.rules) (keep : String → Bool)
    (hperm : ((request.checks.filter fun check => keep check.name).map Check.anywhere).Perm
      (other.checks.map Check.anywhere))
    (h : evaluate s request = .ok report) :
    ∃ kept, evaluate s other = .ok kept ∧
      kept.findings = report.findings.filter fun f => keep f.checkName := by
  obtain ⟨hvalid, hanswers, rfl⟩ := (evaluate_eq_ok_iff hdeadline hown).1 h
  -- Places have no part in what a check finds, so the checks of both requests may be compared
  -- without them.
  have hsource : ∀ check ∈ other.checks, ∃ source ∈ request.checks,
      source.anywhere = check.anywhere := by
    intro check hcheck
    obtain ⟨source, hsource, heq⟩ := exists_anywhere_eq hperm hcheck
    exact ⟨source, (List.mem_filter.1 hsource).1, heq⟩
  have hother' : ∀ check ∈ other.checks, check.NamesItself s other.thresholds := by
    intro check hcheck
    obtain ⟨source, hsource, heq⟩ := hsource check hcheck
    exact hthresholds ▸ (hown source hsource).of_anywhere_eq heq
  have hresults := resultsOf_perm (s := s) hthresholds hrules hperm
  refine ⟨_, (evaluate_eq_ok_iff hother hother').2 ⟨hthresholds ▸ hvalid, ?_, rfl⟩, ?_⟩
  · intro check hcheck
    obtain ⟨source, hsource, heq⟩ := hsource check hcheck
    have hfound : outcome s other.thresholds check = outcome s request.thresholds source := by
      change outcome s other.thresholds check.anywhere =
        outcome s request.thresholds source.anywhere
      rw [heq, hthresholds]
    rw [hfound, hrules]
    exact hanswers source hsource
  · have hspeaks := speaksForItself_of_mem hown
    have hkept : (request.checks.map (request.resultOf s)).filter
        (fun result => keep result.checkName) =
          (request.checks.filter fun check => keep check.name).map (request.resultOf s) := by
      rw [List.filter_map]
      rfl
    have hnodup := (request.resultsOf_checkNames_nodup s).sublist
      (List.filter_sublist (p := fun result => keep result.checkName) |>.map _)
    rw [filter_findings_reportOf s.database hspeaks]
    refine (findings_reportOf_of_perm s.database ?_ hnodup (hkept ▸ hresults)).symm
    exact fun result hresult => hspeaks result (List.mem_filter.1 hresult).1

/-- The check that is evaluated alone is the only one that runs. -/
theorem checks_alone (hcheck : check ∈ request.checks) :
    (request.alone check).checks = [check] := by
  have hperm := request.registry.enabledChecks_perm request.categories
  have hcategory := (List.mem_filter.1 (hperm.mem_iff.1 hcheck)).2
  have halone := (Registry.only check).enabledChecks_perm request.categories
  have henabled : (!(Registry.only check).disabled.contains check.name &&
      (request.categories.isEmpty || request.categories.contains check.category)) = true := by
    simp only [Bool.and_eq_true] at hcategory ⊢
    exact ⟨rfl, hcategory.2⟩
  have honly : (Registry.only check).checks = [check] := rfl
  rw [honly, List.filter_cons, if_pos henabled, List.filter_nil] at halone
  exact List.perm_singleton.1 halone

/-- Of the checks that run one has the name of a given one of them. -/
theorem filter_checks_name (hcheck : check ∈ request.checks) :
    (request.checks.filter fun other => other.name = check.name) = [check] := by
  have hnodup := request.checks_names_nodup
  have hdistinct : request.checks.Nodup := List.Nodup.of_map _ hnodup
  refine List.perm_singleton.1 ((List.perm_ext_iff_of_nodup (hdistinct.filter _)
    (List.nodup_singleton check)).2 fun other => ?_)
  rw [List.mem_filter, List.mem_singleton, decide_eq_true_eq]
  constructor
  · rintro ⟨hother, hname⟩
    exact List.inj_on_of_nodup_map hnodup hother hcheck hname
  · rintro rfl
    exact ⟨hcheck, rfl⟩

theorem namesItself_alone
    (hown : ∀ check ∈ request.checks, check.NamesItself s request.thresholds)
    (hcheck : check ∈ request.checks) :
    ∀ other ∈ (request.alone check).checks, other.NamesItself s request.thresholds := by
  intro other hother
  rw [checks_alone hcheck, List.mem_singleton] at hother
  exact hother ▸ hown check hcheck

/-- A check alone has the findings that a report holds under its name. -/
theorem evaluate_alone (hdeadline : request.HasNoDeadline)
    (hown : ∀ check ∈ request.checks, check.NamesItself s request.thresholds)
    (hcheck : check ∈ request.checks) (h : evaluate s request = .ok report) :
    ∃ own, evaluate s (request.alone check) = .ok own ∧
      own.findings = report.findings.filter fun f => f.checkName = check.name := by
  have halone : (request.alone check).HasNoDeadline := hdeadline
  refine evaluate_kept hdeadline hown halone rfl rfl (fun name => name = check.name) ?_ h
  rw [filter_checks_name hcheck, checks_alone hcheck]

/-- The findings of a report are those of its checks, each evaluated alone, put in order. -/
theorem findings_evaluate (hdeadline : request.HasNoDeadline)
    (hown : ∀ check ∈ request.checks, check.NamesItself s request.thresholds) :
    (evaluate s request).map Report.findings = (do
      request.thresholds.validate
      let reports ← request.checks.mapM fun check => evaluate s (request.alone check)
      return Finding.sort (reports.flatMap Report.findings)) := by
  rw [evaluate_eq hdeadline hown]
  cases hvalid : request.thresholds.validate with
  | error fault => rfl
  | ok accepted =>
    have halone : ∀ check ∈ request.checks, evaluate s (request.alone check) =
        (finishedResult s request.rules request.thresholds check).map
          fun result => reportOf s.database [result] := by
      intro check hcheck
      have halone : (request.alone check).HasNoDeadline := hdeadline
      have hvalid' : (request.alone check).thresholds.validate = .ok accepted := hvalid
      rw [evaluate_eq halone (namesItself_alone hown hcheck), checks_alone hcheck, hvalid',
        List.mapM_cons, List.mapM_nil]
      change (finishedResult s request.rules request.thresholds check >>= fun result => _) >>=
        _ = _
      cases finishedResult s request.rules request.thresholds check with
      | error fault => rfl
      | ok result => rfl
    rw [Traversal.mapM_congr halone, Traversal.mapM_map_results]
    cases hresults : request.checks.mapM (finishedResult s request.rules request.thresholds) with
    | error fault => rfl
    | ok results =>
      obtain ⟨-, rfl⟩ := (mapM_finishedResult_eq_ok hown).1 hresults
      rw [List.map_map]
      have hfindings := findings_reportOf s.database (speaksForItself_of_mem hown)
        (request.resultsOf_checkNames_nodup s)
      rw [← List.flatMap_map] at hfindings
      exact congrArg Except.ok hfindings

/-- Without a deadline an evaluation is at fault because a threshold is refused, or else because
a finding cannot be matched. -/
theorem fault_of_evaluate {fault : Fault} (hdeadline : request.HasNoDeadline)
    (h : evaluate s request = .error fault) : request.thresholds.validate = .error fault ∨
      request.thresholds.validate = .ok () ∧ fault = .wrongKind := by
  rw [hdeadline.evaluate_eq_reportAfter, reportAfter] at h
  cases hvalid : request.thresholds.validate with
  | error other =>
    rw [hvalid] at h
    cases h
    exact .inl rfl
  | ok accepted =>
    rw [hvalid] at h
    exact .inr ⟨rfl, fault_of_evaluateInOrder h⟩

/-- A registry with the same checks runs the same checks. -/
theorem checks_perm_of_sameChecks {registry : Registry}
    (hsame : request.registry.SameChecks registry) :
    (request.checks.map Check.anywhere).Perm
      ((checks { request with registry }).map Check.anywhere) := by
  have hruns : ∀ registry : Registry,
      ((registry.enabledChecks request.categories).map Check.anywhere).Perm
        ((registry.checks.map Check.anywhere).filter fun check =>
          !registry.disabled.contains check.name &&
            (request.categories.isEmpty || request.categories.contains check.category)) := by
    intro registry
    rw [List.filter_map]
    exact (registry.enabledChecks_perm request.categories).map Check.anywhere
  have hdisabled : ∀ name, registry.disabled.contains name =
      request.registry.disabled.contains name := fun name => by
    rw [Bool.eq_iff_iff, List.contains_iff_mem, List.contains_iff_mem, hsame.disabled]
  refine (hruns request.registry).trans ((hsame.checks.filter _).trans ?_)
  refine (List.Perm.of_eq ?_).trans (hruns registry).symm
  simp only [hdisabled]

/-- The order of registration and the places that checks ask for change no finding. -/
theorem findings_evaluate_sameChecks {registry : Registry} (hdeadline : request.HasNoDeadline)
    (hown : ∀ check ∈ request.checks, check.NamesItself s request.thresholds)
    (hsame : request.registry.SameChecks registry) :
    (evaluate s { request with registry }).map Report.findings =
      (evaluate s request).map Report.findings := by
  have hperm := checks_perm_of_sameChecks hsame
  have hdeadline' : HasNoDeadline { request with registry } := hdeadline
  have hown' : ∀ check ∈ checks { request with registry },
      check.NamesItself s request.thresholds := by
    intro check hcheck
    obtain ⟨source, hsource, heq⟩ := exists_anywhere_eq hperm hcheck
    exact (hown source hsource).of_anywhere_eq heq
  have hall : ∀ checks : List Check, checks.filter (fun _ => true) = checks := fun checks => by simp
  have hkept : ∀ findings : List Finding, findings.filter (fun _ => true) = findings :=
    fun findings => by simp
  cases hrequest : evaluate s request with
  | ok report =>
    obtain ⟨kept, hother, hfindings⟩ := evaluate_kept hdeadline hown hdeadline' rfl rfl
      (fun _ => true) (by rw [hall]; exact hperm) hrequest
    rw [hother, Except.map, Except.map, hfindings, hkept]
  | error fault =>
    cases hother : evaluate s { request with registry } with
    | ok report =>
      obtain ⟨kept, hkept, -⟩ := evaluate_kept hdeadline' hown' hdeadline rfl rfl
        (fun _ => true) (by rw [hall]; exact hperm.symm) hother
      cases hrequest.symm.trans hkept
    | error other =>
      rcases fault_of_evaluate hdeadline hrequest with hvalid | ⟨hvalid, rfl⟩
      · rcases fault_of_evaluate hdeadline' hother with hvalid' | ⟨hvalid', -⟩
        · cases hvalid.symm.trans hvalid'
          rfl
        · cases hvalid.symm.trans hvalid'
      · rcases fault_of_evaluate hdeadline' hother with hvalid' | ⟨-, rfl⟩
        · cases hvalid.symm.trans hvalid'
        · rfl

/-- A check that is switched off does not run, and no other one is affected. -/
theorem checks_disable_perm (request : EvaluationRequest) (name : String) :
    (request.checks.filter fun check => check.name ≠ name).Perm
      (checks { request with registry := request.registry.disable name }) := by
  have hregistered : ∀ check ∈ request.registry.checks,
      (!(request.registry.disable name).disabled.contains check.name) =
        (!request.registry.disabled.contains check.name && decide (check.name ≠ name)) := by
    intro check hcheck
    unfold Registry.disable
    split
    · by_cases hname : check.name = name
      · simp [hname]
      · simp [hname]
    · rename_i hoff
      by_cases hname : check.name = name
      · have hmem : name ∈ request.registry.names := hname ▸ List.mem_map_of_mem hcheck
        have hdisabled : name ∈ request.registry.disabled := by
          by_contra hnot
          exact hoff ⟨hmem, hnot⟩
        simp [hname, hdisabled]
      · simp [hname]
  have hchecks : (request.registry.disable name).checks = request.registry.checks := by
    unfold Registry.disable
    split
    · rfl
    · rfl
  have hperm := (request.registry.enabledChecks_perm request.categories).filter
    fun check => decide (check.name ≠ name)
  have hperm' := (request.registry.disable name).enabledChecks_perm request.categories
  refine hperm.trans ((List.Perm.of_eq ?_).trans hperm'.symm)
  rw [hchecks, List.filter_filter]
  refine List.filter_congr fun check hcheck => ?_
  rw [hregistered check hcheck]
  cases decide (check.name ≠ name) with
  | true => simp
  | false => simp

/-- A narrower choice of categories runs the checks of these categories. -/
theorem checks_narrowed_perm {categories : List Text} (hne : categories ≠ [])
    (hsubset : request.categories = [] ∨ categories ⊆ request.categories) :
    (request.checks.filter fun check => categories.contains check.category).Perm
      (checks { request with categories }) := by
  have hperm := (request.registry.enabledChecks_perm request.categories).filter
    fun check => categories.contains (check.category : Text)
  refine hperm.trans ((List.Perm.of_eq ?_).trans
    (request.registry.enabledChecks_perm categories).symm)
  rw [List.filter_filter]
  refine List.filter_congr fun check _ => ?_
  have hempty : categories.isEmpty = false := List.isEmpty_eq_false_iff.2 hne
  cases hcategory : categories.contains (check.category : Text) with
  | false => simp [hempty]
  | true =>
    rcases hsubset with hnone | hsubset
    · simp [hnone]
    · have hmem := hsubset (List.contains_iff_mem.1 hcategory)
      simp [hmem]

/-- A check at fault has a single finding in a report, which is about its fault. -/
theorem findings_of_fault {fault : Fault} (hdeadline : request.HasNoDeadline)
    (hown : ∀ check ∈ request.checks, check.NamesItself s request.thresholds)
    (hcheck : check ∈ request.checks) (hrun : check.run s request.thresholds = .error fault)
    (h : evaluate s request = .ok report) :
    (report.findings.filter fun f => f.checkName = check.name) =
      [failureFinding check.toCheckLabel fault.line] := by
  obtain ⟨own, halone, hfindings⟩ := evaluate_alone hdeadline hown hcheck h
  have hdeadline' : (request.alone check).HasNoDeadline := hdeadline
  obtain ⟨-, -, hreport⟩ :=
    (evaluate_eq_ok_iff hdeadline' (namesItself_alone hown hcheck)).1 halone
  have hcontributed : contribution (request.resultOf s check) =
      [failureFinding check.toCheckLabel fault.line] := by
    have hshown : request.rules.hides s (failureFinding check.toCheckLabel fault.line) = false :=
      hides_of_engine rfl
    rw [resultOf, contribution_silenced, contribution_of_fault hrun, List.filter_cons]
    simp [hshown]
  rw [← hfindings, hreport, checks_alone hcheck]
  change Finding.merge (contribution (request.resultOf s check) ++ []) = _
  rw [hcontributed]
  rfl

/-- Without a check that is switched off there are the findings of the others. -/
theorem evaluate_disabled (hdeadline : request.HasNoDeadline)
    (hown : ∀ check ∈ request.checks, check.NamesItself s request.thresholds)
    (h : evaluate s request = .ok report) (name : String) :
    ∃ others, evaluate s { request with registry := request.registry.disable name } = .ok others ∧
      others.findings = report.findings.filter fun f => f.checkName ≠ name := by
  have hdeadline' : HasNoDeadline { request with registry := request.registry.disable name } :=
    hdeadline
  exact evaluate_kept hdeadline hown hdeadline' rfl rfl (fun other => other ≠ name)
    ((request.checks_disable_perm name).map Check.anywhere) h

/-- Under fewer categories there are the findings of the checks of these categories. -/
theorem evaluate_narrowed (hdeadline : request.HasNoDeadline)
    (hown : ∀ check ∈ request.checks, check.NamesItself s request.thresholds)
    (h : evaluate s request = .ok report) {categories : List Text} (hne : categories ≠ [])
    (hsubset : request.categories = [] ∨ categories ⊆ request.categories) :
    ∃ narrow, evaluate s { request with categories } = .ok narrow ∧
      narrow.findings = report.findings.filter fun f => request.checks.any fun check =>
        check.name = f.checkName && categories.contains check.category := by
  have hdeadline' : HasNoDeadline { request with categories } := hdeadline
  refine evaluate_kept hdeadline hown hdeadline' rfl rfl (fun name => request.checks.any
    fun check => check.name = name && categories.contains check.category) ?_ h
  -- Among the checks of a request the name of a check tells its category.
  have hsame : ∀ check ∈ request.checks, (request.checks.any fun other =>
      other.name = check.name && categories.contains other.category) =
        categories.contains (check.category : Text) := by
    intro check hcheck
    rw [Bool.eq_iff_iff, List.any_eq_true]
    constructor
    · rintro ⟨other, hother, hkeep⟩
      rw [Bool.and_eq_true, decide_eq_true_eq] at hkeep
      obtain rfl := List.inj_on_of_nodup_map request.checks_names_nodup hother hcheck hkeep.1
      exact hkeep.2
    · intro hcategory
      exact ⟨check, hcheck, by rw [hcategory, decide_eq_true rfl, Bool.and_self]⟩
  rw [List.filter_congr hsame]
  exact (checks_narrowed_perm hne hsubset).map Check.anywhere

/-- A check at fault adds its finding to those that there are without it. -/
theorem evaluate_faulty {fault : Fault} (hdeadline : request.HasNoDeadline)
    (hown : ∀ check ∈ request.checks, check.NamesItself s request.thresholds)
    (hcheck : check ∈ request.checks) (hrun : check.run s request.thresholds = .error fault)
    (h : evaluate s request = .ok report) :
    ∃ others, evaluate s { request with registry := request.registry.disable check.name } =
        .ok others ∧
      report.findings = Finding.sort
        (failureFinding check.toCheckLabel fault.line :: others.findings) := by
  obtain ⟨others, hothers, hfindings⟩ := evaluate_disabled hdeadline hown h check.name
  have hfault := findings_of_fault hdeadline hown hcheck hrun h
  refine ⟨others, hothers, ?_⟩
  obtain ⟨-, -, hreport⟩ := (evaluate_eq_ok_iff hdeadline hown).1 h
  have hmerged : report.findings = Finding.merge
      ((request.checks.map (request.resultOf s)).flatMap contribution) := by
    rw [hreport]
    rfl
  rw [hfindings, ← List.singleton_append, ← hfault, hmerged]
  simpa using Finding.merge_eq_sort_filter (fun f => f.checkName = check.name) _

/-- The checks of a request are independent of each other in its report about a snapshot. -/
structure ChecksIndependent (s : Snapshot) (request : EvaluationRequest) : Prop where
  /-- The findings of the report are those of the checks, each evaluated alone, put in order. The
  first fault of these evaluations is the fault of the whole one. -/
  findings_eq : (evaluate s request).map Report.findings = (do
    request.thresholds.validate
    let reports ← request.checks.mapM fun check => evaluate s (request.alone check)
    return Finding.sort (reports.flatMap Report.findings))
  /-- The findings that the report holds under the name of a check are those which the check has
  alone. -/
  findings_alone : ∀ report, evaluate s request = .ok report → ∀ check ∈ request.checks,
    (evaluate s (request.alone check)).map Report.findings =
      .ok (report.findings.filter fun f => f.checkName = check.name)
  /-- The order of registration and the places that checks ask for change nothing. -/
  findings_reordered : ∀ registry, request.registry.SameChecks registry →
    (evaluate s { request with registry }).map Report.findings =
      (evaluate s request).map Report.findings
  /-- To switch a check off removes its findings and no others. -/
  findings_disabled : ∀ report, evaluate s request = .ok report → ∀ name,
    (evaluate s { request with registry := request.registry.disable name }).map Report.findings =
      .ok (report.findings.filter fun f => f.checkName ≠ name)
  /-- To choose fewer categories removes the findings of the checks of all other categories and no
  others. -/
  findings_narrowed : ∀ report, evaluate s request = .ok report → ∀ categories, categories ≠ [] →
    (request.categories = [] ∨ categories ⊆ request.categories) →
      (evaluate s { request with categories }).map Report.findings =
        .ok (report.findings.filter fun f => request.checks.any fun check =>
          check.name = f.checkName && categories.contains check.category)
  /-- A check at fault adds one finding, about the evaluation, to those that the other checks have
  without it. -/
  findings_faulty : ∀ report, evaluate s request = .ok report → ∀ check ∈ request.checks,
    ∀ fault, check.run s request.thresholds = .error fault →
      (evaluate s { request with registry := request.registry.disable check.name }).map
          (fun others => Finding.sort
            (failureFinding check.toCheckLabel fault.line :: others.findings)) =
        .ok report.findings

end EvaluationRequest

/-- The checks of an evaluation are independent of each other in its report if they report under
their own names and no deadline ends the evaluation. -/
theorem checks_independent (s : Snapshot) (request : EvaluationRequest)
    (hdeadline : request.HasNoDeadline)
    (hown : ∀ check ∈ request.registry.checks, check.NamesItself s request.thresholds) :
    request.ChecksIndependent s := by
  have hchecks : ∀ check ∈ request.checks, check.NamesItself s request.thresholds :=
    fun check hcheck => hown check (EvaluationRequest.mem_registry_of_mem_checks hcheck)
  refine ⟨EvaluationRequest.findings_evaluate hdeadline hchecks, ?_,
    fun _ hsame => EvaluationRequest.findings_evaluate_sameChecks hdeadline hchecks hsame,
    ?_, ?_, ?_⟩
  · intro report h check hcheck
    obtain ⟨own, halone, hfindings⟩ := EvaluationRequest.evaluate_alone hdeadline hchecks hcheck h
    rw [halone, Except.map, hfindings]
  · intro report h name
    obtain ⟨others, hothers, hfindings⟩ :=
      EvaluationRequest.evaluate_disabled hdeadline hchecks h name
    rw [hothers, Except.map, hfindings]
  · intro report h categories hne hsubset
    obtain ⟨narrow, hnarrow, hfindings⟩ :=
      EvaluationRequest.evaluate_narrowed hdeadline hchecks h hne hsubset
    rw [hnarrow, Except.map, hfindings]
  · intro report h check hcheck fault hrun
    obtain ⟨others, hothers, hfindings⟩ :=
      EvaluationRequest.evaluate_faulty hdeadline hchecks hcheck hrun h
    rw [hothers, Except.map, ← hfindings]

/-- A check at fault leaves the finding about a table without a primary key as it is alone. -/
theorem checks_independent_faulty : faultyRequest.HasNoDeadline ∧
    (∀ check ∈ faultyRequest.registry.checks,
      check.NamesItself keylessTable faultyRequest.thresholds) ∧
    faultyRequest.ChecksIndependent keylessTable ∧
    (evaluate keylessTable faultyRequest).toOption.any (fun report =>
      report.findings.map Finding.checkName = ["tables_without_primary_key", "faulty"]) = true ∧
    (evaluate keylessTable { faultyRequest with
      registry := faultyRequest.registry.disable "faulty" }).toOption.any (fun report =>
        report.findings.map Finding.checkName = ["tables_without_primary_key"]) = true := by
  have hdeadline : faultyRequest.HasNoDeadline := ⟨rfl, 1, rfl⟩
  have hown : ∀ check ∈ faultyRequest.registry.checks,
      check.NamesItself keylessTable faultyRequest.thresholds := by
    intro check hcheck
    change check ∈ [faultyCheck, tablesWithoutPrimaryKey] at hcheck
    rcases List.mem_pair.1 hcheck with rfl | rfl
    · exact fun found hrun => by cases hrun
    · exact Check.namesItself_of_builtin (by simp [builtinChecks]) keylessTable _
  exact ⟨hdeadline, hown, checks_independent keylessTable faultyRequest hdeadline hown,
    by decide +kernel, by decide +kernel⟩

end CatalogHealth
