import CatalogHealth.Evaluation
import CatalogHealth.Proofs.CheckFindings
import CatalogHealth.Proofs.Ordering

/-!
# The findings of a report

A report keeps the first finding about each thing, in strictly ascending order. Without rules
of exclusion, a deadline or several workers, the results of an evaluation are those of its checks,
one by one, and so the findings of the report can be traced back to the checks that made
them. How exclusions and workers change a report is outside the scope of this module.
-/

namespace CatalogHealth

namespace Finding

variable {findings : List Finding} {f g : Finding}

/-- What a report keeps was found. -/
theorem mem_of_mem_merge (h : f ∈ merge findings) : f ∈ findings :=
  (key_of_mem_firstsFrom (mem_sortBy.1 h)).1

/-- Each finding has the key of one seen before or of one that is kept. -/
theorem exists_mem_firstsFrom (seen : List (String × List Text)) (h : f ∈ findings) :
    f.key ∈ seen ∨ ∃ g ∈ firstsFrom seen findings, g.key = f.key := by
  induction findings generalizing seen with
  | nil => cases h
  | cons g rest ih =>
    unfold firstsFrom
    by_cases hg : g.key ∈ seen
    · rw [if_pos hg]
      rcases List.mem_cons.1 h with rfl | hrest
      · exact .inl hg
      · exact ih seen hrest
    · rw [if_neg hg]
      rcases List.mem_cons.1 h with rfl | hrest
      · exact .inr ⟨f, List.mem_cons_self .., rfl⟩
      · rcases ih (g.key :: seen) hrest with hseen | ⟨kept, hkept, hkey⟩
        · rcases List.mem_cons.1 hseen with hkey | hseen
          · exact .inr ⟨g, List.mem_cons_self .., hkey.symm⟩
          · exact .inl hseen
        · exact .inr ⟨kept, List.mem_cons_of_mem _ hkept, hkey⟩

/-- A report keeps a finding about each thing about which there was one. -/
theorem exists_mem_merge (h : f ∈ findings) : ∃ g ∈ merge findings, g.key = f.key := by
  rcases exists_mem_firstsFrom [] h with hseen | ⟨g, hg, hkey⟩
  · cases hseen
  · exact ⟨g, mem_sortBy.2 hg, hkey⟩

/-- No two findings of a report are about the same thing. -/
theorem nodup_keys_merge (findings : List Finding) : ((merge findings).map key).Nodup :=
  ((sortBy_perm _).map key).nodup_iff.2 (nodup_keys_firstsFrom [] findings)

/-- Findings are all kept if those about the same thing are one. -/
theorem mem_merge_iff_of_eq (h : ∀ g ∈ findings, ∀ g' ∈ findings, g.key = g'.key → g = g') :
    f ∈ merge findings ↔ f ∈ findings := by
  refine ⟨mem_of_mem_merge, fun hf => ?_⟩
  obtain ⟨g, hg, hkey⟩ := exists_mem_merge hf
  exact h g (mem_of_mem_merge hg) f hf hkey ▸ hg

/-- Findings without repetition are all kept. -/
theorem mem_merge_iff (h : (findings.map key).Nodup) : f ∈ merge findings ↔ f ∈ findings :=
  mem_merge_iff_of_eq fun _ hg _ hg' hkey => List.inj_on_of_nodup_map h hg hg' hkey

/-- Findings before each other are about the same thing. -/
theorem key_eq_of_le (h : f.le g = true) (hback : g.le f = true) : f.key = g.key := by
  have hsame : f.sortKey = g.sortKey := SortKey.le_antisymm h hback
  simp only [sortKey, SortKey.mk.injEq] at hsame
  have hname : f.checkName = g.checkName := Text.ofString_injective hsame.2.2.1
  exact Prod.ext hname hsame.2.1

/-- Findings about different things are sorted alike in whatever order they are given. -/
theorem sort_eq_of_perm {others : List Finding} (hperm : findings.Perm others)
    (hnodup : (findings.map key).Nodup) : sort findings = sort others :=
  sortBy_eq_of_perm le_trans le_total hperm fun _ hf _ hg hle hback =>
    List.inj_on_of_nodup_map hnodup hf hg (key_eq_of_le hle hback)

/-- Findings that were merged are in order. -/
theorem sort_merge (findings : List Finding) : sort (merge findings) = merge findings :=
  sort_eq_of_perm (sortBy_perm _) (nodup_keys_merge findings)

/-- One finding comes before another one in reports, and they are about different things. -/
def Precedes (f g : Finding) : Prop := f.le g = true ∧ f.key ≠ g.key

/-- Of two findings at most one comes before the other. -/
theorem Precedes.asymm (h : f.Precedes g) : ¬g.Precedes f :=
  fun hback => h.2 (key_eq_of_le h.1 hback.1)

/-- The findings of a report are in strictly ascending order. -/
theorem merge_pairwise (findings : List Finding) : (merge findings).Pairwise Precedes := by
  have hle : (merge findings).Pairwise fun f g => f.le g = true :=
    sortBy_pairwise le_trans le_total _
  exact hle.and (List.pairwise_map.1 (nodup_keys_merge findings))

/-- In front of a finding of a report stand those that come before it. -/
theorem mem_front_iff {pre post : List Finding} {g : Finding}
    (h : merge findings = pre ++ g :: post) :
    f ∈ pre ↔ f ∈ merge findings ∧ f.Precedes g := by
  have hsorted := merge_pairwise findings
  rw [h] at hsorted ⊢
  obtain ⟨-, hrest, hcross⟩ := List.pairwise_append.1 hsorted
  constructor
  · intro hf
    exact ⟨List.mem_append_left _ hf, hcross f hf g (List.mem_cons_self ..)⟩
  · rintro ⟨hf, hprecedes⟩
    rcases List.mem_append.1 hf with hf | hf
    · exact hf
    · rcases List.mem_cons.1 hf with rfl | hf
      · exact (hprecedes.2 rfl).elim
      · exact (hprecedes.asymm ((List.pairwise_cons.1 hrest).1 f hf)).elim

end Finding

/-! ## Results -/

/-- A pending result after one more check ran. -/
def replacedBy (other result : CheckResult) : CheckResult :=
  if other.checkName = result.checkName then result else other

/-- Each pending result is replaced on its own. -/
theorem foldl_recordResult (results pending : List CheckResult) :
    results.foldl (fun recorded result => recordResult result recorded) pending =
      pending.map fun other => results.foldl replacedBy other := by
  induction results generalizing pending with
  | nil => simp
  | cons result rest ih =>
    rw [List.foldl_cons, ih, recordResult, List.map_map]
    rfl

/-- What is not the result of a check is not replaced by that of another one. -/
theorem foldl_replacedBy_of_notMem {results : List CheckResult} {other : CheckResult}
    (h : other.checkName ∉ results.map CheckResult.checkName) :
    results.foldl replacedBy other = other := by
  induction results with
  | nil => rfl
  | cons result rest ih =>
    rw [List.map_cons, List.mem_cons, not_or] at h
    rw [List.foldl_cons, replacedBy, if_neg h.1]
    exact ih h.2

/-- A pending result is replaced by the result of its check. -/
theorem foldl_replacedBy_of_mem {results : List CheckResult} {other result : CheckResult}
    (hnodup : (results.map CheckResult.checkName).Nodup) (hresult : result ∈ results)
    (hname : other.checkName = result.checkName) : results.foldl replacedBy other = result := by
  induction results generalizing other with
  | nil => cases hresult
  | cons first rest ih =>
    rw [List.map_cons, List.nodup_cons] at hnodup
    rw [List.foldl_cons]
    rcases List.mem_cons.1 hresult with rfl | hrest
    · rw [replacedBy, if_pos hname]
      exact foldl_replacedBy_of_notMem hnodup.1
    · have hne : other.checkName ≠ first.checkName := fun heq =>
        hnodup.1 (heq ▸ hname ▸ List.mem_map_of_mem hrest)
      rw [replacedBy, if_neg hne]
      exact ih hnodup.2 hrest hname

/-- If every check has run, the recorded results are those of the checks in order. -/
theorem recorded_eq {checks : List Check} {result : Check → CheckResult}
    (hname : ∀ check, (result check).checkName = check.name)
    (hnodup : (checks.map fun check => check.name).Nodup) :
    (checks.map result).foldl (fun recorded result => recordResult result recorded)
      (checks.map pendingResult) = checks.map result := by
  have hnames : (checks.map result).map CheckResult.checkName =
      checks.map fun check => check.name := by
    rw [List.map_map]
    exact List.map_congr_left fun check _ => hname check
  rw [foldl_recordResult, List.map_map]
  refine List.map_congr_left fun check hcheck => ?_
  exact foldl_replacedBy_of_mem (hnames ▸ hnodup) (List.mem_map_of_mem hcheck) (hname check).symm

/-! ## Evaluation with the built-in checks -/

/-- Without rules no finding is silenced. -/
theorem silences_nil (s : Snapshot) (check : String) (f : Finding) :
    Exclusions.silences [] s check f = .ok false := by
  have hnone : ∀ objects : List SchemaObject,
      objects.anyM (Exclusions.excludes [] check (some s)) = .ok false := by
    intro objects
    induction objects with
    | nil => rfl
    | cons object rest ih =>
      rw [List.anyM_cons]
      exact Traversal.bind_eq_ok.2 ⟨false, rfl, ih⟩
  exact hnone _

/-- Without rules all findings are left. -/
theorem filterFindings_nil (s : Snapshot) (check : String) (findings : List Finding) :
    Exclusions.filterFindings [] s check findings = .ok findings := by
  induction findings with
  | nil => rfl
  | cons f rest ih =>
    rw [Exclusions.filterFindings, silences_nil, ih]
    rfl

/-- The result of a check without rules. -/
def ownResult (s : Snapshot) (t : Thresholds) (check : Check) : CheckResult where
  checkName := check.name
  category := check.category
  description := check.description
  findings := (outcome s t check).1
  error := (outcome s t check).2

/-- Without rules every check has its own result. -/
theorem finishedResult_nil (s : Snapshot) (t : Thresholds) (check : Check) :
    finishedResult s [] t check = .ok (ownResult s t check) := by
  exact Traversal.bind_eq_ok.2 ⟨_, filterFindings_nil s check.name _, rfl⟩

/-- The report about the built-in checks puts together their own results. -/
theorem evaluate_builtin {s : Snapshot} {t : Thresholds} {report : Report} :
    evaluate s { thresholds := t } = .ok report ↔ t.validate = .ok () ∧
      report = reportOf s.database (builtinChecks.map (ownResult s t)) := by
  have hresults : builtinChecks.mapM (finishedResult s [] t) =
      .ok (builtinChecks.map (ownResult s t)) := by
    rw [Traversal.mapM_eq_ok, List.forall₂_map_right_iff, List.forall₂_same]
    exact fun check _ => finishedResult_nil s t check
  have hchecks : EvaluationRequest.checks { thresholds := t } = builtinChecks := rfl
  have hreport : evaluateInOrder s [] t builtinChecks builtinChecks =
      .ok (reportOf s.database (builtinChecks.map (ownResult s t))) := by
    rw [evaluateInOrder, hresults]
    exact congrArg (fun results => Except.ok (reportOf s.database results))
      (recorded_eq (fun _ => rfl) builtinChecks_names_nodup)
  constructor
  · intro h
    obtain ⟨⟨⟩, hvalid, h⟩ := Traversal.bind_eq_ok.1 h
    obtain ⟨finished, hfinished, h⟩ := Traversal.bind_eq_ok.1 h
    cases hfinished
    rw [hchecks] at h
    exact ⟨hvalid, Except.ok.inj (h.symm.trans hreport)⟩
  · rintro ⟨hvalid, rfl⟩
    exact Traversal.bind_eq_ok.2 ⟨(), hvalid, hreport⟩

/-- What a check adds to a report: what it found, or a finding about its fault. -/
def Check.Adds (check : Check) (s : Snapshot) (t : Thresholds) (f : Finding) : Prop :=
  match check.run s t with
  | .ok found => f ∈ found
  | .error fault => f = failureFinding check.toCheckLabel fault.line

/-- A check that ran to its end contributes what it found. -/
theorem contribution_of_run {s : Snapshot} {t : Thresholds} {check : Check} {found : List Finding}
    (h : check.run s t = .ok found) : contribution (ownResult s t check) = found := by
  simp [contribution, ownResult, outcome, h, CheckResult.isFailed]

/-- A fault is never without words. -/
theorem Fault.line_isEmpty (fault : Fault) : fault.line.isEmpty = false := by
  have hcolon : (": " : Text).points = [.char ':', .char ' '] := rfl
  simp [Fault.line, Text.isEmpty, hcolon]

/-- A check that ended with a fault contributes a finding about it. -/
theorem contribution_of_fault {s : Snapshot} {t : Thresholds} {check : Check} {fault : Fault}
    (h : check.run s t = .error fault) :
    contribution (ownResult s t check) = [failureFinding check.toCheckLabel fault.line] := by
  simp [contribution, ownResult, outcome, h, CheckResult.isFailed, fault.line_isEmpty]

/-- The result of a check contributes what the check adds. -/
theorem adds_of_mem_contribution {s : Snapshot} {t : Thresholds} {check : Check} {f : Finding}
    (h : f ∈ contribution (ownResult s t check)) : check.Adds s t f := by
  unfold Check.Adds
  cases hrun : check.run s t with
  | ok found => exact contribution_of_run hrun ▸ h
  | error fault =>
    rw [contribution_of_fault hrun] at h
    exact List.mem_singleton.1 h

variable {s : Snapshot} {t : Thresholds} {report : Report} {f : Finding}

/-- What a built-in check adds carries its name. -/
theorem Check.Adds.checkName_eq {check : Check} (h : check.Adds s t f)
    (hcheck : check ∈ builtinChecks) : f.checkName = check.name := by
  unfold Check.Adds at h
  cases hrun : check.run s t with
  | ok found =>
    rw [hrun] at h
    exact checkName_of_mem_run hcheck hrun h
  | error fault =>
    rw [hrun] at h
    exact h ▸ rfl

/-- A finding of a report is one that some check added. -/
theorem exists_adds_of_mem_report (h : evaluate s { thresholds := t } = .ok report)
    (hf : f ∈ report.findings) : ∃ check ∈ builtinChecks, check.Adds s t f := by
  obtain ⟨-, rfl⟩ := evaluate_builtin.1 h
  obtain ⟨result, hresult, hcontributed⟩ := List.mem_flatMap.1 (Finding.mem_of_mem_merge hf)
  obtain ⟨check, hcheck, rfl⟩ := List.mem_map.1 hresult
  exact ⟨check, hcheck, adds_of_mem_contribution hcontributed⟩

/-- A finding of a report under the name of a check is one that this check added. -/
theorem adds_of_mem_report (h : evaluate s { thresholds := t } = .ok report)
    (hf : f ∈ report.findings) {check : Check} (hcheck : check ∈ builtinChecks)
    (hname : f.checkName = check.name) : check.Adds s t f := by
  obtain ⟨other, hother, hadds⟩ := exists_adds_of_mem_report h hf
  have hsame : other = check :=
    List.inj_on_of_nodup_map builtinChecks_names_nodup hother hcheck
      ((hadds.checkName_eq hother).symm.trans hname)
  exact hsame ▸ hadds

/-- About everything that a check found there is a finding of this check in the report. -/
theorem exists_mem_report (h : evaluate s { thresholds := t } = .ok report) {check : Check}
    (hcheck : check ∈ builtinChecks) {found : List Finding} (hrun : check.run s t = .ok found)
    (hf : f ∈ found) : ∃ g ∈ report.findings, g ∈ found ∧ g.key = f.key := by
  have hkept : ∃ g ∈ report.findings, g.key = f.key := by
    obtain ⟨-, rfl⟩ := evaluate_builtin.1 h
    refine Finding.exists_mem_merge (List.mem_flatMap.2 ⟨_, List.mem_map_of_mem hcheck, ?_⟩)
    exact (contribution_of_run hrun).symm ▸ hf
  obtain ⟨g, hg, hkey⟩ := hkept
  have hname : g.checkName = check.name :=
    (Prod.mk.inj hkey).1.trans (checkName_of_mem_run hcheck hrun hf)
  have hadds := adds_of_mem_report h hg hcheck hname
  rw [Check.Adds, hrun] at hadds
  exact ⟨g, hg, hadds, hkey⟩

/-- No two findings of a report are about the same thing. -/
theorem report_keys_nodup (h : evaluate s { thresholds := t } = .ok report) :
    (report.findings.map Finding.key).Nodup := by
  obtain ⟨-, rfl⟩ := evaluate_builtin.1 h
  exact Finding.nodup_keys_merge _

end CatalogHealth
