import Mathlib.Data.List.Flatten
import CatalogHealth.Proofs.Accounting
import CatalogHealth.Proofs.Independence
import CatalogHealth.Proofs.Locality
import CatalogHealth.Proofs.SequenceRoom

/-!
# Looser thresholds

Thresholds are looser than others if each of them lets at least as much count as a problem. An
object then gives reason to report nothing under the stricter ones, or the same finding under both,
with the same texts and the same metadata: thresholds decide whether there is a finding, but no
finding mentions them. What all objects give reason to is gathered in one order and sorted by one
order, so a report under looser thresholds has the findings of the stricter one among its own, in
their order. Evaluations that a deadline ends are outside the scope.
-/

namespace CatalogHealth

/-! ## Thresholds in order -/

theorem Number.le_trans {a b c : Number} (hab : a.le b = true) (hbc : b.le c = true) :
    a.le c = true := by
  unfold le at *
  cases ha : a.extent? <;> cases hb : b.extent? <;> cases hc : c.extent? <;> simp_all
  exact Extent.le_trans hab hbc

namespace Comparison

/-- A comparison that fails with a threshold also fails with all thresholds that stand to this one
in some way. -/
def FailsOn (comparison between : Comparison) : Prop :=
  ∀ a b x : Number, between.ofNumbers b a = true → comparison.ofNumbers x a = false →
    comparison.ofNumbers x b = false

/-- What is not less than a threshold is not less than a smaller one. -/
theorem less_failsOn_atMost : less.FailsOn atMost := by
  intro a b x hba h
  simp only [ofNumbers, Number.le, Number.lt] at *
  cases hx : x.extent? <;> cases ha : a.extent? <;> cases hb : b.extent? <;> simp_all
  exact Extent.le_trans hba h

/-- What is not greater than a threshold is not greater than a larger one. -/
theorem greater_failsOn_atLeast : greater.FailsOn atLeast := by
  intro a b x hab h
  simp only [ofNumbers, Number.le, Number.lt] at *
  cases hx : x.extent? <;> cases ha : a.extent? <;> cases hb : b.extent? <;> simp_all
  exact Extent.le_trans h hab

/-- What does not reach a threshold does not reach a larger one. -/
theorem atLeast_failsOn_atLeast : atLeast.FailsOn atLeast := by
  intro a b x hab h
  refine Bool.eq_false_iff.2 fun hbx => ?_
  exact Bool.false_ne_true (h.symm.trans (Number.le_trans hab hbx))

end Comparison

/-- What holds of a comparison of numbers holds of values that are numbers. -/
theorem Value.compare_eq_false {comparison between : Comparison}
    (hfails : comparison.FailsOn between) {v w x : Value} (hv : ∃ n, v.number? = some n)
    (hw : ∃ n, w.number? = some n) (hx : ∃ n, x.number? = some n)
    (hwv : w.compare between v = .ok true) (h : x.compare comparison v = .ok false) :
    x.compare comparison w = .ok false := by
  obtain ⟨⟨a, ha⟩, ⟨b, hb⟩, ⟨c, hc⟩⟩ := hv, hw, hx
  rw [compare_numbers hb ha] at hwv
  rw [compare_numbers hc ha] at h
  rw [compare_numbers hc hb]
  exact congrArg Except.ok (hfails a b c (Except.ok.inj hwv) (Except.ok.inj h))

/-- Thresholds let at least as much count as a problem as others. NaN is in no order with anything,
so none of the ten numbers is NaN. -/
structure Thresholds.Loosen (looser t : Thresholds) : Prop where
  /-- A relation is bloated from at most that share of wasted space on. -/
  bloatRatio : looser.bloatRatio.compare .atMost t.bloatRatio = .ok true
  /-- Bloat matters from at most that size on. -/
  bloatMinSize : looser.bloatMinSize.compare .atMost t.bloatMinSize = .ok true
  /-- An index is unused up to at least that number of scans. -/
  unusedIndexMaxScans : looser.unusedIndexMaxScans.compare .atLeast t.unusedIndexMaxScans = .ok true
  /-- An unused index matters from at most that table size on. -/
  unusedIndexMinTableSize :
    looser.unusedIndexMinTableSize.compare .atMost t.unusedIndexMinTableSize = .ok true
  /-- A sequence runs out below at least that share of remaining values. -/
  sequenceRemainingRatio :
    looser.sequenceRemainingRatio.compare .atLeast t.sequenceRemainingRatio = .ok true

/-! ## Runs that find part of what others find -/

/-- If the second run finds something, the first one finds some of it, in the same order. -/
def FindsPartOf (part whole : Except Fault (List Finding)) : Prop :=
  ∀ all, whole = .ok all → ∃ kept, part = .ok kept ∧ kept.Sublist all

namespace FindsPartOf

variable {part whole : Except Fault (List Finding)}

theorem refl (whole : Except Fault (List Finding)) : FindsPartOf whole whole :=
  fun all h => ⟨all, h, List.Sublist.refl all⟩

/-- A run that finds nothing finds part of whatever there is. -/
theorem nothing (whole : Except Fault (List Finding)) : FindsPartOf (.ok []) whole :=
  fun all _ => ⟨[], rfl, List.nil_sublist all⟩

/-- Steps that find part of what others find gather part of what these gather. -/
theorem gathered {α : Type} {f g : α → Except Fault (List Finding)}
    (h : ∀ x, FindsPartOf (f x) (g x)) (xs : List α) :
    FindsPartOf ((xs.mapM f).map List.flatten) ((xs.mapM g).map List.flatten) := by
  induction xs with
  | nil => exact refl _
  | cons x rest ih =>
    intro all hall
    obtain ⟨founds, hfounds, rfl⟩ := Traversal.map_eq_ok.1 hall
    rw [Traversal.mapM_eq_ok, List.forall₂_cons_left_iff] at hfounds
    obtain ⟨found, others, hfound, hothers, rfl⟩ := hfounds
    obtain ⟨kept, hkept, hsub⟩ := h x found hfound
    obtain ⟨gathered, hgathered, hsubs⟩ :=
      ih others.flatten (Traversal.map_eq_ok.2 ⟨others, Traversal.mapM_eq_ok.2 hothers, rfl⟩)
    obtain ⟨parts, hparts, rfl⟩ := Traversal.map_eq_ok.1 hgathered
    refine ⟨(kept :: parts).flatten, Traversal.map_eq_ok.2 ⟨kept :: parts, ?_, rfl⟩, ?_⟩
    · exact Traversal.mapM_eq_ok.2 (.cons hkept (Traversal.mapM_eq_ok.1 hparts))
    · exact hsub.append hsubs

end FindsPartOf

/-! ## What each object gives reason to report -/

namespace Thresholds.Loosen

variable {s : Snapshot} {t looser : Thresholds}

section Steps

variable (h : looser.Loosen t) (ht : t.AreNumbers) (hlooser : looser.AreNumbers)

include h ht hlooser

/-- An unused index is unused under looser thresholds, on the same evidence. -/
theorem unusedEvidence?_eq {index : Index} {evidence : Table × Int}
    (hevidence : unusedEvidence? s t index = .ok (some evidence)) :
    unusedEvidence? s looser index = .ok (some evidence) := by
  unfold unusedEvidence? at hevidence ⊢
  split at hevidence
  · cases hevidence
  · rename_i hguard
    rw [if_neg hguard]
    split at hevidence
    · obtain ⟨small, hsmall, hevidence⟩ := Traversal.bind_eq_ok.1 hevidence
      cases small with
      | true => cases Traversal.pure_eq_ok.1 hevidence
      | false =>
        obtain ⟨scanned, hscanned, hevidence⟩ := Traversal.bind_eq_ok.1 hevidence
        cases scanned with
        | true => cases Traversal.pure_eq_ok.1 hevidence
        | false =>
          have hsmall' := Value.compare_eq_false Comparison.less_failsOn_atMost
            ht.unusedIndexMinTableSize hlooser.unusedIndexMinTableSize ⟨_, rfl⟩
            h.unusedIndexMinTableSize hsmall
          have hscanned' := Value.compare_eq_false Comparison.greater_failsOn_atLeast
            ht.unusedIndexMaxScans hlooser.unusedIndexMaxScans ⟨_, rfl⟩
            h.unusedIndexMaxScans hscanned
          rw [hsmall', hscanned']
          exact hevidence
    · cases hevidence

theorem unusedReport_findsPartOf (index : Index) :
    FindsPartOf (unusedReport s t index) (unusedReport s looser index) := by
  obtain ⟨evidence, hevidence⟩ := exists_unusedEvidence (s := s) ht index
  cases evidence with
  | none =>
    have hnothing : unusedReport s t index = .ok [] := by rw [unusedReport, hevidence]; rfl
    exact hnothing ▸ FindsPartOf.nothing _
  | some evidence =>
    have hsame : unusedReport s t index = unusedReport s looser index := by
      rw [unusedReport, unusedReport, hevidence, h.unusedEvidence?_eq ht hlooser hevidence]
    exact hsame ▸ FindsPartOf.refl _

/-- An estimate that is not acceptable is judged alike under looser thresholds. -/
theorem bloatVerdict_eq {size : Int} {estimate : Option Binary64} {verdict : BloatVerdict}
    (hverdict : bloatVerdict t size estimate = .ok verdict) (hne : verdict ≠ .acceptable) :
    bloatVerdict looser size estimate = .ok verdict := by
  obtain hacceptable | ⟨ratio, rfl, ⟨rfl, hratio⟩ | ⟨rfl, hratio, hreached⟩⟩ :=
    bloatVerdict_cases hverdict
  · exact absurd hacceptable hne
  · rw [bloatVerdict, hratio]
    rfl
  · have hshare := Value.compare_eq_false Comparison.less_failsOn_atMost ht.bloatRatio
      hlooser.bloatRatio ⟨_, rfl⟩ h.bloatRatio hreached.share
    have hsize := Value.compare_eq_false Comparison.less_failsOn_atMost ht.bloatMinSize
      hlooser.bloatMinSize ⟨_, rfl⟩ h.bloatMinSize hreached.size
    exact bloatVerdict_of_reachedBy hratio ⟨hshare, hsize⟩

/-- A report about an estimate is empty or the same under looser thresholds. -/
theorem bloatReport_findsPartOf (size : Int) (estimate : Option Binary64)
    (report : BloatVerdict → Except Fault (List Finding)) (hnothing : report .acceptable = .ok []) :
    FindsPartOf (bloatVerdict t size estimate >>= report)
      (bloatVerdict looser size estimate >>= report) := by
  obtain ⟨verdict, hverdict⟩ := exists_bloatVerdict ht size estimate
  by_cases hacceptable : verdict = .acceptable
  · have hempty : bloatVerdict t size estimate >>= report = .ok [] := by
      rw [hverdict, hacceptable]
      exact hnothing
    exact hempty ▸ FindsPartOf.nothing _
  · rw [hverdict, h.bloatVerdict_eq ht hlooser hverdict hacceptable]
    exact FindsPartOf.refl _

theorem indexBloatReport_findsPartOf (index : Index) :
    FindsPartOf (indexBloatReport t index) (indexBloatReport looser index) :=
  h.bloatReport_findsPartOf ht hlooser index.sizeBytes index.bloatRatio _ rfl

theorem tableBloatReport_findsPartOf (table : Table) :
    FindsPartOf (tableBloatReport t table) (tableBloatReport looser table) :=
  h.bloatReport_findsPartOf ht hlooser table.sizeBytes table.bloatRatio _ rfl

theorem sequenceReport_findsPartOf (seq : Sequence) :
    FindsPartOf (sequenceReport t seq) (sequenceReport looser seq) := by
  unfold sequenceReport
  split
  · exact FindsPartOf.refl _
  · split
    · exact FindsPartOf.refl _
    · cases seq.room? with
      | error fault => exact FindsPartOf.refl _
      | ok room? =>
        cases room? with
        | none => exact FindsPartOf.refl _
        | some room =>
          obtain ⟨least, hleast⟩ := ht.sequenceRemainingRatio
          obtain ⟨reached, hreached⟩ : ∃ reached, (Value.float room.share).compare .atLeast
              t.sequenceRemainingRatio = .ok reached := ⟨_, Value.compare_numbers rfl hleast⟩
          simp only [bind, Except.bind, hreached]
          cases reached with
          | true => exact FindsPartOf.nothing _
          | false =>
            have hreached' := Value.compare_eq_false Comparison.atLeast_failsOn_atLeast
              ht.sequenceRemainingRatio hlooser.sequenceRemainingRatio ⟨_, rfl⟩
              h.sequenceRemainingRatio hreached
            rw [hreached']
            exact FindsPartOf.refl _

/-! ## What each check finds -/

/-- Under stricter thresholds a built-in check finds part of what it finds under looser ones. -/
theorem run_findsPartOf {check : Check} (hcheck : check ∈ builtinChecks) :
    FindsPartOf (check.run s t) (check.run s looser) := by
  -- Four checks look at thresholds, object by object; the other five do not.
  simp only [builtinChecks, List.mem_cons, List.not_mem_nil, or_false] at hcheck
  rcases hcheck with rfl | rfl | rfl | rfl | rfl | rfl | rfl | rfl | rfl
  · exact FindsPartOf.refl _
  · exact FindsPartOf.refl _
  · exact FindsPartOf.gathered (h.unusedReport_findsPartOf ht hlooser) _
  · exact FindsPartOf.gathered (h.indexBloatReport_findsPartOf ht hlooser) _
  · exact FindsPartOf.refl _
  · exact FindsPartOf.gathered (h.tableBloatReport_findsPartOf ht hlooser) _
  · exact FindsPartOf.refl _
  · exact FindsPartOf.refl _
  · exact FindsPartOf.gathered (h.sequenceReport_findsPartOf ht hlooser) _

end Steps

end Thresholds.Loosen

/-! ## What a report says -/

namespace Finding

variable {findings others : List Finding}

/-- Some of the findings about different things are sorted as they are among all of them. -/
theorem sort_sublist (h : findings.Sublist others) (hnodup : (others.map key).Nodup) :
    (sort findings).Sublist (sort others) := by
  have hothers : others.Nodup := hnodup.of_map key
  have hperm : findings.Perm (others.filter fun f => decide (f ∈ findings)) := by
    refine (List.perm_ext_iff_of_nodup (hothers.sublist h) (hothers.filter _)).2 fun f => ?_
    simp only [List.mem_filter, decide_eq_true_eq]
    exact ⟨fun hf => ⟨h.subset hf, hf⟩, fun hf => hf.2⟩
  have hsort : sort findings = (sort others).filter fun f => decide (f ∈ findings) := by
    rw [sort_eq_of_perm hperm (hnodup.sublist (h.map key)), sort, sort,
      filter_sortBy le_trans le_total]
  rw [hsort]
  exact List.filter_sublist

/-- Findings about different things are merged with some of them as among all of them. -/
theorem merge_sublist (h : findings.Sublist others) (hnodup : (others.map key).Nodup) :
    (merge findings).Sublist (merge others) := by
  rw [merge_eq_sort hnodup, merge_eq_sort (hnodup.sublist (h.map key))]
  exact sort_sublist h hnodup

end Finding

namespace EvaluationRequest

variable {s : Snapshot} {request : EvaluationRequest} {looser : Thresholds} {check : Check}

/-- No check of a request failed exactly if every one of them ran to its end. -/
theorem failedCount_eq_zero_iff (database : Value) :
    (reportOf database (request.checks.map (request.resultOf s))).failedCount = 0 ↔
      ∀ check ∈ request.checks, ∃ found, check.run s request.thresholds = .ok found := by
  rw [failedCount_reportOf_eq_zero_iff_results, List.forall_mem_map]
  exact forall₂_congr fun check _ => isFailed_ownResult_eq_false_iff

/-- A check that ran to its end contributes what it found and the rules do not hide. -/
theorem contribution_resultOf {found : List Finding}
    (hrun : check.run s request.thresholds = .ok found) :
    contribution (request.resultOf s check) =
      found.filter fun f => !request.rules.hides s f := by
  rw [resultOf, contribution_silenced, contribution_of_run hrun]

/-- Built-in checks contribute no two findings about the same thing. -/
theorem contributions_keys_nodup (hbuiltin : ∀ check ∈ request.checks, check ∈ builtinChecks) :
    (((request.checks.map (request.resultOf s)).flatMap contribution).map Finding.key).Nodup := by
  refine CheckResult.contributions_keys_nodup (List.forall_mem_map.2 fun check hcheck => ?_)
    (request.resultsOf_checkNames_nodup s)
  exact (CheckResult.consistent_ownResult (hbuiltin check hcheck)).silenced request.rules s

/-- With accepted thresholds and without rules there is a report of the built-in checks. -/
theorem exists_report_of_rules_eq_nil (hdeadline : request.HasNoDeadline)
    (hbuiltin : ∀ check ∈ request.checks, check ∈ builtinChecks)
    (hvalid : request.thresholds.validate = .ok ()) (hrules : request.rules = []) :
    ∃ report, evaluate s request = .ok report := by
  have hown : ∀ check ∈ request.checks, check.NamesItself s request.thresholds :=
    fun check hcheck => Check.namesItself_of_builtin (hbuiltin check hcheck) s _
  refine ⟨_, (evaluate_eq_ok_iff hdeadline hown).2 ⟨hvalid, fun _ _ f _ => ⟨false, ?_⟩, rfl⟩⟩
  rw [hrules, silences_nil]

/-- Looser thresholds only add findings. Every selection of built-in checks has reports under
accepted thresholds if no rules of exclusion are given. With any rules, if no check failed in the
report under looser thresholds, then there is a report under the stricter ones in which none failed
either, and its findings are among those of the looser one, the same in every field and in the same
order. -/
theorem findings_sublist_of_loosen (s : Snapshot) (request : EvaluationRequest)
    (looser : Thresholds) (hdeadline : request.HasNoDeadline)
    (hbuiltin : ∀ check ∈ request.registry.checks, check ∈ builtinChecks)
    (hvalid : request.thresholds.validate = .ok ()) (hvalid' : looser.validate = .ok ())
    (hlooser : looser.Loosen request.thresholds) :
    (request.rules = [] → (∃ report, evaluate s request = .ok report) ∧
      ∃ report', evaluate s { request with thresholds := looser } = .ok report') ∧
    ∀ report', evaluate s { request with thresholds := looser } = .ok report' →
      report'.failedCount = 0 → ∃ report, evaluate s request = .ok report ∧
        report.failedCount = 0 ∧ report.findings.Sublist report'.findings := by
  have hchecks : ∀ check ∈ request.checks, check ∈ builtinChecks :=
    fun check hcheck => hbuiltin check (mem_registry_of_mem_checks hcheck)
  have hown : ∀ t : Thresholds, ∀ check ∈ request.checks, check.NamesItself s t :=
    fun t check hcheck => Check.namesItself_of_builtin (hchecks check hcheck) s t
  have hdeadline' : HasNoDeadline { request with thresholds := looser } := hdeadline
  refine ⟨fun hrules => ⟨exists_report_of_rules_eq_nil hdeadline hchecks hvalid hrules,
    exists_report_of_rules_eq_nil hdeadline' hchecks hvalid' hrules⟩, ?_⟩
  intro report' hreport' hfailed
  obtain ⟨-, hanswers, rfl⟩ := (evaluate_eq_ok_iff hdeadline' (hown looser)).1 hreport'
  have hruns : ∀ check ∈ request.checks, ∃ all, check.run s looser = .ok all :=
    (failedCount_eq_zero_iff s.database).1 hfailed
  have hparts : ∀ check ∈ request.checks, ∃ kept all, check.run s request.thresholds = .ok kept ∧
      check.run s looser = .ok all ∧ kept.Sublist all := by
    intro check hcheck
    obtain ⟨all, hall⟩ := hruns check hcheck
    obtain ⟨kept, hkept, hsub⟩ := hlooser.run_findsPartOf
      (Thresholds.areNumbers_of_validate hvalid) (Thresholds.areNumbers_of_validate hvalid')
      (hchecks check hcheck) all hall
    exact ⟨kept, all, hkept, hall, hsub⟩
  refine ⟨_, (evaluate_eq_ok_iff hdeadline (hown _)).2 ⟨hvalid, ?_, rfl⟩, ?_, ?_⟩
  · intro check hcheck f hf
    obtain ⟨kept, all, hkept, hall, hsub⟩ := hparts check hcheck
    refine hanswers check hcheck f ?_
    simp only [outcome, hall]
    simp only [outcome, hkept] at hf
    exact hsub.subset hf
  · refine (failedCount_eq_zero_iff s.database).2 fun check hcheck => ?_
    obtain ⟨kept, -, hkept, -, -⟩ := hparts check hcheck
    exact ⟨kept, hkept⟩
  · -- All findings are about different things, so merging only sorts, and a part stays in order.
    refine Finding.merge_sublist ?_ (contributions_keys_nodup hchecks)
    rw [List.flatMap_map, List.flatMap_map]
    refine List.Sublist.flatMap_right _ fun check hcheck => ?_
    obtain ⟨kept, all, hkept, hall, hsub⟩ := hparts check hcheck
    rw [contribution_resultOf hkept, contribution_resultOf hall]
    exact hsub.filter _

/-- A bloated table, and one of which just a quarter is wasted. -/
def wastefulShops : Snapshot :=
  { bareSnapshot with
    tables :=
      [{ schema := .text "public", name := .text "orders", sizeBytes := 8192
         bloatRatio := some (Binary64.ofRatio false 3 4) },
       { schema := .text "public", name := .text "shops", sizeBytes := 8192
         bloatRatio := some (Binary64.ofRatio false 1 4) }]
    tables_nodup := by decide }

/-- Thresholds for which a quarter is too much. -/
def quarterShare : Thresholds := { bloatRatio := .float (Binary64.ofRatio false 1 4) }

/-- A second table is reported once a quarter is too much, between the findings that were there. -/
theorem findings_sublist_of_loosen_wastefulShops : ∃ report report',
    evaluate wastefulShops {} = .ok report ∧
      evaluate wastefulShops { thresholds := quarterShare } = .ok report' ∧
      report.findings.Sublist report'.findings ∧
      report.findings.map Finding.checkName =
        ["bloated_tables", "tables_without_primary_key", "tables_without_primary_key"] ∧
      report'.findings.map Finding.checkName =
        ["bloated_tables", "tables_without_primary_key", "bloated_tables",
          "tables_without_primary_key"] := by
  have hlooser : quarterShare.Loosen {} :=
    ⟨by decide +kernel, by decide +kernel, by decide +kernel, by decide +kernel, by decide +kernel⟩
  have hruns' : (evaluate wastefulShops { thresholds := quarterShare }).toOption.any (fun report =>
      report.failedCount = 0 ∧ report.findings.map Finding.checkName =
        ["bloated_tables", "tables_without_primary_key", "bloated_tables",
          "tables_without_primary_key"]) = true := by
    decide +kernel
  have hruns : (evaluate wastefulShops {}).toOption.any (fun report =>
      report.findings.map Finding.checkName =
        ["bloated_tables", "tables_without_primary_key", "tables_without_primary_key"]) = true := by
    decide +kernel
  obtain ⟨report', hreport', hfacts'⟩ := Traversal.exists_ok_of_toOption hruns'
  obtain ⟨hfailed, hnames'⟩ := of_decide_eq_true hfacts'
  obtain ⟨-, hsublist⟩ := findings_sublist_of_loosen wastefulShops {} quarterShare
    ⟨rfl, 1, rfl⟩ (fun _ hcheck => hcheck) (by decide +kernel) (by decide +kernel) hlooser
  obtain ⟨report, hreport, -, hsub⟩ := hsublist report' hreport' hfailed
  obtain ⟨other, hother, hnames⟩ := Traversal.exists_ok_of_toOption hruns
  obtain rfl := Except.ok.inj (hother.symm.trans hreport)
  exact ⟨other, report', hother, hreport', hsub, of_decide_eq_true hnames, hnames'⟩

end EvaluationRequest

end CatalogHealth
