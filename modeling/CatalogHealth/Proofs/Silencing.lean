import CatalogHealth.Proofs.Ordering
import CatalogHealth.Proofs.Recording

/-!
# Exclusions only silence

Rules of exclusion filter what each check found before the findings of all checks are merged, and
the report is the one without rules except for the findings that are hidden. What is hidden is
decided by the key of a finding, which is why the filter may as well come last. The evaluation
remains a report only as long as the rules can be matched; with names and patterns that are texts
they always can. Checks that report under the names of others are outside the scope of this
module.
-/

namespace CatalogHealth

/-- What a check finds on a snapshot it reports under its own name. -/
def Check.NamesItself (check : Check) (s : Snapshot) (t : Thresholds) : Prop :=
  ∀ found, check.run s t = .ok found → ∀ f ∈ found, f.checkName = check.name

/-- A built-in check reports under its own name. -/
theorem Check.namesItself_of_builtin {check : Check} (hcheck : check ∈ builtinChecks)
    (s : Snapshot) (t : Thresholds) : check.NamesItself s t :=
  fun _ hrun _ hf => checkName_of_mem_run hcheck hrun hf

/-- A result without the findings that are hidden. -/
def CheckResult.silenced (rules : Exclusions) (s : Snapshot) (result : CheckResult) :
    CheckResult :=
  { result with findings := result.findings.filter fun f => !rules.hides s f }

/-- A report without the findings that are hidden. -/
def Report.silenced (rules : Exclusions) (s : Snapshot) (report : Report) : Report :=
  { report with
    results := report.results.map (CheckResult.silenced rules s)
    findings := report.findings.filter fun f => !rules.hides s f }

variable {s : Snapshot} {rules : Exclusions} {t : Thresholds} {checks finished : List Check}
  {check : Check} {f g : Finding}

/-! ## The findings of the evaluation about itself -/

/-- Every identifier of an object has a point in it. -/
theorem SchemaObject.point_mem_qualifiedName (object : SchemaObject) :
    CodePoint.char '.' ∈ object.qualifiedName.points := by
  cases object with
  | table table => exact point_mem_qualify table.schema table.name
  | index index => exact point_mem_qualify index.tableSchema index.name
  | constraint con => exact point_mem_qualify (.text con.tableQualifiedName) con.name
  | sequence seq => exact point_mem_qualify seq.schema seq.name

/-- No object goes by the name of the evaluation. -/
theorem Snapshot.object?_engineObject (s : Snapshot) : s.object? engineObject = none := by
  refine List.find?_eq_none.2 fun object _ hname => ?_
  have hpoint := object.point_mem_qualifiedName
  rw [of_decide_eq_true hname] at hpoint
  exact absurd hpoint (by decide)

/-- A finding of the evaluation about itself names no object. -/
theorem named_of_engine (h : f.objects = [(engineObject : Text)]) : Exclusions.named s f = [] := by
  rw [Exclusions.named, h, List.filterMap_cons, s.object?_engineObject]
  rfl

/-- A finding of the evaluation about itself is not hidden. -/
theorem hides_of_engine (h : f.objects = [(engineObject : Text)]) : rules.hides s f = false := by
  rw [Exclusions.hides, named_of_engine h]
  rfl

/-- About a finding of the evaluation about itself no rule is asked. -/
theorem silences_of_engine (h : f.objects = [(engineObject : Text)]) (name : String) :
    rules.silences s name f = .ok false := by
  change (Exclusions.named s f).anyM _ = _
  rw [named_of_engine h]
  rfl

/-! ## Results -/

/-- Whether the evaluation has something to say about a result. -/
def CheckResult.isMarked (result : CheckResult) : Bool := result.isFailed || !result.completed

/-- What the evaluation says about a result that it marks. -/
def CheckResult.marker (result : CheckResult) : Finding :=
  let label : CheckLabel :=
    { name := result.checkName, category := result.category, description := result.description }
  if result.isFailed then failureFinding label (result.error.getD "") else unfinishedFinding label

/-- A result contributes its marker, if it has one, and its findings. -/
theorem contribution_eq (result : CheckResult) : contribution result =
    (if result.isMarked then [result.marker] else []) ++ result.findings := by
  unfold contribution CheckResult.isMarked CheckResult.marker
  cases result.isFailed with
  | true => rfl
  | false =>
    cases result.completed with
    | true => rfl
    | false => rfl

/-- A marker is about the evaluation, in the name of the check. -/
theorem CheckResult.marker_spec (result : CheckResult) : result.marker.severity = .info ∧
    result.marker.objects = [(engineObject : Text)] ∧
      result.marker.checkName = result.checkName := by
  unfold CheckResult.marker
  cases result.isFailed with
  | true => exact ⟨rfl, rfl, rfl⟩
  | false => exact ⟨rfl, rfl, rfl⟩

/-- A result holds findings under the name of its own check only. -/
def CheckResult.SpeaksForItself (result : CheckResult) : Prop :=
  ∀ f ∈ result.findings, f.checkName = result.checkName

/-- What such a result contributes carries the name of its check. -/
theorem CheckResult.SpeaksForItself.checkName_of_mem_contribution {result : CheckResult}
    (hown : result.SpeaksForItself) (hf : f ∈ contribution result) :
    f.checkName = result.checkName := by
  rw [contribution_eq] at hf
  rcases List.mem_append.1 hf with hmarker | hfound
  · split at hmarker
    · rw [List.mem_singleton.1 hmarker]
      exact result.marker_spec.2.2
    · cases hmarker
  · exact hown f hfound

/-- The results of different checks contribute findings about different things. -/
theorem contributions_disjoint {results : List CheckResult}
    (hown : ∀ result ∈ results, result.SpeaksForItself)
    (hnodup : (results.map CheckResult.checkName).Nodup) :
    results.Pairwise fun first second =>
      ∀ f ∈ contribution first, ∀ g ∈ contribution second, f.key ≠ g.key := by
  refine List.Pairwise.imp_of_mem ?_ (List.pairwise_map.1 hnodup)
  intro first second hfirst hsecond hne f hf g hg hkey
  have hname : f.checkName = g.checkName := (Prod.mk.inj hkey).1
  rw [(hown first hfirst).checkName_of_mem_contribution hf,
    (hown second hsecond).checkName_of_mem_contribution hg] at hname
  exact hne hname

/-- A check is recorded exactly if the rules have an answer about each of its findings, and then
its result is that without rules except for what is hidden. -/
theorem finishedResult_eq_ok (hown : check.NamesItself s t) {result : CheckResult} :
    finishedResult s rules t check = .ok result ↔
      (∀ f ∈ (outcome s t check).1, ∃ b, rules.silences s f.checkName f = .ok b) ∧
        result = (ownResult s t check).silenced rules s := by
  have hnames : ∀ f ∈ (outcome s t check).1, f.checkName = check.name := by
    intro f hf
    unfold outcome at hf
    cases hrun : check.run s t with
    | ok found =>
      rw [hrun] at hf
      exact hown found hrun f hf
    | error fault =>
      rw [hrun] at hf
      cases hf
  have hbind : finishedResult s rules t check = .ok result ↔ ∃ kept,
      rules.filterFindings s check.name (outcome s t check).1 = .ok kept ∧
        result = { ownResult s t check with findings := kept } := by
    refine Traversal.bind_eq_ok.trans (exists_congr fun kept => and_congr_right fun _ => ?_)
    rw [Traversal.pure_eq_ok, eq_comm]
    rfl
  simp only [hbind, Exclusions.filterFindings_eq_ok hnames]
  constructor
  · rintro ⟨kept, ⟨hanswers, rfl⟩, rfl⟩
    exact ⟨hanswers, rfl⟩
  · rintro ⟨hanswers, rfl⟩
    exact ⟨_, ⟨hanswers, rfl⟩, rfl⟩

/-- Recording and leaving hidden findings out can be done in either order. -/
theorem foldl_replacedBy_silenced (results : List CheckResult) (pending : CheckResult) :
    (results.map (CheckResult.silenced rules s)).foldl replacedBy (pending.silenced rules s) =
      (results.foldl replacedBy pending).silenced rules s := by
  induction results generalizing pending with
  | nil => rfl
  | cons result rest ih =>
    have hstep : replacedBy (pending.silenced rules s) (result.silenced rules s) =
        (replacedBy pending result).silenced rules s :=
      (apply_ite (CheckResult.silenced rules s) (pending.checkName = result.checkName) result
        pending).symm
    rw [List.map_cons, List.foldl_cons, List.foldl_cons, hstep, ih]

/-- A result contributes to a report what is not hidden of its findings, and the finding about
its failure or its deadline in any case. -/
theorem contribution_silenced (result : CheckResult) :
    contribution (result.silenced rules s) =
      (contribution result).filter fun f => !rules.hides s f := by
  have hmarker : rules.hides s result.marker = false := hides_of_engine result.marker_spec.2.1
  have hmarked : (result.silenced rules s).isMarked = result.isMarked := rfl
  have hsame : (result.silenced rules s).marker = result.marker := rfl
  rw [contribution_eq, contribution_eq, List.filter_append, hmarked, hsame]
  cases result.isMarked with
  | true => simp [hmarker, CheckResult.silenced]
  | false => rfl

/-- A report about silenced results is the silenced report about the results. -/
theorem reportOf_silenced (database : Value) (results : List CheckResult) :
    reportOf database (results.map (CheckResult.silenced rules s)) =
      (reportOf database results).silenced rules s := by
  have hfindings :
      Finding.merge ((results.map (CheckResult.silenced rules s)).flatMap contribution) =
        (Finding.merge (results.flatMap contribution)).filter fun f => !rules.hides s f := by
    have hkey : ∀ f g : Finding, f.key = g.key → (!rules.hides s f) = !rules.hides s g :=
      fun f g h => by rw [Exclusions.hides_eq_of_key h]
    rw [Finding.filter_merge hkey, List.filter_flatMap, List.flatMap_map]
    exact congrArg Finding.merge (List.flatMap_congr fun result _ => contribution_silenced result)
  have hcomplete : (results.map (CheckResult.silenced rules s)).all
      (fun result => result.isFailed || result.completed) =
        results.all fun result => result.isFailed || result.completed := by
    rw [List.all_map]
    rfl
  rw [reportOf, reportOf, hfindings, hcomplete]
  rfl

/-! ## Evaluations -/

/-- The recorded results of checks that finish, without rules. -/
def ownResults (s : Snapshot) (t : Thresholds) (checks finished : List Check) :
    List CheckResult :=
  checks.map fun check => (finished.map (ownResult s t)).foldl replacedBy (pendingResult check)

/-- Without rules there is a report, whichever checks finish. -/
theorem evaluateInOrder_nil :
    evaluateInOrder s [] t checks finished =
      .ok (reportOf s.database (ownResults s t checks finished)) := by
  refine evaluateInOrder_eq_ok.2 ⟨finished.map (ownResult s t), ?_, rfl⟩
  rw [Traversal.mapM_eq_ok, List.forall₂_map_right_iff, List.forall₂_same]
  exact fun check _ => finishedResult_nil s t check

/-- Checks are recorded exactly if the rules have an answer about all that they found, and then
their results are those without rules except for what is hidden. -/
theorem mapM_finishedResult_eq_ok (hown : ∀ check ∈ finished, check.NamesItself s t)
    {results : List CheckResult} : finished.mapM (finishedResult s rules t) = .ok results ↔
      (∀ check ∈ finished, ∀ f ∈ (outcome s t check).1,
        ∃ b, rules.silences s f.checkName f = .ok b) ∧
      results = (finished.map (ownResult s t)).map (CheckResult.silenced rules s) := by
  rw [Traversal.mapM_eq_ok]
  induction finished generalizing results with
  | nil => simp
  | cons check rest ih =>
    obtain ⟨hcheck, hrest⟩ := List.forall_mem_cons.1 hown
    simp only [List.forall₂_cons_left_iff, finishedResult_eq_ok hcheck, ih hrest,
      List.forall_mem_cons, List.map_cons]
    constructor
    · rintro ⟨result, others, ⟨hanswers, rfl⟩, ⟨hothers, rfl⟩, rfl⟩
      exact ⟨⟨hanswers, hothers⟩, rfl⟩
    · rintro ⟨⟨hanswers, hothers⟩, rfl⟩
      exact ⟨_, _, ⟨hanswers, rfl⟩, ⟨hothers, rfl⟩, rfl⟩

/-- With rules there is a report exactly if they have an answer about all that the checks found,
and it is the silenced report without rules. -/
theorem evaluateInOrder_silenced (hown : ∀ check ∈ finished, check.NamesItself s t)
    {report : Report} : evaluateInOrder s rules t checks finished = .ok report ↔
      (∀ check ∈ finished, ∀ f ∈ (outcome s t check).1,
        ∃ b, rules.silences s f.checkName f = .ok b) ∧
      report = (reportOf s.database (ownResults s t checks finished)).silenced rules s := by
  have hrecorded : (checks.map fun check =>
      ((finished.map (ownResult s t)).map (CheckResult.silenced rules s)).foldl replacedBy
        (pendingResult check)) =
      (ownResults s t checks finished).map (CheckResult.silenced rules s) := by
    refine Eq.trans (List.map_congr_left fun check _ => foldl_replacedBy_silenced
      (finished.map (ownResult s t)) (pendingResult check)) ?_
    rw [ownResults, List.map_map]
    rfl
  rw [evaluateInOrder_eq_ok, ← reportOf_silenced, ← hrecorded]
  constructor
  · rintro ⟨results, h, rfl⟩
    obtain ⟨hanswers, rfl⟩ := (mapM_finishedResult_eq_ok hown).1 h
    exact ⟨hanswers, rfl⟩
  · rintro ⟨hanswers, rfl⟩
    exact ⟨_, (mapM_finishedResult_eq_ok hown).2 ⟨hanswers, rfl⟩, rfl⟩

/-- Among checks with distinct names the name of a check tells whether it finished. -/
theorem mem_finished_of_name_mem (hfinished : finished.Subperm checks)
    (hnodup : (checks.map fun check => check.name).Nodup) (hcheck : check ∈ checks)
    (h : check.name ∈ finished.map fun other => other.name) : check ∈ finished := by
  obtain ⟨other, hother, hname⟩ := List.mem_map.1 h
  exact List.inj_on_of_nodup_map hnodup (hfinished.subset hother) hcheck hname ▸ hother

/-- The recorded results are those of the checks that finished; the others are still pending. -/
theorem ownResults_eq (hfinished : finished.Subperm checks)
    (hnodup : (checks.map fun check => check.name).Nodup) :
    ownResults s t checks finished = checks.map fun check =>
      if check.name ∈ finished.map (fun other => other.name) then ownResult s t check
      else pendingResult check := by
  have hnames : (finished.map (ownResult s t)).map CheckResult.checkName =
      finished.map fun other => other.name := by
    rw [List.map_map]
    rfl
  have hdistinct : ((finished.map (ownResult s t)).map CheckResult.checkName).Nodup := by
    obtain ⟨some, hperm, hsublist⟩ := hfinished
    rw [hnames]
    exact (hperm.map _).nodup_iff.1 (hnodup.sublist (hsublist.map _))
  refine List.map_congr_left fun check hcheck => ?_
  split
  · rename_i hmem
    have hrecorded := mem_finished_of_name_mem hfinished hnodup hcheck hmem
    exact foldl_replacedBy_of_mem hdistinct (List.mem_map_of_mem hrecorded) rfl
  · rename_i hmem
    exact foldl_replacedBy_of_notMem fun h => hmem (hnames ▸ h)

/-- A result contributes its findings and at most one about the evaluation itself. -/
theorem mem_contribution {result : CheckResult} (h : f ∈ contribution result) :
    f ∈ result.findings ∨ f.objects = [(engineObject : Text)] := by
  rw [contribution_eq] at h
  rcases List.mem_append.1 h with hmarker | hfound
  · split at hmarker
    · exact .inr (List.mem_singleton.1 hmarker ▸ result.marker_spec.2.1)
    · cases hmarker
  · exact .inl hfound

/-- A result contributes all of its findings. -/
theorem findings_subset_contribution (result : CheckResult) :
    result.findings ⊆ contribution result := by
  rw [contribution_eq]
  exact List.subset_append_right _ _

/-- The rules have an answer about all that the checks found if they have one about what the
report keeps of it. -/
theorem answers_iff (hfinished : finished.Subperm checks)
    (hnodup : (checks.map fun check => check.name).Nodup) (database : Value) :
    (∀ check ∈ finished, ∀ f ∈ (outcome s t check).1,
        ∃ b, rules.silences s f.checkName f = .ok b) ↔
      ∀ f ∈ (reportOf database (ownResults s t checks finished)).findings,
        ∃ b, rules.silences s f.checkName f = .ok b := by
  have hresults := ownResults_eq (s := s) (t := t) hfinished hnodup
  constructor
  · intro h f hf
    obtain ⟨result, hresult, hcontributed⟩ := List.mem_flatMap.1 (Finding.mem_of_mem_merge hf)
    rw [hresults] at hresult
    obtain ⟨check, hcheck, rfl⟩ := List.mem_map.1 hresult
    rcases mem_contribution hcontributed with hfound | hengine
    · split at hfound
      · rename_i hmem
        exact h check (mem_finished_of_name_mem hfinished hnodup hcheck hmem) f hfound
      · cases hfound
    · exact ⟨false, silences_of_engine hengine f.checkName⟩
  · intro h check hcheck f hf
    have hresult : ownResult s t check ∈ ownResults s t checks finished := by
      rw [hresults]
      refine List.mem_map.2 ⟨check, hfinished.subset hcheck, if_pos ?_⟩
      exact List.mem_map_of_mem hcheck
    have hcontributed : f ∈ contribution (ownResult s t check) :=
      findings_subset_contribution (ownResult s t check) hf
    obtain ⟨g, hg, hkey⟩ := Finding.exists_mem_merge
      (List.mem_flatMap.2 ⟨_, hresult, hcontributed⟩)
    obtain ⟨b, hb⟩ := h g hg
    exact ⟨b, (Exclusions.silences_eq_of_key hkey).symm.trans hb⟩

/-- With rules an evaluation reports exactly if it does without rules and the rules have an
answer about each finding, and its report is the one without rules, silenced. -/
theorem evaluate_silenced {request : EvaluationRequest}
    (hown : ∀ check ∈ request.registry.checks, check.NamesItself s request.thresholds)
    {report : Report} : evaluate s { request with rules } = .ok report ↔
      ∃ plain, evaluate s { request with rules := [] } = .ok plain ∧
        (∀ f ∈ plain.findings, ∃ b, rules.silences s f.checkName f = .ok b) ∧
        report = plain.silenced rules s := by
  have hevaluate : ∀ (rules : Exclusions) (report : Report),
      evaluate s { request with rules } = .ok report ↔
        request.thresholds.validate = .ok () ∧ ∃ finished,
          finishedBefore request.workers request.timeout request.checks = .ok finished ∧
            evaluateInOrder s rules request.thresholds request.checks finished = .ok report :=
    fun _ _ => EvaluationRequest.evaluate_eq_ok
  simp only [hevaluate, evaluateInOrder_nil, Except.ok.injEq]
  -- The deadline knows nothing of rules, so the same checks finish with and without them.
  have hsilenced : ∀ finished,
      finishedBefore request.workers request.timeout request.checks = .ok finished →
        (evaluateInOrder s rules request.thresholds request.checks finished = .ok report ↔
          (∀ f ∈ (reportOf s.database
              (ownResults s request.thresholds request.checks finished)).findings,
            ∃ b, rules.silences s f.checkName f = .ok b) ∧
          report = (reportOf s.database
            (ownResults s request.thresholds request.checks finished)).silenced rules s) := by
    intro finished hfinished
    have hsublist := finishedBefore_sublist hfinished
    have hregistered : ∀ check ∈ finished, check.NamesItself s request.thresholds :=
      fun check hcheck => hown check
        (EvaluationRequest.mem_registry_of_mem_checks (hsublist.subset hcheck))
    rw [evaluateInOrder_silenced hregistered,
      answers_iff hsublist.subperm request.checks_names_nodup s.database]
  constructor
  · rintro ⟨hvalid, finished, hfinished, h⟩
    obtain ⟨hanswers, hreport⟩ := (hsilenced finished hfinished).1 h
    exact ⟨_, ⟨hvalid, finished, hfinished, rfl⟩, hanswers, hreport⟩
  · rintro ⟨plain, ⟨hvalid, finished, hfinished, rfl⟩, hanswers, hreport⟩
    exact ⟨hvalid, finished, hfinished, (hsilenced finished hfinished).2 ⟨hanswers, hreport⟩⟩

/-- Rules of exclusion only silence. Wherever an evaluation with rules reports, its findings are
those without rules except for the hidden ones, in the same order, and what the evaluation says
about itself is kept. It reports exactly if the rules have an answer about each finding, which
they have if names and patterns are texts. The order and the repetition of rules change no
finding, and under two sets of rules together there is left what is left under both. -/
theorem exclusions_only_silence (s : Snapshot) (request : EvaluationRequest)
    (hown : ∀ check ∈ request.registry.checks, check.NamesItself s request.thresholds) :
    (∀ (rules : Exclusions) (report : Report),
      evaluate s { request with rules } = .ok report →
        ∃ plain, evaluate s { request with rules := [] } = .ok plain ∧
          report.findings = (plain.findings.filter fun f => !rules.hides s f) ∧
          ∀ f ∈ plain.findings, f.objects = [(engineObject : Text)] → f ∈ report.findings) ∧
    (∀ (rules : Exclusions) (plain : Report),
      evaluate s { request with rules := [] } = .ok plain →
        ((∃ report, evaluate s { request with rules } = .ok report) ↔
          ∀ f ∈ plain.findings, ∃ b, rules.silences s f.checkName f = .ok b) ∧
        (s.ObjectNamesAreTexts → rules.PatternsAreTexts →
          ∃ report, evaluate s { request with rules } = .ok report)) ∧
    (∀ (rules rules' : Exclusions) (report report' : Report),
      (∀ rule, rule ∈ rules ↔ rule ∈ rules') →
        evaluate s { request with rules } = .ok report →
        evaluate s { request with rules := rules' } = .ok report' →
          report.findings = report'.findings) ∧
    ∀ (rules rules' : Exclusions) (report report' : Report),
      evaluate s { request with rules } = .ok report →
      evaluate s { request with rules := rules' } = .ok report' →
        ∃ both, evaluate s { request with rules := rules ++ rules' } = .ok both ∧
          both.findings = report.findings.filter fun f => f ∈ report'.findings := by
  have hreports : ∀ (rules : Exclusions) (report : Report),
      evaluate s { request with rules } = .ok report ↔
        ∃ plain, evaluate s { request with rules := [] } = .ok plain ∧
          (∀ f ∈ plain.findings, ∃ b, rules.silences s f.checkName f = .ok b) ∧
          report = plain.silenced rules s :=
    fun _ _ => evaluate_silenced hown
  refine ⟨?_, ?_, ?_, ?_⟩
  · intro rules report h
    obtain ⟨plain, hplain, -, rfl⟩ := (hreports rules report).1 h
    refine ⟨plain, hplain, rfl, fun f hf hengine => ?_⟩
    exact List.mem_filter.2 ⟨hf, by simp [hides_of_engine hengine]⟩
  · intro rules plain hplain
    have hexists : (∃ report, evaluate s { request with rules } = .ok report) ↔
        ∀ f ∈ plain.findings, ∃ b, rules.silences s f.checkName f = .ok b := by
      constructor
      · rintro ⟨report, h⟩
        obtain ⟨other, hother, hanswers, -⟩ := (hreports rules report).1 h
        cases hplain.symm.trans hother
        exact hanswers
      · intro hanswers
        exact ⟨_, (hreports rules _).2 ⟨plain, hplain, hanswers, rfl⟩⟩
    refine ⟨hexists, fun hnames hpatterns => hexists.2 fun f _ => ?_⟩
    exact Exclusions.exists_silences hnames hpatterns f.checkName f
  · intro rules rules' report report' hsame h h'
    obtain ⟨plain, hplain, hanswers, rfl⟩ := (hreports rules report).1 h
    obtain ⟨other, hother, hanswers', rfl⟩ := (hreports rules' report').1 h'
    cases hplain.symm.trans hother
    refine List.filter_congr fun f hf => congrArg not ?_
    obtain ⟨b, hb⟩ := hanswers f hf
    obtain ⟨b', hb'⟩ := hanswers' f hf
    exact Exclusions.hides_eq_of_mem_iff hsame hb hb'
  · intro rules rules' report report' h h'
    obtain ⟨plain, hplain, hanswers, rfl⟩ := (hreports rules report).1 h
    obtain ⟨other, hother, hanswers', rfl⟩ := (hreports rules' report').1 h'
    cases hplain.symm.trans hother
    have hboth : ∀ f ∈ plain.findings,
        Exclusions.silences (rules ++ rules') s f.checkName f =
          .ok (rules.hides s f || rules'.hides s f) := by
      intro f hf
      obtain ⟨b, hb⟩ := hanswers f hf
      obtain ⟨b', hb'⟩ := hanswers' f hf
      exact Exclusions.silences_append_eq hb hb'
    refine ⟨_, (hreports (rules ++ rules') _).2
      ⟨plain, hplain, fun f hf => ⟨_, hboth f hf⟩, rfl⟩, ?_⟩
    change plain.findings.filter _ = (plain.findings.filter _).filter fun f =>
      decide (f ∈ plain.findings.filter fun f => !rules'.hides s f)
    rw [List.filter_filter]
    refine List.filter_congr fun f hf => ?_
    rw [Exclusions.hides_of_silences (hboth f hf)]
    simp [hf, Bool.and_comm]

/-- The rule that hides all objects of one schema. -/
def publicRule : ExclusionRule where
  pattern := .text "public.*"
  pattern_truthy := by decide

/-- The rule that hides all objects whose own name begins in some way. -/
def temporaryRule : ExclusionRule where
  pattern := .text "tmp_*"
  pattern_truthy := by decide

/-- A rule hides what a check found and leaves what is said about a check at fault. -/
theorem exclusions_only_silence_faulty :
    (∀ check ∈ faultyRequest.registry.checks,
      check.NamesItself keylessTable faultyRequest.thresholds) ∧
      ∃ plain report,
        evaluate keylessTable { faultyRequest with rules := [] } = .ok plain ∧
        evaluate keylessTable { faultyRequest with rules := [publicRule, temporaryRule] } =
          .ok report ∧
        report.findings = (plain.findings.filter fun f =>
          !Exclusions.hides [publicRule, temporaryRule] keylessTable f) ∧
        plain.findings.map Finding.checkName = ["tables_without_primary_key", "faulty"] ∧
        report.findings.map Finding.checkName = ["faulty"] := by
  have hown : ∀ check ∈ faultyRequest.registry.checks,
      check.NamesItself keylessTable faultyRequest.thresholds := by
    intro check hcheck
    change check ∈ [faultyCheck, tablesWithoutPrimaryKey] at hcheck
    rcases List.mem_pair.1 hcheck with rfl | rfl
    · exact fun found hrun => by cases hrun
    · exact Check.namesItself_of_builtin (by simp [builtinChecks]) keylessTable _
  have hruns : (evaluate keylessTable
      { faultyRequest with rules := [publicRule, temporaryRule] }).toOption.any
        (fun report => report.findings.map Finding.checkName = ["faulty"]) = true := by
    decide +kernel
  have hplainRuns : (evaluate keylessTable { faultyRequest with rules := [] }).toOption.any
      (fun plain => plain.findings.map Finding.checkName =
        ["tables_without_primary_key", "faulty"]) = true := by
    decide +kernel
  obtain ⟨report, hreport, hnames⟩ := Traversal.exists_ok_of_toOption hruns
  obtain ⟨plain, hplain, hplainNames⟩ := Traversal.exists_ok_of_toOption hplainRuns
  obtain ⟨hsilence, -⟩ := exclusions_only_silence keylessTable faultyRequest hown
  obtain ⟨other, hother, hfindings, -⟩ := hsilence [publicRule, temporaryRule] report hreport
  cases hplain.symm.trans hother
  exact ⟨hown, plain, report, hplain, hreport, hfindings, of_decide_eq_true hplainNames,
    of_decide_eq_true hnames⟩

/-- An invalid index that has a number for its name. -/
def numberedIndex : Snapshot :=
  { bareSnapshot with
    indexes :=
      [{ plainIndex "public" "orders" "by_day" ["day"] with name := .int 5, isValid := false }]
    indexes_nodup := by decide }

/-- About an index whose name is no text a rule about identifiers has an answer and a rule about
own names has none, so that the order of these rules decides whether there is a report. -/
theorem numberedIndex_order_matters :
    (evaluate numberedIndex {}).toOption.any (fun report => report.findings.length = 1) = true ∧
      (evaluate numberedIndex { rules := [publicRule, temporaryRule] }).toOption.any
        (fun report => report.findings = []) = true ∧
      evaluate numberedIndex { rules := [temporaryRule, publicRule] } = .error .wrongKind := by
  decide +kernel

end CatalogHealth
