import CatalogHealth.Check.Builtin
import CatalogHealth.Proofs.Redundancy

/-!
# What the built-in checks report

Each check has one lemma that says which findings it reports: about which objects of the
snapshot, on what evidence. From these follows that every finding of a built-in check
carries the name of that check. The texts of the findings are outside the scope of this
module, and the pairs of redundant indexes are described elsewhere.
-/

namespace CatalogHealth

variable {s : Snapshot} {t : Thresholds} {found : List Finding} {f : Finding}

/-- Objects that are reported unless they are in order have findings exactly if they are not. -/
theorem mem_reportedUnless {α : Type} {text : α → Text} {inOrder : α → Bool}
    {finding : α → Finding} {xs : List α} :
    f ∈ ((sortByText text xs).filterMap fun x => if inOrder x then none else some (finding x)) ↔
      ∃ x ∈ xs, inOrder x = false ∧ f = finding x := by
  simp only [List.mem_filterMap, sortByText, mem_sortBy]
  constructor
  · rintro ⟨x, hx, hf⟩
    cases horder : inOrder x with
    | true => simp [horder] at hf
    | false =>
      simp only [horder, Bool.false_eq_true, if_false, Option.some.injEq] at hf
      exact ⟨x, hx, horder, hf.symm⟩
  · rintro ⟨x, hx, horder, rfl⟩
    exact ⟨x, hx, by simp [horder]⟩

/-- The invalid indexes are reported. -/
theorem mem_invalidIndexes (h : invalidIndexes.run s t = .ok found) :
    f ∈ found ↔ ∃ index ∈ s.indexes, index.isValid = false ∧ f = invalidIndexFinding index := by
  cases h
  exact mem_reportedUnless

/-- The tables without a primary key are reported. -/
theorem mem_tablesWithoutPrimaryKey (h : tablesWithoutPrimaryKey.run s t = .ok found) :
    f ∈ found ↔ ∃ table ∈ s.tables, hasPrimaryKey s table = false ∧
      f = missingPrimaryKeyFinding table := by
  cases h
  exact mem_reportedUnless

/-- The constraints that were never validated are reported. -/
theorem mem_notValidConstraints (h : notValidConstraints.run s t = .ok found) :
    f ∈ found ↔ ∃ con ∈ s.constraints, con.validated = false ∧
      f = notValidConstraintFinding con := by
  cases h
  exact mem_reportedUnless

/-- An index is reported as unused on evidence only. -/
theorem mem_unusedReport {index : Index} {report : List Finding}
    (h : unusedReport s t index = .ok report) : f ∈ report ↔ ∃ table scans,
      unusedEvidence? s t index = .ok (some (table, scans)) ∧
        unusedIndexFinding index table scans = .ok f := by
  obtain ⟨evidence, hevidence, h⟩ := Traversal.bind_eq_ok.1 h
  rw [hevidence]
  cases evidence with
  | none =>
    cases Traversal.pure_eq_ok.1 h
    simp
  | some evidence =>
    obtain ⟨g, hg, h⟩ := Traversal.bind_eq_ok.1 h
    cases Traversal.pure_eq_ok.1 h
    rw [List.mem_singleton]
    constructor
    · rintro rfl
      exact ⟨evidence.1, evidence.2, rfl, hg⟩
    · rintro ⟨table, scans, heq, hf⟩
      cases heq
      exact Except.ok.inj (hf.symm.trans hg)

/-- The indexes with evidence of disuse are reported. -/
theorem mem_unusedIndexes (h : unusedIndexes.run s t = .ok found) :
    f ∈ found ↔ ∃ index ∈ s.indexes, ∃ table scans,
      unusedEvidence? s t index = .ok (some (table, scans)) ∧
        unusedIndexFinding index table scans = .ok f := by
  rw [Traversal.mem_gathered_iff h fun index _ report hreport => mem_unusedReport hreport]
  simp only [sortByText, mem_sortBy]

/-- What a verdict gives reason to report: that the estimate is no ratio, or that it is too
high. -/
def BloatVerdict.Reports (skipped : Binary64 → Finding) (finding : Binary64 → Except Fault Finding)
    (f : Finding) : BloatVerdict → Prop
  | .acceptable => False
  | .outOfRange ratio => f = skipped ratio
  | .bloated ratio => finding ratio = .ok f

/-- A relation is reported for what the verdict about it gives reason to. -/
theorem mem_bloatReport {judged : Except Fault BloatVerdict} {skipped : Binary64 → Finding}
    {finding : Binary64 → Except Fault Finding} {report : List Finding}
    (h : (do
      match ← judged with
      | .acceptable => return []
      | .outOfRange ratio => return [skipped ratio]
      | .bloated ratio => return [← finding ratio]) = Except.ok report) :
    f ∈ report ↔ ∃ verdict, judged = .ok verdict ∧ verdict.Reports skipped finding f := by
  obtain ⟨verdict, hverdict, h⟩ := Traversal.bind_eq_ok.1 h
  have hsame : (∃ other, judged = .ok other ∧ other.Reports skipped finding f) ↔
      verdict.Reports skipped finding f := by
    simp [hverdict]
  rw [hsame]
  cases verdict with
  | acceptable =>
    cases Traversal.pure_eq_ok.1 h
    simp [BloatVerdict.Reports]
  | outOfRange ratio =>
    cases Traversal.pure_eq_ok.1 h
    exact List.mem_singleton
  | bloated ratio =>
    obtain ⟨g, hg, h⟩ := Traversal.bind_eq_ok.1 h
    cases Traversal.pure_eq_ok.1 h
    rw [List.mem_singleton, BloatVerdict.Reports, hg, Except.ok.injEq]
    exact eq_comm

/-- The indexes with an estimate that is no ratio or too high are reported. -/
theorem mem_bloatedIndexes (h : bloatedIndexes.run s t = .ok found) :
    f ∈ found ↔ ∃ index ∈ s.indexes, ∃ verdict,
      bloatVerdict t index.sizeBytes index.bloatRatio = .ok verdict ∧
        verdict.Reports (fun ratio => bloatedIndexesLabel.cannotEvaluate index.qualifiedName
          (bloatOutOfRange ratio)) (bloatedIndexFinding index) f := by
  rw [Traversal.mem_gathered_iff h fun index _ report hreport => mem_bloatReport hreport]
  simp only [sortByText, mem_sortBy]

/-- The tables with an estimate that is no ratio or too high are reported. -/
theorem mem_bloatedTables (h : bloatedTables.run s t = .ok found) :
    f ∈ found ↔ ∃ table ∈ s.tables, ∃ verdict,
      bloatVerdict t table.sizeBytes table.bloatRatio = .ok verdict ∧
        verdict.Reports (fun ratio => bloatedTablesLabel.cannotEvaluate table.qualifiedName
          (bloatOutOfRange ratio)) (bloatedTableFinding table) f := by
  rw [Traversal.mem_gathered_iff h fun table _ report hreport => mem_bloatReport hreport]
  simp only [sortByText, mem_sortBy]

/-- What a foreign key gives reason to report: that it has no columns, or that no index covers
them. -/
def Constraint.ReportsCover (s : Snapshot) (f : Finding) (key : Constraint) : Prop :=
  (key.columns = [] ∧ f = foreignKeysWithoutIndexLabel.cannotEvaluate key.qualifiedName
    "foreign key has no columns") ∨
  (key.columns ≠ [] ∧ isCovered s key = .ok false ∧ ∃ columns,
    Value.joined key.columns = .ok columns ∧
      f = uncoveredKeyFinding s key columns key.refQualifiedName)

/-- A foreign key is reported for what it gives reason to. -/
theorem mem_coverReport {key : Constraint} {report : List Finding}
    (h : coverReport s key = .ok report) : f ∈ report ↔ key.ReportsCover s f := by
  unfold coverReport at h
  by_cases hempty : key.columns = []
  · simp only [hempty, List.isEmpty_nil, if_true] at h
    cases Traversal.pure_eq_ok.1 h
    simp [Constraint.ReportsCover, hempty]
  · rw [if_neg (by simpa using hempty)] at h
    obtain ⟨covered, hcovered, h⟩ := Traversal.bind_eq_ok.1 h
    cases covered with
    | true =>
      cases Traversal.pure_eq_ok.1 h
      simp [Constraint.ReportsCover, hempty, hcovered]
    | false =>
      obtain ⟨columns, hcolumns, h⟩ := Traversal.bind_eq_ok.1 h
      obtain ⟨reference, hreference, h⟩ := Traversal.bind_eq_ok.1 h
      cases Traversal.pure_eq_ok.1 h
      rw [key.eq_refQualifiedName_of_writtenReference hreference]
      simp [Constraint.ReportsCover, hempty, hcovered, hcolumns]

/-- The foreign keys that no index covers are reported. -/
theorem mem_foreignKeysWithoutIndex (h : foreignKeysWithoutIndex.run s t = .ok found) :
    f ∈ found ↔ ∃ key ∈ s.constraints, key.kind = .foreignKey ∧ key.ReportsCover s f := by
  rw [Traversal.mem_gathered_iff h fun key _ report hreport => mem_coverReport hreport]
  simp only [sortByText, mem_sortBy, List.mem_filter, decide_eq_true_eq, and_assoc]

/-- What a sequence gives reason to report: that it cannot be judged, or that what is left of
it is too little. -/
def Sequence.ReportsRange (t : Thresholds) (f : Finding) (seq : Sequence) : Prop :=
  (seq.increment = 0 ∧
    f = sequenceOverflowLabel.cannotEvaluate seq.qualifiedName "increment is zero") ∨
  (seq.increment ≠ 0 ∧ seq.room? = .ok none ∧
    f = sequenceOverflowLabel.cannotEvaluate seq.qualifiedName "sequence range is empty") ∨
  (seq.increment ≠ 0 ∧ ∃ room, seq.room? = .ok (some room) ∧
    (Value.float room.share).compare .atLeast t.sequenceRemainingRatio = .ok false ∧
      sequenceFinding seq room = .ok f)

/-- A sequence that stops at its end and has a position is reported for what it gives reason
to. -/
theorem mem_sequenceReport {seq : Sequence} {report : List Finding}
    (h : sequenceReport t seq = .ok report) :
    f ∈ report ↔ (seq.cycle = false ∧ seq.lastValue ≠ .null) ∧ seq.ReportsRange t f := by
  unfold sequenceReport at h
  by_cases hidle : seq.cycle = false ∧ seq.lastValue ≠ .null
  · rw [if_neg (by simp [hidle.1, hidle.2])] at h
    by_cases hzero : seq.increment = 0
    · rw [if_pos hzero] at h
      cases h
      simp [Sequence.ReportsRange, hidle, hzero]
    · rw [if_neg hzero] at h
      obtain ⟨room?, hroom, h⟩ := Traversal.bind_eq_ok.1 h
      cases room? with
      | none =>
        cases Traversal.pure_eq_ok.1 h
        simp [Sequence.ReportsRange, hidle, hzero, hroom]
      | some room =>
        obtain ⟨enough, henough, h⟩ := Traversal.bind_eq_ok.1 h
        cases enough with
        | true =>
          cases Traversal.pure_eq_ok.1 h
          simp [Sequence.ReportsRange, hidle, hzero, hroom, henough]
        | false =>
          obtain ⟨g, hg, h⟩ := Traversal.bind_eq_ok.1 h
          cases Traversal.pure_eq_ok.1 h
          simp [Sequence.ReportsRange, hidle, hzero, hroom, henough, hg, eq_comm]
  · have hskipped : (seq.cycle || decide (seq.lastValue = .null)) = true := by
      by_contra hneither
      simp only [Bool.or_eq_true, decide_eq_true_eq, not_or, Bool.not_eq_true] at hneither
      exact hidle hneither
    rw [if_pos hskipped] at h
    cases h
    simp [hidle]

/-- The sequences that run out are reported. -/
theorem mem_sequenceOverflow (h : sequenceOverflow.run s t = .ok found) :
    f ∈ found ↔ ∃ seq ∈ s.sequences,
      (seq.cycle = false ∧ seq.lastValue ≠ .null) ∧ seq.ReportsRange t f := by
  rw [Traversal.mem_gathered_iff h fun seq _ report hreport => mem_sequenceReport hreport]
  simp only [sortByText, mem_sortBy]

/-! ## Findings about one index -/

/-- What a finding about one index says. -/
structure Finding.ReportsIndex (f : Finding) (label : CheckLabel) (severity : Severity)
    (index : Index) : Prop where
  /-- The urgency is that of the check. -/
  severity : f.severity = severity
  /-- The finding is one of the check. -/
  checkName : f.checkName = label.name
  /-- The index is the only object named. -/
  objects : f.objects = [index.qualifiedName]
  /-- The schema recorded is that of the index. -/
  schema : f.metadata.get "schema" = index.tableSchema
  /-- The name recorded is that of the index. -/
  name : f.metadata.get "index" = index.name

/-- A name below its schema has a point in it. -/
theorem point_mem_qualify (schema name : Value) :
    CodePoint.char '.' ∈ (qualify schema name).points := by
  change CodePoint.char '.' ∈ (schema.display.points ++ ("." : Text).points) ++ name.display.points
  exact List.mem_append_left _ (List.mem_append_right _ (by decide))

/-- A finding that is mainly about one object names this object. -/
theorem affectedObjects_qualify (schema name : Value) :
    affectedObjects (qualify schema name) [] = [qualify schema name] := by
  have hne : qualify schema name ≠ "" := by
    intro h
    have hpoint := point_mem_qualify schema name
    rw [h] at hpoint
    exact absurd hpoint (by decide)
  simp [affectedObjects, hne]

/-- A finding that is mainly about an index names the index. -/
theorem affectedObjects_index (index : Index) :
    affectedObjects index.qualifiedName [] = [index.qualifiedName] :=
  affectedObjects_qualify index.tableSchema index.name

theorem reportsIndex_of_invalidIndexFinding (index : Index) :
    (invalidIndexFinding index).ReportsIndex invalidIndexesLabel .high index :=
  ⟨rfl, rfl, affectedObjects_index index, rfl, rfl⟩

theorem reportsIndex_of_unusedIndexFinding {index : Index} {table : Table} {scans : Int}
    (h : unusedIndexFinding index table scans = .ok f) :
    f.ReportsIndex unusedIndexesLabel .warning index := by
  obtain ⟨indexSize, -, h⟩ := Traversal.bind_eq_ok.1 h
  obtain ⟨scanCount, -, h⟩ := Traversal.bind_eq_ok.1 h
  obtain ⟨tableSize, -, h⟩ := Traversal.bind_eq_ok.1 h
  cases Traversal.pure_eq_ok.1 h
  exact ⟨rfl, rfl, affectedObjects_index index, rfl, rfl⟩

theorem reportsIndex_of_bloatedIndexFinding {index : Index} {ratio : Binary64}
    (h : bloatedIndexFinding index ratio = .ok f) :
    f.ReportsIndex bloatedIndexesLabel .warning index := by
  obtain ⟨wasted, -, h⟩ := Traversal.bind_eq_ok.1 h
  obtain ⟨wastedSize, -, h⟩ := Traversal.bind_eq_ok.1 h
  obtain ⟨size, -, h⟩ := Traversal.bind_eq_ok.1 h
  cases Traversal.pure_eq_ok.1 h
  exact ⟨rfl, rfl, affectedObjects_index index, rfl, rfl⟩

/-! ## The name of the check -/

/-- A finding made after its texts were put together carries the name it was given. -/
theorem checkName_of_bind {α : Type} {x : Except Fault α} {make : α → Except Fault Finding}
    {name : String} (h : (x >>= make) = .ok f)
    (hmake : ∀ a, make a = .ok f → f.checkName = name) : f.checkName = name := by
  obtain ⟨a, -, h⟩ := Traversal.bind_eq_ok.1 h
  exact hmake a h

/-- A verdict is reported under the name that its two findings carry. -/
theorem BloatVerdict.Reports.checkName_eq {verdict : BloatVerdict} {skipped : Binary64 → Finding}
    {finding : Binary64 → Except Fault Finding} {name : String}
    (h : verdict.Reports skipped finding f) (hskipped : ∀ ratio, (skipped ratio).checkName = name)
    (hfinding : ∀ ratio, finding ratio = .ok f → f.checkName = name) : f.checkName = name := by
  cases verdict with
  | acceptable => exact h.elim
  | outOfRange ratio => exact h ▸ hskipped ratio
  | bloated ratio => exact hfinding ratio h

theorem bloatedTableFinding_checkName {table : Table} {ratio : Binary64}
    (h : bloatedTableFinding table ratio = .ok f) : f.checkName = bloatedTablesLabel.name := by
  refine checkName_of_bind h fun wasted h => ?_
  refine checkName_of_bind h fun wastedSize h => ?_
  refine checkName_of_bind h fun size h => ?_
  cases Traversal.pure_eq_ok.1 h
  rfl

theorem sequenceFinding_checkName {seq : Sequence} {room : SequenceRoom}
    (h : sequenceFinding seq room = .ok f) : f.checkName = sequenceOverflowLabel.name := by
  refine checkName_of_bind h fun dataType h => ?_
  refine checkName_of_bind h fun position h => ?_
  refine checkName_of_bind h fun lower h => ?_
  refine checkName_of_bind h fun upper h => ?_
  refine checkName_of_bind h fun remaining h => ?_
  refine checkName_of_bind h fun text h => ?_
  cases Traversal.pure_eq_ok.1 h
  rfl

/-- Every finding of a built-in check carries the name of that check. -/
theorem checkName_of_mem_run {check : Check} (hcheck : check ∈ builtinChecks)
    (h : check.run s t = .ok found) (hf : f ∈ found) : f.checkName = check.name := by
  simp only [builtinChecks, List.mem_cons, List.not_mem_nil, or_false] at hcheck
  rcases hcheck with rfl | rfl | rfl | rfl | rfl | rfl | rfl | rfl | rfl
  · obtain ⟨index, -, -, rfl⟩ := (mem_invalidIndexes h).1 hf
    rfl
  · rcases (mem_duplicatedIndexes h).1 hf with ⟨index, -, -, rfl⟩ | hpair
    · rfl
    · obtain ⟨a, b, redundancy, hab, -, hfinding⟩ := hpair
      exact (reportsPair_of_redundancyFinding hab.le hfinding).checkName
  · obtain ⟨index, -, table, scans, -, hfinding⟩ := (mem_unusedIndexes h).1 hf
    exact (reportsIndex_of_unusedIndexFinding hfinding).checkName
  · obtain ⟨index, -, verdict, -, hreports⟩ := (mem_bloatedIndexes h).1 hf
    exact hreports.checkName_eq (fun _ => rfl) fun ratio hfinding =>
      (reportsIndex_of_bloatedIndexFinding hfinding).checkName
  · obtain ⟨table, -, -, rfl⟩ := (mem_tablesWithoutPrimaryKey h).1 hf
    rfl
  · obtain ⟨table, -, verdict, -, hreports⟩ := (mem_bloatedTables h).1 hf
    exact hreports.checkName_eq (fun _ => rfl) fun ratio hfinding =>
      bloatedTableFinding_checkName hfinding
  · obtain ⟨key, -, -, ⟨-, rfl⟩ | ⟨-, -, columns, -, rfl⟩⟩ := (mem_foreignKeysWithoutIndex h).1 hf
    · rfl
    · rfl
  · obtain ⟨con, -, -, rfl⟩ := (mem_notValidConstraints h).1 hf
    rfl
  · obtain ⟨seq, -, -, hreports⟩ := (mem_sequenceOverflow h).1 hf
    rcases hreports with ⟨-, rfl⟩ | ⟨-, -, rfl⟩ | ⟨-, room, -, -, hfinding⟩
    · rfl
    · rfl
    · exact sequenceFinding_checkName hfinding

end CatalogHealth
