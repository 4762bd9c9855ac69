import CatalogHealth.Proofs.CheckFindings
import CatalogHealth.Proofs.Range

/-!
# When a check runs to its end

A check ends with a fault if one of the objects that it judges makes it compare, count or write
what cannot be compared, counted or written. For each check but the one for sequences this module
says of which objects this is true, with thresholds that were accepted. Which findings are reported
is outside the scope of this module.
-/

namespace CatalogHealth

variable {s : Snapshot} {t : Thresholds} {index : Index} {table : Table} {key : Constraint}

/-! ## Accepted thresholds -/

namespace Thresholds

/-- An accepted threshold is a number. -/
theorem exists_number_of_checkNumber {name : String} {value : Value}
    (h : checkNumber name value = .ok ()) : ∃ n, value.number? = some n := by
  cases value with
  | int n => exact ⟨_, rfl⟩
  | float x => exact ⟨_, rfl⟩
  | null | bool _ | text _ | list _ | map _ =>
    obtain ⟨quoted, -, h⟩ := Traversal.bind_eq_ok.1 h
    cases h

/-- What accepted thresholds are. -/
structure AreNumbers (t : Thresholds) : Prop where
  /-- The share of wasted space is a number. -/
  bloatRatio : ∃ n, t.bloatRatio.number? = some n
  /-- The size below which bloat does not matter is a number. -/
  bloatMinSize : ∃ n, t.bloatMinSize.number? = some n
  /-- The number of scans is a number. -/
  unusedIndexMaxScans : ∃ n, t.unusedIndexMaxScans.number? = some n
  /-- The size below which an unused index does not matter is a number. -/
  unusedIndexMinTableSize : ∃ n, t.unusedIndexMinTableSize.number? = some n
  /-- The share of remaining values is a number. -/
  sequenceRemainingRatio : ∃ n, t.sequenceRemainingRatio.number? = some n

theorem areNumbers_of_validate (h : t.validate = .ok ()) : t.AreNumbers := by
  obtain ⟨_, hratio, h⟩ := Traversal.bind_eq_ok.1 h
  obtain ⟨_, hsize, h⟩ := Traversal.bind_eq_ok.1 h
  obtain ⟨_, hscans, h⟩ := Traversal.bind_eq_ok.1 h
  obtain ⟨_, htable, h⟩ := Traversal.bind_eq_ok.1 h
  obtain ⟨_, hrest, -⟩ := Traversal.bind_eq_ok.1 h
  exact ⟨exists_number_of_checkNumber hratio, exists_number_of_checkNumber hsize,
    exists_number_of_checkNumber hscans, exists_number_of_checkNumber htable,
    exists_number_of_checkNumber hrest⟩

end Thresholds

/-- A value is written exactly if it can be written. -/
theorem Value.exists_shown_iff {value : Value} :
    (∃ shown, value.shown = .ok shown) ↔ value.isWritable = true :=
  Traversal.exists_ite_iff

/-! ## Unused indexes -/

/-- With accepted thresholds it can be told whether an index is unused. -/
theorem exists_unusedEvidence (ht : t.AreNumbers) (index : Index) :
    ∃ evidence, unusedEvidence? s t index = .ok evidence := by
  obtain ⟨least, hleast⟩ := ht.unusedIndexMinTableSize
  obtain ⟨most, hmost⟩ := ht.unusedIndexMaxScans
  unfold unusedEvidence?
  split
  · exact ⟨none, rfl⟩
  · split
    · rename_i scans table _ _
      have hsize : (Value.int table.sizeBytes).compare .less t.unusedIndexMinTableSize = _ :=
        Value.compare_numbers rfl hleast
      have hscans : (Value.int scans).compare .greater t.unusedIndexMaxScans = _ :=
        Value.compare_numbers rfl hmost
      rw [hsize, hscans]
      cases Comparison.less.ofNumbers (.int table.sizeBytes) least with
      | true => exact ⟨none, rfl⟩
      | false =>
        cases Comparison.greater.ofNumbers (.int scans) most with
        | true => exact ⟨none, rfl⟩
        | false => exact ⟨some (table, scans), rfl⟩
    · exact ⟨none, rfl⟩

/-- The finding about an unused index shows two sizes and the number of scans. -/
theorem exists_unusedIndexFinding_iff {scans : Int} :
    (∃ f, unusedIndexFinding index table scans = .ok f) ↔ Binary64.InRange index.sizeBytes ∧
      (Value.int scans).isWritable = true ∧ Binary64.InRange table.sizeBytes := by
  rw [← exists_wholeByteSize_iff, ← Value.exists_shown_iff, ← exists_wholeByteSize_iff]
  constructor
  · rintro ⟨f, h⟩
    obtain ⟨indexSize, hindex, h⟩ := Traversal.bind_eq_ok.1 h
    obtain ⟨scanCount, hscans, h⟩ := Traversal.bind_eq_ok.1 h
    obtain ⟨tableSize, htable, -⟩ := Traversal.bind_eq_ok.1 h
    exact ⟨⟨_, hindex⟩, ⟨_, hscans⟩, ⟨_, htable⟩⟩
  · rintro ⟨⟨indexSize, hindex⟩, ⟨scanCount, hscans⟩, ⟨tableSize, htable⟩⟩
    exact ⟨_, Traversal.bind_eq_ok.2 ⟨_, hindex, Traversal.bind_eq_ok.2
      ⟨_, hscans, Traversal.bind_eq_ok.2 ⟨_, htable, rfl⟩⟩⟩⟩

/-- Whether an index, if it is unused, can be reported. -/
def Index.UseJudgeable (s : Snapshot) (t : Thresholds) (index : Index) : Prop :=
  ∀ table scans, unusedEvidence? s t index = .ok (some (table, scans)) →
    Binary64.InRange index.sizeBytes ∧ (Value.int scans).isWritable = true ∧
      Binary64.InRange table.sizeBytes

theorem exists_unusedReport_iff (ht : t.AreNumbers) :
    (∃ report, unusedReport s t index = .ok report) ↔ index.UseJudgeable s t := by
  obtain ⟨evidence, hevidence⟩ := exists_unusedEvidence (s := s) ht index
  simp only [unusedReport, Index.UseJudgeable, Traversal.exists_bind_iff, hevidence,
    Except.ok.injEq, exists_eq_left', ← exists_unusedIndexFinding_iff]
  cases evidence with
  | none => exact iff_of_true ⟨[], rfl⟩ fun table scans h => by cases h
  | some evidence =>
    simp only [Traversal.exists_bind_iff, Traversal.exists_pure_iff, and_true]
    constructor
    · rintro h table scans heq
      cases heq
      exact h
    · exact fun h => h evidence.1 evidence.2 rfl

theorem exists_unusedIndexes_iff (ht : t.AreNumbers) :
    (∃ found, unusedIndexes.run s t = .ok found) ↔
      ∀ index ∈ s.indexes, index.UseJudgeable s t := by
  refine Traversal.exists_gathered.trans ?_
  simp only [sortByText, mem_sortBy, exists_unusedReport_iff ht]

/-! ## Bloat -/

/-- With accepted thresholds there is a verdict about every estimate. -/
theorem exists_bloatVerdict (ht : t.AreNumbers) (size : Int) (estimate : Option Binary64) :
    ∃ verdict, bloatVerdict t size estimate = .ok verdict := by
  obtain ⟨share, hshare⟩ := ht.bloatRatio
  obtain ⟨least, hleast⟩ := ht.bloatMinSize
  cases estimate with
  | none => exact ⟨.acceptable, rfl⟩
  | some ratio =>
    have hratio : (Value.float ratio).compare .less t.bloatRatio = _ :=
      Value.compare_numbers rfl hshare
    have hsize : (Value.int size).compare .less t.bloatMinSize = _ :=
      Value.compare_numbers rfl hleast
    simp only [bloatVerdict, hratio, hsize]
    cases isRatio ratio with
    | false => exact ⟨.outOfRange ratio, rfl⟩
    | true =>
      cases Comparison.less.ofNumbers (.float ratio) share with
      | true => exact ⟨.acceptable, rfl⟩
      | false =>
        cases Comparison.less.ofNumbers (.int size) least with
        | true => exact ⟨.acceptable, rfl⟩
        | false => exact ⟨.bloated ratio, rfl⟩

/-- A share of the space of a relation of some size reaches both thresholds. -/
structure Thresholds.ReachedBy (t : Thresholds) (size : Int) (ratio : Binary64) : Prop where
  /-- The share is not too low. -/
  share : (Value.float ratio).compare .less t.bloatRatio = .ok false
  /-- The relation is not too small. -/
  size : (Value.int size).compare .less t.bloatMinSize = .ok false

/-- A ratio that reaches both thresholds is too high. -/
theorem bloatVerdict_of_reachedBy {size : Int} {ratio : Binary64} (hratio : isRatio ratio = true)
    (h : t.ReachedBy size ratio) : bloatVerdict t size (some ratio) = .ok (.bloated ratio) := by
  rw [bloatVerdict, hratio, h.share, h.size]
  rfl

/-- An estimate is acceptable, it is no ratio, or it is a ratio that reaches both thresholds. -/
theorem bloatVerdict_cases {size : Int} {estimate : Option Binary64} {verdict : BloatVerdict}
    (h : bloatVerdict t size estimate = .ok verdict) :
    verdict = .acceptable ∨ ∃ ratio, estimate = some ratio ∧
      (verdict = .outOfRange ratio ∧ isRatio ratio = false ∨
        verdict = .bloated ratio ∧ isRatio ratio = true ∧ t.ReachedBy size ratio) := by
  cases estimate with
  | none =>
    cases h
    exact .inl rfl
  | some ratio =>
    rw [bloatVerdict] at h
    cases hratio : isRatio ratio with
    | false =>
      rw [hratio] at h
      cases h
      exact .inr ⟨ratio, rfl, .inl ⟨rfl, hratio⟩⟩
    | true =>
      rw [hratio] at h
      obtain ⟨low, hlow, h⟩ := Traversal.bind_eq_ok.1 h
      cases low with
      | true => exact .inl (Traversal.pure_eq_ok.1 h).symm
      | false =>
        obtain ⟨small, hsmall, h⟩ := Traversal.bind_eq_ok.1 h
        cases small with
        | true => exact .inl (Traversal.pure_eq_ok.1 h).symm
        | false =>
          have hverdict := (Traversal.pure_eq_ok.1 h).symm
          exact .inr ⟨ratio, rfl, .inr ⟨hverdict, hratio, hlow, hsmall⟩⟩

/-- Only a share between zero and one is too high. -/
theorem isRatio_of_bloated {size : Int} {estimate : Option Binary64} {ratio : Binary64}
    (h : bloatVerdict t size estimate = .ok (.bloated ratio)) : isRatio ratio = true := by
  obtain hverdict | ⟨given, -, ⟨hverdict, -⟩ | ⟨hverdict, hgiven, -⟩⟩ := bloatVerdict_cases h
  · cases hverdict
  · cases hverdict
  · cases hverdict
    exact hgiven

/-- The sizes in a finding about bloat can be shown exactly if that of the relation can. -/
theorem exists_bloatSizes_iff {size : Int} {ratio : Binary64} (hratio : isRatio ratio = true) :
    (∃ wasted, wastedBytes size ratio = .ok wasted ∧ ∃ wastedSize,
      wholeByteSize wasted = .ok wastedSize ∧ ∃ shown, wholeByteSize size = .ok shown) ↔
        Binary64.InRange size := by
  constructor
  · rintro ⟨wasted, -, wastedSize, -, hshown⟩
    exact exists_wholeByteSize_iff.1 hshown
  · intro hsize
    obtain ⟨wasted, hwasted, hrange⟩ := exists_wastedBytes hratio hsize
    obtain ⟨wastedSize, hwastedSize⟩ := exists_wholeByteSize_iff.2 hrange
    exact ⟨wasted, hwasted, wastedSize, hwastedSize, exists_wholeByteSize_iff.2 hsize⟩

theorem exists_bloatedIndexFinding_iff {ratio : Binary64} (hratio : isRatio ratio = true) :
    (∃ f, bloatedIndexFinding index ratio = .ok f) ↔ Binary64.InRange index.sizeBytes := by
  rw [← exists_bloatSizes_iff hratio, bloatedIndexFinding]
  simp only [Traversal.exists_bind_iff, Traversal.exists_pure_iff, and_true]

theorem exists_bloatedTableFinding_iff {ratio : Binary64} (hratio : isRatio ratio = true) :
    (∃ f, bloatedTableFinding table ratio = .ok f) ↔ Binary64.InRange table.sizeBytes := by
  rw [← exists_bloatSizes_iff hratio, bloatedTableFinding]
  simp only [Traversal.exists_bind_iff, Traversal.exists_pure_iff, and_true]

/-- Whether a relation, if it is bloated, can be reported. -/
def BloatJudgeable (t : Thresholds) (size : Int) (estimate : Option Binary64) : Prop :=
  ∀ ratio, bloatVerdict t size estimate = .ok (.bloated ratio) → Binary64.InRange size

/-- A report about an estimate can be given exactly if the finding about a share that is too high
can. -/
theorem exists_bloatReport_iff (ht : t.AreNumbers) {size : Int} {estimate : Option Binary64}
    {skipped : Binary64 → Finding} {finding : Binary64 → Except Fault Finding}
    (hfinding : ∀ ratio, isRatio ratio = true →
      ((∃ f, finding ratio = .ok f) ↔ Binary64.InRange size)) :
    (∃ report, (do
      match ← bloatVerdict t size estimate with
      | .acceptable => return []
      | .outOfRange ratio => return [skipped ratio]
      | .bloated ratio => return [← finding ratio]) = Except.ok report) ↔
        BloatJudgeable t size estimate := by
  obtain ⟨verdict, hverdict⟩ := exists_bloatVerdict ht size estimate
  simp only [Traversal.exists_bind_iff, BloatJudgeable, hverdict, Except.ok.injEq, exists_eq_left']
  cases verdict with
  | acceptable => exact iff_of_true ⟨[], rfl⟩ fun ratio h => by cases h
  | outOfRange ratio => exact iff_of_true ⟨[skipped ratio], rfl⟩ fun other h => by cases h
  | bloated ratio =>
    simp only [Traversal.exists_bind_iff, Traversal.exists_pure_iff, and_true]
    rw [hfinding ratio (isRatio_of_bloated hverdict)]
    exact ⟨fun h _ _ => h, fun h => h ratio rfl⟩

theorem exists_bloatedIndexes_iff (ht : t.AreNumbers) :
    (∃ found, bloatedIndexes.run s t = .ok found) ↔
      ∀ index ∈ s.indexes, BloatJudgeable t index.sizeBytes index.bloatRatio := by
  refine Traversal.exists_gathered.trans ?_
  simp only [sortByText, mem_sortBy]
  exact forall₂_congr fun index _ =>
    exists_bloatReport_iff ht fun ratio hratio => exists_bloatedIndexFinding_iff hratio

theorem exists_bloatedTables_iff (ht : t.AreNumbers) :
    (∃ found, bloatedTables.run s t = .ok found) ↔
      ∀ table ∈ s.tables, BloatJudgeable t table.sizeBytes table.bloatRatio := by
  refine Traversal.exists_gathered.trans ?_
  simp only [sortByText, mem_sortBy]
  exact forall₂_congr fun table _ =>
    exists_bloatReport_iff ht fun ratio hratio => exists_bloatedTableFinding_iff hratio

/-! ## Redundant indexes -/

/-- Whether the condition of an index can be read: it is a text, or there is none. -/
def Index.ConditionReadable (index : Index) : Prop :=
  index.predicate.text?.isSome = true ∨ index.predicate.truthy = false

theorem Index.exists_condition_iff :
    (∃ condition, index.condition = .ok condition) ↔ index.ConditionReadable := by
  unfold Index.condition Index.ConditionReadable
  split
  · rename_i condition hpredicate
    exact iff_of_true ⟨_, rfl⟩ (.inl (by rw [hpredicate]; rfl))
  · rename_i htext
    have hnone : index.predicate.text?.isSome = false := by
      cases hpredicate : index.predicate with
      | text condition => exact absurd hpredicate (htext condition)
      | null | bool _ | int _ | float _ | list _ | map _ => rfl
    cases htruthy : index.predicate.truthy with
    | true => exact iff_of_false (by rintro ⟨condition, ⟨⟩⟩) (by simp [hnone])
    | false => exact iff_of_true ⟨"", rfl⟩ (.inr rfl)

theorem Index.exists_writtenSignature_iff :
    (∃ signature, index.writtenSignature = .ok signature) ↔
      index.keys.all IndexKey.isWritable = true :=
  Traversal.exists_ite_iff

/-- Whether two indexes can be compared, and the superfluous one, if there is one, be reported. -/
structure PairJudgeable (a b : Index) : Prop where
  /-- If the methods are equal, the conditions can be read. -/
  conditions : a.method.equals b.method = true → a.ConditionReadable ∧ b.ConditionReadable
  /-- If the conditions are equal too, the signatures can be written. -/
  signatures : a.method.equals b.method = true → a.condition = b.condition →
    a.keys.all IndexKey.isWritable = true ∧ b.keys.all IndexKey.isWritable = true
  /-- The size of an index that is superfluous then is in range. -/
  size : a.method.equals b.method = true → a.condition = b.condition →
    ∀ redundancy, signatureRedundancy? a b = some redundancy →
      ∀ redundant, redundancy.redundant? = some redundant → Binary64.InRange redundant.sizeBytes

/-- A redundancy is reported with the size of the superfluous index. -/
theorem exists_redundancyFinding_iff {a b : Index} {text : Text} {redundancy : Redundancy} :
    (∃ f, redundancyFinding text a b redundancy = .ok f) ↔
      ∀ redundant, redundancy.redundant? = some redundant →
        Binary64.InRange redundant.sizeBytes := by
  cases redundancy with
  | bothNeeded => exact iff_of_true ⟨_, rfl⟩ fun redundant h => by cases h
  | identical redundant kept | beginning redundant kept =>
    simp only [redundancyFinding, superfluousFinding, Traversal.exists_bind_iff,
      Traversal.exists_pure_iff, and_true, exists_wholeByteSize_iff, Redundancy.redundant?,
      Option.some.injEq, forall_eq']

/-- Two indexes are reported on if it can be told how one makes the other superfluous. -/
theorem exists_redundancyReport_iff_redundancy {a b : Index} {text : Text} :
    (∃ report, redundancyReport text (a, b) = .ok report) ↔
      ∃ answer, redundancy? a b = .ok answer ∧ ∀ redundancy, answer = some redundancy →
        ∀ redundant, redundancy.redundant? = some redundant →
          Binary64.InRange redundant.sizeBytes := by
  simp only [redundancyReport, Traversal.exists_bind_iff]
  refine exists_congr fun answer => and_congr_right fun _ => ?_
  cases answer with
  | none => exact iff_of_true ⟨[], rfl⟩ fun redundancy h => by cases h
  | some redundancy =>
    simp only [Traversal.exists_bind_iff, Traversal.exists_pure_iff, and_true,
      exists_redundancyFinding_iff, Option.some.injEq, forall_eq']

section Conditions

variable {a b : Index}

/-- Indexes with different methods are both needed. -/
theorem redundancy?_of_methods_differ (hmethod : a.method.equals b.method = false) :
    redundancy? a b = .ok none := by
  rw [redundancy?, hmethod]
  rfl

/-- Of indexes with equal methods the conditions are read. -/
theorem conditionReadable_of_redundancy? (hmethod : a.method.equals b.method = true)
    {answer : Option Redundancy} (h : redundancy? a b = .ok answer) :
    a.ConditionReadable ∧ b.ConditionReadable := by
  rw [redundancy?, hmethod] at h
  obtain ⟨first, hfirst, h⟩ := Traversal.bind_eq_ok.1 h
  obtain ⟨second, hsecond, -⟩ := Traversal.bind_eq_ok.1 h
  exact ⟨Index.exists_condition_iff.1 ⟨first, hfirst⟩,
    Index.exists_condition_iff.1 ⟨second, hsecond⟩⟩

/-- Indexes with different conditions are both needed. -/
theorem redundancy?_of_conditions_differ (hmethod : a.method.equals b.method = true)
    {first second : Text} (hfirst : a.condition = .ok first) (hsecond : b.condition = .ok second)
    (hdiffer : first ≠ second) : redundancy? a b = .ok none := by
  simp [redundancy?, hmethod, hfirst, hsecond, hdiffer, bind, Except.bind, pure, Except.pure]

/-- If the methods are equal and the conditions can be read and are equal, the signatures decide,
once they are written. -/
theorem redundancy?_eq_ok_iff (hmethod : a.method.equals b.method = true) {condition : Text}
    (hfirst : a.condition = .ok condition) (hsecond : b.condition = .ok condition)
    {answer : Option Redundancy} : redundancy? a b = .ok answer ↔
      (a.keys.all IndexKey.isWritable = true ∧ b.keys.all IndexKey.isWritable = true) ∧
        signatureRedundancy? a b = answer := by
  have hsteps : redundancy? a b = (do
      discard a.writtenSignature
      discard b.writtenSignature
      return signatureRedundancy? a b) := by
    simp [redundancy?, hmethod, hfirst, hsecond, bind, Except.bind]
  rw [hsteps]
  simp only [Traversal.discard_bind_eq_ok, Traversal.pure_eq_ok,
    Index.exists_writtenSignature_iff, and_assoc]

end Conditions

theorem exists_redundancyReport_iff {a b : Index} {text : Text} :
    (∃ report, redundancyReport text (a, b) = .ok report) ↔ PairJudgeable a b := by
  rw [exists_redundancyReport_iff_redundancy]
  cases hmethod : a.method.equals b.method with
  | false =>
    refine iff_of_true ⟨none, redundancy?_of_methods_differ hmethod, by simp⟩ ?_
    exact ⟨by simp [hmethod], by simp [hmethod], by simp [hmethod]⟩
  | true =>
    by_cases hreadable : a.ConditionReadable ∧ b.ConditionReadable
    · obtain ⟨first, hfirst⟩ := Index.exists_condition_iff.2 hreadable.1
      obtain ⟨second, hsecond⟩ := Index.exists_condition_iff.2 hreadable.2
      by_cases hsame : first = second
      · subst hsame
        simp only [redundancy?_eq_ok_iff hmethod hfirst hsecond, and_assoc, exists_and_left,
          exists_eq_left']
        constructor
        · rintro ⟨hleft, hright, hsize⟩
          exact ⟨fun _ => hreadable, fun _ _ => ⟨hleft, hright⟩, fun _ _ => hsize⟩
        · intro h
          have hequal := hfirst.trans hsecond.symm
          exact ⟨(h.signatures hmethod hequal).1, (h.signatures hmethod hequal).2,
            h.size hmethod hequal⟩
      · have hnone := redundancy?_of_conditions_differ hmethod hfirst hsecond hsame
        have hdiffer : a.condition ≠ b.condition := by
          rw [hfirst, hsecond]
          exact fun h => hsame (Except.ok.inj h)
        refine iff_of_true ⟨none, hnone, by simp⟩ ?_
        exact ⟨fun _ => hreadable, fun _ h => (hdiffer h).elim, fun _ h => (hdiffer h).elim⟩
    · refine iff_of_false ?_ fun h => hreadable (h.conditions hmethod)
      rintro ⟨answer, hanswer, -⟩
      exact hreadable (conditionReadable_of_redundancy? hmethod hanswer)

theorem exists_duplicatedIndexes_iff :
    (∃ found, duplicatedIndexes.run s t = .ok found) ↔
      ∀ a b, s.Compares a b → PairJudgeable a b := by
  simp only [exists_duplicatedIndexes_run, exists_redundancyReport_iff]

/-! ## Foreign keys -/

theorem Value.exists_asMember_iff {value : Value} :
    (∃ member, value.asMember = .ok member) ↔ value.isScalar = true :=
  Traversal.exists_ite_iff

/-- Values can be put in a line with commas exactly if all of them are texts. -/
theorem Value.exists_joined_iff {values : List Value} :
    (∃ line, Value.joined values = .ok line) ↔ ∀ value ∈ values, value.text?.isSome = true := by
  unfold Value.joined
  split
  · rename_i value place hfirst
    have hmem := List.mem_of_find?_eq_some hfirst
    have hnone := List.find?_some hfirst
    refine iff_of_false (by rintro ⟨line, ⟨⟩⟩) fun h => ?_
    have hsome := h value (List.fst_mem_of_mem_zipIdx hmem)
    simp_all
  · rename_i hall
    refine iff_of_true ⟨_, rfl⟩ fun value hvalue => ?_
    obtain ⟨place, hplace⟩ := List.mem_iff_getElem?.1 hvalue
    have hlisted := List.mk_mem_zipIdx_iff_getElem?.2 hplace
    simpa [Option.isSome_iff_ne_none] using List.find?_eq_none.1 hall _ hlisted

/-- Whether the identifier of the referenced table, if there is one, can be written. -/
def Constraint.ReferenceWritable (key : Constraint) : Prop :=
  key.refTable.truthy = true →
    key.targetSchema.isWritable = true ∧ key.refTable.isWritable = true

theorem Constraint.exists_writtenReference_iff :
    (∃ reference, key.writtenReference = .ok reference) ↔ key.ReferenceWritable := by
  unfold Constraint.writtenReference Constraint.ReferenceWritable
  split
  · rename_i h
    refine iff_of_false (by rintro ⟨reference, ⟨⟩⟩) fun hwritable => ?_
    simp_all
  · rename_i h
    refine iff_of_true ⟨_, rfl⟩ fun htruthy => ?_
    simpa [htruthy] using h

/-- Columns are compared with a foreign key if as many of them as it has can be members of a
set. -/
theorem beginsWith_eq_ok_iff {columns path : List Value} {b : Bool} :
    beginsWith columns path = .ok b ↔
      (∀ column ∈ path.take columns.length, column.isScalar = true) ∧
        Value.sameSet (path.take columns.length) columns = b := by
  simp only [beginsWith, Traversal.discard_bind_eq_ok, Traversal.exists_mapM_iff,
    Value.exists_asMember_iff, Traversal.pure_eq_ok]

/-- Whether nothing by which rows of its table can be found begins with the columns of a foreign
key. -/
def Constraint.IsUncovered (s : Snapshot) (key : Constraint) : Prop :=
  ∀ path ∈ accessPaths s key.tableQualifiedName key.columns.length,
    Value.sameSet (path.take key.columns.length) key.columns = false

/-- Whether it can be told if a foreign key is covered, and the key, if it is not, be reported. -/
structure Constraint.CoverJudgeable (s : Snapshot) (key : Constraint) : Prop where
  /-- The columns of the key can be members of a set. -/
  columns_scalar : ∀ column ∈ key.columns, column.isScalar = true
  /-- So can as many columns of all that is looked at before the key is found covered. -/
  leading_scalar : ∀ front path back,
    accessPaths s key.tableQualifiedName key.columns.length = front ++ path :: back →
      (∀ earlier ∈ front, Value.sameSet (earlier.take key.columns.length) key.columns = false) →
        ∀ column ∈ path.take key.columns.length, column.isScalar = true
  /-- The columns of an uncovered key are texts. -/
  columns_text : key.IsUncovered s → ∀ column ∈ key.columns, column.text?.isSome = true
  /-- What an uncovered key refers to can be written. -/
  reference_writable : key.IsUncovered s → key.ReferenceWritable

/-- It can be told if a foreign key is covered as long as columns are compared that can be members
of a set. -/
theorem exists_isCovered_iff : (∃ covered, isCovered s key = .ok covered) ↔
    (∀ column ∈ key.columns, column.isScalar = true) ∧ ∀ front path back,
      accessPaths s key.tableQualifiedName key.columns.length = front ++ path :: back →
        (∀ earlier ∈ front, Value.sameSet (earlier.take key.columns.length) key.columns = false) →
          ∀ column ∈ path.take key.columns.length, column.isScalar = true := by
  rw [← Traversal.exists_anyM_iff (f := beginsWith key.columns) fun path b => beginsWith_eq_ok_iff]
  simp only [isCovered, Traversal.discard_bind_eq_ok, Traversal.exists_mapM_iff,
    Value.exists_asMember_iff, exists_and_left]

/-- A foreign key about which it can be told is covered unless nothing begins with its columns. -/
theorem isCovered_eq_false_iff {covered : Bool} (h : isCovered s key = .ok covered) :
    covered = false ↔ key.IsUncovered s := by
  obtain ⟨-, hsearch⟩ := Traversal.discard_bind_eq_ok.1 h
  cases covered with
  | false =>
    refine iff_of_true rfl fun path hpath => ?_
    exact (beginsWith_eq_ok_iff.1 (Traversal.anyM_eq_false_iff.1 hsearch path hpath)).2
  | true =>
    obtain ⟨path, hpath, hfound⟩ := Traversal.exists_of_anyM_eq_true hsearch
    refine iff_of_false Bool.false_ne_true.symm fun huncovered => ?_
    exact Bool.false_ne_true
      ((huncovered path hpath).symm.trans (beginsWith_eq_ok_iff.1 hfound).2)

/-- The finding about an uncovered key names its columns and what it refers to. -/
theorem exists_uncoveredKeyReport_iff : (∃ report, (do
      let columns ← Value.joined key.columns
      return [uncoveredKeyFinding s key columns (← key.writtenReference)]) =
        (.ok report : Except Fault (List Finding))) ↔
      (∀ column ∈ key.columns, column.text?.isSome = true) ∧ key.ReferenceWritable := by
  simp only [Traversal.exists_bind_iff, Traversal.exists_pure_iff, and_true,
    ← Value.exists_joined_iff, ← Constraint.exists_writtenReference_iff, exists_and_right]

theorem exists_coverReport_iff : (∃ report, coverReport s key = .ok report) ↔
    (key.columns ≠ [] → key.CoverJudgeable s) := by
  unfold coverReport
  by_cases hempty : key.columns = []
  · rw [if_pos (by simp [hempty])]
    exact iff_of_true ⟨_, rfl⟩ fun h => (h hempty).elim
  · rw [if_neg (by simpa using hempty), Traversal.exists_bind_iff, imp_iff_right hempty]
    constructor
    · rintro ⟨covered, hcovered, hreport⟩
      obtain ⟨hcolumns, hleading⟩ := exists_isCovered_iff.1 ⟨covered, hcovered⟩
      have hshown : key.IsUncovered s → (∀ column ∈ key.columns, column.text?.isSome = true) ∧
          key.ReferenceWritable := by
        intro huncovered
        rw [(isCovered_eq_false_iff hcovered).2 huncovered] at hreport
        exact exists_uncoveredKeyReport_iff.1 hreport
      exact ⟨hcolumns, hleading, fun h => (hshown h).1, fun h => (hshown h).2⟩
    · intro h
      obtain ⟨covered, hcovered⟩ := exists_isCovered_iff.2 ⟨h.columns_scalar, h.leading_scalar⟩
      refine ⟨covered, hcovered, ?_⟩
      cases covered with
      | true => exact ⟨[], rfl⟩
      | false =>
        have huncovered := (isCovered_eq_false_iff hcovered).1 rfl
        exact exists_uncoveredKeyReport_iff.2
          ⟨h.columns_text huncovered, h.reference_writable huncovered⟩

theorem exists_foreignKeysWithoutIndex_iff :
    (∃ found, foreignKeysWithoutIndex.run s t = .ok found) ↔ ∀ key ∈ s.constraints,
      key.kind = .foreignKey → key.columns ≠ [] → key.CoverJudgeable s := by
  refine Traversal.exists_gathered.trans ?_
  simp only [sortByText, mem_sortBy, List.mem_filter, decide_eq_true_eq, and_imp,
    exists_coverReport_iff]

end CatalogHealth
