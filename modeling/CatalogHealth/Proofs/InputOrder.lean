import CatalogHealth.Migration.Statement
import CatalogHealth.Proofs.Accounting

/-!
# The order in which objects are given

A snapshot may list its objects in any order. Every built-in check goes through them in the order
of their identifiers, and what it looks up on the way is found under an identifier, so that its
findings and its first fault are the same. Only the search for an index behind a foreign key goes
through a table's indexes as they are given; where column names are texts, no candidate can be at
fault, and the order decides nothing about the answer. Checks other than the built-in ones are
outside the scope of this module.
-/

namespace CatalogHealth

namespace Snapshot

/-- Two snapshots list the same objects, each in its own order. -/
structure Rearranges (s s' : Snapshot) : Prop where
  /-- The tables are the same. -/
  tables : s.tables.Perm s'.tables
  /-- The indexes are the same. -/
  indexes : s.indexes.Perm s'.indexes
  /-- The constraints are the same. -/
  constraints : s.constraints.Perm s'.constraints
  /-- The sequences are the same. -/
  sequences : s.sequences.Perm s'.sequences
  /-- Both are of the same database. -/
  database : s.database = s'.database

/-- The columns of indexes and constraints have texts for their names. -/
def ColumnNamesAreTexts (s : Snapshot) : Prop :=
  (∀ index ∈ s.indexes, ∀ key ∈ index.keys,
    key.isExpression = true ∨ ∃ name, key.name = .text name) ∧
  ∀ con ∈ s.constraints, ∀ column ∈ con.columns, ∃ name, column = .text name

/-- The columns by which rows can be found have texts for their names. -/
theorem ColumnNamesAreTexts.texts_of_mem_accessPaths {s : Snapshot}
    (hcolumns : s.ColumnNamesAreTexts) {table : Text} {count : Nat} {path : List Value}
    (hpath : path ∈ accessPaths s table count) : ∀ column ∈ path, ∃ name, column = .text name := by
  rcases List.mem_append.1 hpath with hindex | hconstraint
  · obtain ⟨index, hmem, hserving⟩ := List.mem_filterMap.1 hindex
    have hnames : index.columnNames? = some path := by
      unfold servingColumns? at hserving
      cases hnames : index.columnNames? with
      | none => simp [hnames] at hserving
      | some names =>
        simp only [hnames] at hserving
        split at hserving
        · cases hserving
        · split at hserving <;> cases hserving
          rfl
    unfold Index.columnNames? at hnames
    split at hnames
    · cases hnames
    · rename_i hplain
      cases hnames
      intro column hcolumn
      obtain ⟨key, hkey, rfl⟩ := List.mem_map.1 hcolumn
      have hname := hcolumns.1 index (List.mem_filter.1 hmem).1 key hkey
      exact hname.resolve_left fun hexpression =>
        hplain (List.any_eq_true.2 ⟨key, hkey, hexpression⟩)
  · obtain ⟨con, hmem, rfl⟩ := List.mem_map.1 hconstraint
    exact hcolumns.2 con (List.mem_filter.1 (List.mem_filter.1 hmem).1).1

namespace Rearranges

variable {s s' : Snapshot} (h : s.Rearranges s')

include h

/-! ## Looking objects up -/

theorem table?_eq : s.table? = s'.table? :=
  funext fun identifier => find?_eq_of_perm h.tables s.tables_nodup identifier

/-- Kinds of objects are searched one after the other, and each of them in any order. -/
theorem object?_eq : s.object? = s'.object? := by
  have htables : ((s.tables.map SchemaObject.table).map SchemaObject.qualifiedName).Nodup := by
    rw [List.map_map]
    exact s.tables_nodup
  have hindexes : ((s.indexes.map SchemaObject.index).map SchemaObject.qualifiedName).Nodup := by
    rw [List.map_map]
    exact s.indexes_nodup
  have hconstraints :
      ((s.constraints.map SchemaObject.constraint).map SchemaObject.qualifiedName).Nodup := by
    rw [List.map_map]
    exact s.constraints_nodup
  have hsequences :
      ((s.sequences.map SchemaObject.sequence).map SchemaObject.qualifiedName).Nodup := by
    rw [List.map_map]
    exact s.sequences_nodup
  funext identifier
  simp only [object?, objects, List.find?_append]
  rw [find?_eq_of_perm (h.tables.map _) htables, find?_eq_of_perm (h.indexes.map _) hindexes,
    find?_eq_of_perm (h.constraints.map _) hconstraints,
    find?_eq_of_perm (h.sequences.map _) hsequences]

/-! ## Searching for an index behind a foreign key -/

theorem accessPaths_perm (table : Text) (count : Nat) :
    (accessPaths s table count).Perm (accessPaths s' table count) :=
  ((h.indexes.filter _).filterMap _).append (((h.constraints.filter _).filter _).map _)

/-- No candidate can be at fault where column names are texts, so that the candidates may be
tried in any order. -/
theorem isCovered_eq (hcolumns : s.ColumnNamesAreTexts) (key : Constraint) :
    isCovered s key = isCovered s' key := by
  have hanswers : ∀ path ∈ accessPaths s key.tableQualifiedName key.columns.length,
      ∃ b, beginsWith key.columns path = .ok b := by
    intro path hpath
    have hmembers : ∃ members, (path.take key.columns.length).mapM Value.asMember = .ok members :=
      Traversal.exists_mapM fun column hcolumn => by
        obtain ⟨name, rfl⟩ := hcolumns.texts_of_mem_accessPaths hpath column
          (List.mem_of_mem_take hcolumn)
        exact ⟨_, rfl⟩
    obtain ⟨members, hmembers⟩ := hmembers
    exact ⟨_, Traversal.bind_eq_ok.2 ⟨(), by rw [hmembers]; rfl, rfl⟩⟩
  rw [isCovered, isCovered, Traversal.anyM_eq_of_perm (h.accessPaths_perm _ _) hanswers]

/-- What is reported about a foreign key does not depend on the order of objects. -/
theorem coverReport_eq (hcolumns : s.ColumnNamesAreTexts) : coverReport s = coverReport s' := by
  funext key
  simp only [coverReport, h.isCovered_eq hcolumns, uncoveredKeyFinding, nullableColumns,
    h.table?_eq]

/-! ## Running checks -/

/-- A built-in check has the same findings, or the same first fault. -/
theorem run_eq (hcolumns : s.ColumnNamesAreTexts) (t : Thresholds) {check : Check}
    (hcheck : check ∈ builtinChecks) : check.run s t = check.run s' t := by
  -- Every check sorts its objects first; three of them look other objects up besides.
  have hindexes := sortByText_eq_of_perm h.indexes s.indexes_nodup
  have htables := sortByText_eq_of_perm h.tables s.tables_nodup
  have hconstraints := sortByText_eq_of_perm h.constraints s.constraints_nodup
  have hsequences := sortByText_eq_of_perm h.sequences s.sequences_nodup
  simp only [builtinChecks, List.mem_cons, List.not_mem_nil, or_false] at hcheck
  rcases hcheck with rfl | rfl | rfl | rfl | rfl | rfl | rfl | rfl | rfl
  · simp only [invalidIndexes, hindexes]
  · simp only [duplicatedIndexes, hindexes]
  · have hreport : unusedReport s t = unusedReport s' t := by
      funext index
      simp only [unusedReport, unusedEvidence?, h.table?_eq]
    simp only [unusedIndexes, hindexes, hreport]
  · simp only [bloatedIndexes, hindexes]
  · have hkey : hasPrimaryKey s = hasPrimaryKey s' := funext fun table => h.constraints.any_eq
    simp only [tablesWithoutPrimaryKey, htables, hkey]
  · simp only [bloatedTables, htables]
  · have hkeys := sortByText_eq_of_perm
      (h.constraints.filter fun con => con.kind = ConstraintType.foreignKey)
      (s.constraints_nodup.sublist (List.filter_sublist.map _))
    simp only [foreignKeysWithoutIndex, hkeys, h.coverReport_eq hcolumns]
  · simp only [notValidConstraints, hconstraints]
  · simp only [sequenceOverflow, hsequences]

/-! ## Filtering and recording -/

/-- Rules of exclusion find the same objects and the same owners of them. -/
theorem filterFindings_eq (rules : Exclusions) (check : String) (found : List Finding) :
    rules.filterFindings s check found = rules.filterFindings s' check found := by
  have hexcludes : rules.excludes check (some s) = rules.excludes check (some s') := by
    funext object
    simp only [Exclusions.excludes, Exclusions.subjects, Exclusions.owningTable?,
      Option.bind_some, h.table?_eq]
  induction found with
  | nil => rfl
  | cons f rest ih =>
    have hsilences : rules.silences s check f = rules.silences s' check f := by
      rw [Exclusions.silences, Exclusions.silences, h.object?_eq, hexcludes]
    rw [Exclusions.filterFindings, Exclusions.filterFindings, hsilences, ih]

/-- Built-in checks that finish have the same results and therefore the same report. -/
theorem evaluateInOrder_eq (hcolumns : s.ColumnNamesAreTexts) (rules : Exclusions)
    (t : Thresholds) (checks : List Check) {finished : List Check}
    (hfinished : ∀ check ∈ finished, check ∈ builtinChecks) :
    evaluateInOrder s rules t checks finished = evaluateInOrder s' rules t checks finished := by
  have hresults : finished.mapM (finishedResult s rules t) =
      finished.mapM (finishedResult s' rules t) := by
    refine Traversal.mapM_congr fun check hcheck => ?_
    have houtcome : outcome s t check = outcome s' t check := by
      rw [outcome, outcome, h.run_eq hcolumns t (hfinished check hcheck)]
    unfold finishedResult
    simp only [houtcome, h.filterFindings_eq]
  rw [evaluateInOrder, evaluateInOrder, hresults, h.database]

end Rearranges

end Snapshot

/-- The report of the built-in checks and the corrective statements for it do not depend on the
order in which a snapshot lists its objects, under every selection of checks, rules, thresholds and
options and whichever checks finish before a deadline. Where one evaluation is at fault the other
one is at the same fault; there is none if the thresholds are accepted, the deadline can be kept
and names and patterns are texts. -/
theorem report_independent_of_input_order {s s' : Snapshot} (h : s.Rearranges s')
    (hcolumns : s.ColumnNamesAreTexts) (request : EvaluationRequest)
    (hbuiltin : ∀ check ∈ request.registry.checks, check ∈ builtinChecks)
    (options : GeneratingOptions) :
    evaluate s request = evaluate s' request ∧
      (evaluate s request >>= fun report => Statement.generate options report.findings) =
        (evaluate s' request >>= fun report => Statement.generate options report.findings) ∧
      (∀ finished : List Check, finished.Subperm request.checks →
        request.reportAfter s finished = request.reportAfter s' finished) ∧
      (s.ObjectNamesAreTexts → request.rules.PatternsAreTexts →
        request.thresholds.validate = .ok () → ∀ finished,
          finishedBefore request.workers request.timeout request.checks = .ok finished →
            ∃ report, evaluate s request = .ok report) := by
  have hafter : ∀ finished : List Check, finished.Subperm request.checks →
      request.reportAfter s finished = request.reportAfter s' finished := by
    intro finished hfinished
    have hmem : ∀ check ∈ finished, check ∈ builtinChecks := fun check hcheck =>
      hbuiltin check (EvaluationRequest.mem_registry_of_mem_checks (hfinished.subset hcheck))
    rw [EvaluationRequest.reportAfter, EvaluationRequest.reportAfter,
      h.evaluateInOrder_eq hcolumns request.rules request.thresholds request.checks hmem]
  have hevaluate : evaluate s request = evaluate s' request := by
    cases hfinished : finishedBefore request.workers request.timeout request.checks with
    | ok finished =>
      rw [EvaluationRequest.evaluate_eq_reportAfter hfinished,
        EvaluationRequest.evaluate_eq_reportAfter hfinished,
        hafter finished (finishedBefore_sublist hfinished).subperm]
    | error fault =>
      rw [evaluate, evaluate, hfinished]
      rfl
  refine ⟨hevaluate, by rw [hevaluate], hafter, ?_⟩
  intro hnames hpatterns hvalid finished hfinished
  rw [EvaluationRequest.evaluate_eq_reportAfter hfinished]
  exact exists_reportAfter hbuiltin hnames hpatterns hvalid
    (finishedBefore_sublist hfinished).subperm

/-- The nested indexes, the longest one first. -/
def nestedIndexesReversed : Snapshot :=
  { bareSnapshot with
    indexes := nestedIndexes.indexes.reverse
    indexes_nodup := by decide }

/-- Nested indexes are reported in whatever order they are listed. -/
theorem report_independent_of_input_order_nested :
    nestedIndexes.Rearranges nestedIndexesReversed ∧ nestedIndexes.ColumnNamesAreTexts ∧
      ∃ report, evaluate nestedIndexes {} = .ok report ∧
        evaluate nestedIndexesReversed {} = .ok report ∧
        report.findings.map Finding.objectName =
          [("public.by_day" : Text), "public.by_day", "public.by_day_shop"] := by
  have hrearranges : nestedIndexes.Rearranges nestedIndexesReversed :=
    ⟨List.Perm.refl _, (List.reverse_perm _).symm, List.Perm.refl _, List.Perm.refl _, rfl⟩
  have hcolumns : nestedIndexes.ColumnNamesAreTexts := by
    refine ⟨?_, fun con hcon => by cases hcon⟩
    simp [nestedIndexes, plainIndex]
  have hruns : (evaluate nestedIndexes {}).toOption.any (fun report =>
      report.findings.map Finding.objectName =
        [("public.by_day" : Text), "public.by_day", "public.by_day_shop"]) = true := by
    decide +kernel
  obtain ⟨report, hreport, hfacts⟩ := Traversal.exists_ok_of_toOption hruns
  obtain ⟨hsame, -⟩ := report_independent_of_input_order hrearranges hcolumns {}
    (fun check hcheck => hcheck) {}
  exact ⟨hrearranges, hcolumns, report, hreport, hsame.symm.trans hreport,
    of_decide_eq_true hfacts⟩

end CatalogHealth
