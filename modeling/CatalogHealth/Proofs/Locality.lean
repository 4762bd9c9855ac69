import CatalogHealth.Proofs.Accounting

/-!
# Findings about a table come from the table

Two snapshots that have no table in common can be put together into one. A built-in check that
judges a table, an index or a constraint looks up nothing but the table that owns it, the indexes
and the constraints of that table, so it finds in the whole what it finds in both parts. The order
of the objects within each part is kept, and rules of exclusion are outside the scope of this
module: the patterns of a rule may match a table in either part.
-/

namespace CatalogHealth

namespace Snapshot

/-- A snapshot lists the objects of one snapshot and after them those of another one. -/
structure Joins (s first second : Snapshot) : Prop where
  /-- The tables of both. -/
  tables : s.tables = first.tables ++ second.tables
  /-- The indexes of both. -/
  indexes : s.indexes = first.indexes ++ second.indexes
  /-- The constraints of both. -/
  constraints : s.constraints = first.constraints ++ second.constraints
  /-- The sequences of both. -/
  sequences : s.sequences = first.sequences ++ second.sequences

/-- The identifiers of the tables that a snapshot lists or that own one of its indexes or
constraints. -/
def tableIdentifiers (s : Snapshot) : List Text :=
  s.tables.map Table.qualifiedName ++ s.indexes.map Index.tableQualifiedName ++
    s.constraints.map Constraint.tableQualifiedName

variable {s part first second : Snapshot}

theorem mem_tableIdentifiers {identifier : Text} : identifier ∈ s.tableIdentifiers ↔
    (∃ table ∈ s.tables, table.qualifiedName = identifier) ∨
      (∃ index ∈ s.indexes, index.tableQualifiedName = identifier) ∨
        ∃ con ∈ s.constraints, con.tableQualifiedName = identifier := by
  simp only [tableIdentifiers, List.mem_append, List.mem_map, or_assoc]

/-- The tables whose indexes are compared are known. -/
theorem mem_tableIdentifiers_of_compared {identifier : Text} (h : identifier ∈
      sortedTexts ((s.sortedIndexes.filter isComparable).map Index.tableQualifiedName)) :
    identifier ∈ s.tableIdentifiers := by
  obtain ⟨index, hindex, rfl⟩ := List.mem_map.1 (mem_sortedTexts.1 h)
  have hlisted := s.mem_sortedIndexes.1 (List.mem_filter.1 hindex).1
  exact mem_tableIdentifiers.2 (.inr (.inl ⟨index, hlisted, rfl⟩))

/-- A part of a snapshot knows of its own tables what the whole knows of them. -/
structure SeesAlike (part s : Snapshot) : Prop where
  /-- The table itself. -/
  table? : ∀ identifier ∈ part.tableIdentifiers, part.table? identifier = s.table? identifier
  /-- The indexes of the table. -/
  indexesOf : ∀ identifier ∈ part.tableIdentifiers,
    part.indexesOf identifier = s.indexesOf identifier
  /-- The constraints of the table. -/
  constraintsOf : ∀ identifier ∈ part.tableIdentifiers,
    part.constraintsOf identifier = s.constraintsOf identifier

/-! ## What a part knows -/

/-- About a table of another snapshot a snapshot knows nothing. -/
theorem unknown_of_notMem {identifier : Text} (h : identifier ∉ s.tableIdentifiers) :
    s.table? identifier = none ∧ s.indexesOf identifier = [] ∧ s.constraintsOf identifier = [] := by
  simp only [mem_tableIdentifiers, not_or, not_exists, not_and] at h
  obtain ⟨htables, hindexes, hconstraints⟩ := h
  refine ⟨List.find?_eq_none.2 fun table hmem => ?_, List.filter_eq_nil_iff.2 fun index hmem => ?_,
    List.filter_eq_nil_iff.2 fun con hmem => ?_⟩
  · simpa using htables table hmem
  · simpa using hindexes index hmem
  · simpa using hconstraints con hmem

namespace Joins

variable (h : s.Joins first second)

include h

theorem table?_eq (identifier : Text) :
    s.table? identifier = (first.table? identifier).or (second.table? identifier) := by
  rw [table?, h.tables, List.find?_append]
  rfl

theorem indexesOf_eq (identifier : Text) :
    s.indexesOf identifier = first.indexesOf identifier ++ second.indexesOf identifier := by
  rw [indexesOf, h.indexes, List.filter_append]
  rfl

theorem constraintsOf_eq (identifier : Text) :
    s.constraintsOf identifier =
      first.constraintsOf identifier ++ second.constraintsOf identifier := by
  rw [constraintsOf, h.constraints, List.filter_append]
  rfl

/-- The first part of a whole knows its tables. -/
theorem seesAlike_left (hapart : first.tableIdentifiers.Disjoint second.tableIdentifiers) :
    first.SeesAlike s := by
  have hunknown := fun identifier (hmem : identifier ∈ first.tableIdentifiers) =>
    unknown_of_notMem (hapart hmem)
  refine ⟨fun identifier hmem => ?_, fun identifier hmem => ?_, fun identifier hmem => ?_⟩
  · rw [h.table?_eq, (hunknown identifier hmem).1, Option.or_none]
  · rw [h.indexesOf_eq, (hunknown identifier hmem).2.1, List.append_nil]
  · rw [h.constraintsOf_eq, (hunknown identifier hmem).2.2, List.append_nil]

/-- The second part of a whole knows its tables. -/
theorem seesAlike_right (hapart : first.tableIdentifiers.Disjoint second.tableIdentifiers) :
    second.SeesAlike s := by
  have hunknown := fun identifier (hmem : identifier ∈ second.tableIdentifiers) =>
    unknown_of_notMem fun hfirst => hapart hfirst hmem
  refine ⟨fun identifier hmem => ?_, fun identifier hmem => ?_, fun identifier hmem => ?_⟩
  · rw [h.table?_eq, (hunknown identifier hmem).1, Option.none_or]
  · rw [h.indexesOf_eq, (hunknown identifier hmem).2.1, List.nil_append]
  · rw [h.constraintsOf_eq, (hunknown identifier hmem).2.2, List.nil_append]

end Joins

/-! ## What checks look up -/

/-- The indexes of a table that are compared, in the order of their identifiers. -/
theorem filter_isComparable_eq (s : Snapshot) (identifier : Text) :
    ((s.sortedIndexes.filter isComparable).filter fun index =>
      index.tableQualifiedName = identifier) =
        sortByText Index.qualifiedName ((s.indexesOf identifier).filter isComparable) := by
  rw [List.filter_comm, sortedIndexes, filter_sortByText, filter_sortByText]
  rfl

/-- A table has a primary key if there is one among its constraints. -/
theorem hasPrimaryKey_eq (s : Snapshot) (table : Table) : hasPrimaryKey s table =
    (s.constraintsOf table.qualifiedName).any fun con => con.kind = .primaryKey := by
  rw [constraintsOf, List.any_filter, hasPrimaryKey]
  simp only [Bool.and_comm]

namespace SeesAlike

variable {t : Thresholds} (h : part.SeesAlike s)

include h

theorem hasPrimaryKey_eq {table : Table} (hmem : table ∈ part.tables) :
    hasPrimaryKey part table = hasPrimaryKey s table := by
  rw [Snapshot.hasPrimaryKey_eq, Snapshot.hasPrimaryKey_eq,
    h.constraintsOf _ (mem_tableIdentifiers.2 (.inl ⟨table, hmem, rfl⟩))]

/-- Of an index the table is looked up. -/
theorem unusedReport_eq {index : Index} (hmem : index ∈ part.indexes) :
    unusedReport part t index = unusedReport s t index := by
  have htable := h.table? _ (mem_tableIdentifiers.2 (.inr (.inl ⟨index, hmem, rfl⟩)))
  simp only [unusedReport, unusedEvidence?, htable]

/-- Of a foreign key the table is looked up, with its indexes and constraints; the table that it
refers to is only named. -/
theorem coverReport_eq {key : Constraint} (hmem : key ∈ part.constraints) :
    coverReport part key = coverReport s key := by
  have howner := mem_tableIdentifiers.2 (.inr (.inr ⟨key, hmem, rfl⟩))
  simp only [coverReport, isCovered, accessPaths, uncoveredKeyFinding, nullableColumns,
    h.table? _ howner, h.indexesOf _ howner, h.constraintsOf _ howner]

/-- Indexes are compared with those of the same table. -/
theorem redundancyFindings_eq {table : Text} (hmem : table ∈
      sortedTexts ((part.sortedIndexes.filter isComparable).map Index.tableQualifiedName)) :
    redundancyFindings table ((part.sortedIndexes.filter isComparable).filter fun index =>
        index.tableQualifiedName = table) =
      redundancyFindings table ((s.sortedIndexes.filter isComparable).filter fun index =>
        index.tableQualifiedName = table) := by
  rw [filter_isComparable_eq, filter_isComparable_eq,
    h.indexesOf _ (mem_tableIdentifiers_of_compared hmem)]

end SeesAlike

end Snapshot

/-! ## What checks find in the parts of a whole -/

/-- What a check finds in a whole it finds in the two parts, each by itself. -/
def Check.Divides (check : Check) (s first second : Snapshot) (t : Thresholds) : Prop :=
  ∀ found, check.run s t = .ok found → ∃ left right, check.run first t = .ok left ∧
    check.run second t = .ok right ∧ found.Perm (left ++ right)

section Shapes

variable {α : Type} {text : α → Text} {xs ys zs : List α}

/-- Objects that are reported unless they are in order are reported in the part to which they
belong. -/
theorem reportedUnless_perm {inOrder inFirst inSecond : α → Bool} {finding : α → Finding}
    (hxs : xs = ys ++ zs) (hfirst : ∀ y ∈ ys, inFirst y = inOrder y)
    (hsecond : ∀ z ∈ zs, inSecond z = inOrder z) :
    ((sortByText text xs).filterMap fun x => if inOrder x then none else some (finding x)).Perm
      (((sortByText text ys).filterMap fun y => if inFirst y then none else some (finding y)) ++
        (sortByText text zs).filterMap fun z =>
          if inSecond z then none else some (finding z)) := by
  have hperm := (hxs ▸ sortByText_append_perm text ys zs).filterMap
    fun x => if inOrder x then none else some (finding x)
  rw [List.filterMap_append] at hperm
  refine hperm.trans (List.Perm.of_eq (congrArg₂ _ ?_ ?_))
  · exact List.filterMap_congr fun y hy => by rw [hfirst y (mem_sortBy.1 hy)]
  · exact List.filterMap_congr fun z hz => by rw [hsecond z (mem_sortBy.1 hz)]

/-- Objects that are judged one by one are judged in the part to which they belong. -/
theorem exists_gathered_sortByText {step inFirst inSecond : α → Except Fault (List Finding)}
    {found : List Finding} (hxs : xs = ys ++ zs) (hfirst : ∀ y ∈ ys, inFirst y = step y)
    (hsecond : ∀ z ∈ zs, inSecond z = step z)
    (h : ((sortByText text xs).mapM step).map List.flatten = .ok found) :
    ∃ left right, ((sortByText text ys).mapM inFirst).map List.flatten = .ok left ∧
      ((sortByText text zs).mapM inSecond).map List.flatten = .ok right ∧
      found.Perm (left ++ right) :=
  Traversal.exists_gathered_of_perm (hxs ▸ sortByText_append_perm text ys zs)
    (fun y hy => hfirst y (mem_sortBy.1 hy)) (fun z hz => hsecond z (mem_sortBy.1 hz)) h

end Shapes

namespace Snapshot.Joins

variable {s first second : Snapshot} {t : Thresholds} (h : s.Joins first second)
  (hapart : first.tableIdentifiers.Disjoint second.tableIdentifiers)

include h

theorem sortedIndexes_perm :
    s.sortedIndexes.Perm (first.sortedIndexes ++ second.sortedIndexes) := by
  rw [sortedIndexes, h.indexes]
  exact sortByText_append_perm _ _ _

include hapart

/-- The tables with indexes that are compared are those of the parts, and none is in both. -/
theorem comparedTables_perm :
    (sortedTexts ((s.sortedIndexes.filter isComparable).map Index.tableQualifiedName)).Perm
      (sortedTexts ((first.sortedIndexes.filter isComparable).map Index.tableQualifiedName) ++
        sortedTexts ((second.sortedIndexes.filter isComparable).map Index.tableQualifiedName)) := by
  have hnodup := (sortedTexts_nodup ((first.sortedIndexes.filter isComparable).map _)).append
    (sortedTexts_nodup _) fun table hfirst hsecond =>
      hapart (mem_tableIdentifiers_of_compared hfirst) (mem_tableIdentifiers_of_compared hsecond)
  refine (List.perm_ext_iff_of_nodup (sortedTexts_nodup _) hnodup).2 fun table => ?_
  have hmem := ((h.sortedIndexes_perm.filter isComparable).map Index.tableQualifiedName).mem_iff
    (a := table)
  rw [List.filter_append, List.map_append, List.mem_append] at hmem
  simp only [List.mem_append, mem_sortedTexts, hmem]

/-- The check for redundant indexes compares indexes within each part. -/
theorem divides_duplicatedIndexes : duplicatedIndexes.Divides s first second t := by
  intro found hrun
  obtain ⟨reports, hreports, rfl⟩ := duplicatedIndexes_run.1 hrun
  obtain ⟨left, right, hleft, hright, hperm⟩ := Traversal.exists_gathered_of_perm
    (h.comparedTables_perm hapart)
    (fun _ hmem => (h.seesAlike_left hapart).redundancyFindings_eq hmem)
    (fun _ hmem => (h.seesAlike_right hapart).redundancyFindings_eq hmem)
    (Traversal.map_eq_ok.2 ⟨reports, hreports, rfl⟩)
  obtain ⟨leftReports, hleftReports, rfl⟩ := Traversal.map_eq_ok.1 hleft
  obtain ⟨rightReports, hrightReports, rfl⟩ := Traversal.map_eq_ok.1 hright
  refine ⟨_, _, duplicatedIndexes_run.2 ⟨leftReports, hleftReports, rfl⟩,
    duplicatedIndexes_run.2 ⟨rightReports, hrightReports, rfl⟩, ?_⟩
  have hkeyless := (h.sortedIndexes_perm.filter fun index => index.keys.isEmpty).map keylessFinding
  rw [List.filter_append, List.map_append] at hkeyless
  refine (hkeyless.append hperm).trans ?_
  rw [List.append_assoc, List.append_assoc]
  exact (List.perm_append_comm_assoc _ _ _).append_left _

/-- A built-in check finds in a whole what it finds in the parts. -/
theorem divides_of_builtin {check : Check} (hcheck : check ∈ builtinChecks) :
    check.Divides s first second t := by
  -- Three of the other checks look objects up; the rest judge each object by itself.
  have hleft := h.seesAlike_left hapart
  have hright := h.seesAlike_right hapart
  simp only [builtinChecks, List.mem_cons, List.not_mem_nil, or_false] at hcheck
  rcases hcheck with rfl | rfl | rfl | rfl | rfl | rfl | rfl | rfl | rfl
  · rintro found ⟨⟩
    exact ⟨_, _, rfl, rfl, reportedUnless_perm h.indexes (fun _ _ => rfl) fun _ _ => rfl⟩
  · exact h.divides_duplicatedIndexes hapart
  · exact fun found => exists_gathered_sortByText h.indexes
      (fun _ hmem => hleft.unusedReport_eq hmem) fun _ hmem => hright.unusedReport_eq hmem
  · exact fun found => exists_gathered_sortByText h.indexes (fun _ _ => rfl) fun _ _ => rfl
  · rintro found ⟨⟩
    exact ⟨_, _, rfl, rfl, reportedUnless_perm h.tables
      (fun _ hmem => hleft.hasPrimaryKey_eq hmem) fun _ hmem => hright.hasPrimaryKey_eq hmem⟩
  · exact fun found => exists_gathered_sortByText h.tables (fun _ _ => rfl) fun _ _ => rfl
  · have hkeys : (s.constraints.filter fun con => con.kind = .foreignKey) =
        (first.constraints.filter fun con => con.kind = .foreignKey) ++
          second.constraints.filter fun con => con.kind = .foreignKey := by
      rw [h.constraints, List.filter_append]
    exact fun found => exists_gathered_sortByText hkeys
      (fun _ hmem => hleft.coverReport_eq (List.mem_filter.1 hmem).1)
      fun _ hmem => hright.coverReport_eq (List.mem_filter.1 hmem).1
  · rintro found ⟨⟩
    exact ⟨_, _, rfl, rfl, reportedUnless_perm h.constraints (fun _ _ => rfl) fun _ _ => rfl⟩
  · exact fun found => exists_gathered_sortByText h.sequences (fun _ _ => rfl) fun _ _ => rfl

end Snapshot.Joins

/-! ## The report about a whole -/

section Reports

variable {s first second : Snapshot} {t : Thresholds}

/-- A check fails exactly if it does not run to its end. -/
theorem isFailed_ownResult_eq_false_iff {check : Check} :
    (ownResult s t check).isFailed = false ↔ ∃ found, check.run s t = .ok found := by
  cases hrun : check.run s t with
  | ok found => simp [ownResult, outcome, hrun, CheckResult.isFailed]
  | error fault => simp [ownResult, outcome, hrun, CheckResult.isFailed, fault.line_isEmpty]

/-- No check failed in a report exactly if none of its results is that of a failure. -/
theorem failedCount_reportOf_eq_zero_iff_results (database : Value) {results : List CheckResult} :
    (reportOf database results).failedCount = 0 ↔ ∀ result ∈ results, result.isFailed = false := by
  rw [Report.failedCount, List.countP_eq_zero]
  simp only [Bool.not_eq_true]
  rfl

/-- No check failed exactly if every check ran to its end. -/
theorem failedCount_reportOf_eq_zero_iff (database : Value) :
    (reportOf database (builtinChecks.map (ownResult s t))).failedCount = 0 ↔
      ∀ check ∈ builtinChecks, ∃ found, check.run s t = .ok found := by
  rw [failedCount_reportOf_eq_zero_iff_results, List.forall_mem_map]
  exact forall₂_congr fun check _ => isFailed_ownResult_eq_false_iff

/-- What checks contribute about a whole they contribute about the parts. -/
theorem contributions_perm_of_divides {checks : List Check}
    (hdivides : ∀ check ∈ checks, check.Divides s first second t)
    (hruns : ∀ check ∈ checks, ∃ found, check.run s t = .ok found) :
    ((checks.map (ownResult s t)).flatMap contribution).Perm
      ((checks.map (ownResult first t)).flatMap contribution ++
        (checks.map (ownResult second t)).flatMap contribution) := by
  have hparts : ∀ check ∈ checks, (contribution (ownResult s t check)).Perm
      (contribution (ownResult first t check) ++ contribution (ownResult second t check)) := by
    intro check hcheck
    obtain ⟨found, hrun⟩ := hruns check hcheck
    obtain ⟨left, right, hleft, hright, hperm⟩ := hdivides check hcheck found hrun
    rw [contribution_of_run hrun, contribution_of_run hleft, contribution_of_run hright]
    exact hperm
  simp only [List.flatMap_map]
  exact (List.Perm.flatMap_left checks hparts).trans (List.flatMap_append_perm ..).symm

/-- The built-in checks contribute no two findings about the same thing. -/
theorem contributions_builtin_keys_nodup (s : Snapshot) (t : Thresholds) :
    (((builtinChecks.map (ownResult s t)).flatMap contribution).map Finding.key).Nodup := by
  refine CheckResult.contributions_keys_nodup ?_ ?_
  · exact List.forall_mem_map.2 fun check hcheck => CheckResult.consistent_ownResult hcheck
  · rw [List.map_map]
    exact builtinChecks_names_nodup

end Reports

/-- If two snapshots have no table in common, and no check fails on both together, then none fails
on one of them, and the report about both together has the findings of the two reports, put in
order. -/
theorem findings_local {s first second : Snapshot} (hjoins : s.Joins first second)
    (hapart : first.tableIdentifiers.Disjoint second.tableIdentifiers) {t : Thresholds}
    (hvalid : t.validate = .ok ()) : ∃ report left right,
      evaluate s { thresholds := t } = .ok report ∧
        evaluate first { thresholds := t } = .ok left ∧
        evaluate second { thresholds := t } = .ok right ∧
        (report.failedCount = 0 → left.failedCount = 0 ∧ right.failedCount = 0 ∧
          report.findings = Finding.sort (left.findings ++ right.findings)) := by
  refine ⟨_, _, _, evaluate_builtin.2 ⟨hvalid, rfl⟩, evaluate_builtin.2 ⟨hvalid, rfl⟩,
    evaluate_builtin.2 ⟨hvalid, rfl⟩, fun hfailed => ?_⟩
  have hruns := (failedCount_reportOf_eq_zero_iff s.database).1 hfailed
  have hdivides : ∀ check ∈ builtinChecks, check.Divides s first second t :=
    fun check hcheck => hjoins.divides_of_builtin hapart hcheck
  refine ⟨(failedCount_reportOf_eq_zero_iff _).2 fun check hcheck => ?_,
    (failedCount_reportOf_eq_zero_iff _).2 fun check hcheck => ?_, ?_⟩
  · obtain ⟨found, hrun⟩ := hruns check hcheck
    obtain ⟨left, -, hleft, -, -⟩ := hdivides check hcheck found hrun
    exact ⟨left, hleft⟩
  · obtain ⟨found, hrun⟩ := hruns check hcheck
    obtain ⟨-, right, -, hright, -⟩ := hdivides check hcheck found hrun
    exact ⟨right, hright⟩
  · have hnodup := contributions_builtin_keys_nodup s t
    have hleft := Finding.merge_perm (contributions_builtin_keys_nodup first t)
    have hright := Finding.merge_perm (contributions_builtin_keys_nodup second t)
    have hperm := (contributions_perm_of_divides hdivides hruns).trans (hleft.append hright).symm
    exact (Finding.merge_eq_sort hnodup).trans (Finding.sort_eq_of_perm hperm hnodup)

/-- A table without a primary key that refers to the table with the nested indexes. -/
def keylessShops : Snapshot :=
  { bareSnapshot with
    tables := [{ schema := .text "public", name := .text "shops" }]
    constraints :=
      [{ name := .text "last_order", kind := .foreignKey, tableSchema := .text "public"
         tableName := .text "shops", columns := [.text "last"], refTable := .text "orders" }]
    tables_nodup := by decide
    constraints_nodup := by decide }

/-- Both tables together. -/
def ordersAndShops : Snapshot :=
  { keylessShops with
    indexes := nestedIndexes.indexes
    indexes_nodup := nestedIndexes.indexes_nodup }

/-- The findings about both tables are those about each of them, although one refers to the
other. -/
theorem findings_local_ordersAndShops :
    ordersAndShops.Joins nestedIndexes keylessShops ∧
      nestedIndexes.tableIdentifiers.Disjoint keylessShops.tableIdentifiers ∧
      Thresholds.validate {} = .ok () ∧
      ∃ report left right, evaluate ordersAndShops {} = .ok report ∧
        evaluate nestedIndexes {} = .ok left ∧ evaluate keylessShops {} = .ok right ∧
        report.failedCount = 0 ∧
        report.findings = Finding.sort (left.findings ++ right.findings) ∧
        report.findings.map Finding.objectName =
          [("public.by_day" : Text), "public.by_day", "public.by_day_shop", "public.shops",
           "public.shops.last_order"] := by
  have hjoins : ordersAndShops.Joins nestedIndexes keylessShops := ⟨rfl, rfl, rfl, rfl⟩
  have hother : ∀ identifier ∈ nestedIndexes.tableIdentifiers,
      identifier ∉ keylessShops.tableIdentifiers := by decide
  have hapart : nestedIndexes.tableIdentifiers.Disjoint keylessShops.tableIdentifiers :=
    fun identifier hleft hright => hother identifier hleft hright
  have hvalid : Thresholds.validate {} = .ok () := by decide +kernel
  have hruns : (evaluate ordersAndShops {}).toOption.any (fun report =>
      report.failedCount = 0 ∧ report.findings.map Finding.objectName =
        [("public.by_day" : Text), "public.by_day", "public.by_day_shop", "public.shops",
         "public.shops.last_order"]) = true := by
    decide +kernel
  obtain ⟨report, hreport, hfacts⟩ := Traversal.exists_ok_of_toOption hruns
  obtain ⟨hfailed, hnames⟩ := of_decide_eq_true hfacts
  obtain ⟨whole, left, right, hwhole, hleft, hright, hlocal⟩ := findings_local hjoins hapart hvalid
  obtain rfl := Except.ok.inj (hwhole.symm.trans hreport)
  exact ⟨hjoins, hapart, hvalid, whole, left, right, hwhole, hleft, hright, hfailed,
    (hlocal hfailed).2.2, hnames⟩

end CatalogHealth
