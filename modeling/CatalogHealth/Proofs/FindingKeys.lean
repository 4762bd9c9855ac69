import CatalogHealth.Proofs.CheckFindings

/-!
# No check says the same thing twice

A built-in check looks at each object once and has at most one finding about it; the check for
redundant indexes has at most one about each pair. Identifiers are distinct, so the findings of a
check name different objects, and all of them are objects of the snapshot from which the finding was
made. That findings of different checks may name the same objects is no repetition: their names tell
them apart.
-/

namespace CatalogHealth

variable {s : Snapshot} {t : Thresholds} {found report : List Finding} {f : Finding}

/-! ## One finding about each object -/

/-- Objects that are reported unless they are in order have one finding each. -/
theorem objects_nodup_reportedUnless {α : Type} {text : α → Text} {inOrder : α → Bool}
    {finding : α → Finding} {xs : List α} (hnodup : (xs.map text).Nodup)
    (hobjects : ∀ x, (finding x).objects = [text x]) :
    (((sortByText text xs).filterMap fun x =>
      if inOrder x then none else some (finding x)).map Finding.objects).Nodup := by
  have hreported : ∀ ys : List α, ((ys.filterMap fun x =>
      if inOrder x then none else some (finding x)).map Finding.objects).Sublist
        ((ys.map text).map fun name => [name]) := by
    intro ys
    induction ys with
    | nil => exact List.Sublist.refl _
    | cons y rest ih =>
      cases horder : inOrder y with
      | true => simpa [horder] using ih.cons [text y]
      | false => simpa [horder, hobjects] using ih.cons_cons [text y]
  have hsorted : ((sortByText text xs).map text).Nodup :=
    ((sortBy_perm xs).map text).nodup_iff.2 hnodup
  exact (hsorted.map fun _ _ h => List.singleton_injective h).sublist (hreported _)

/-- At most one finding names no objects twice. -/
theorem nodup_objects_of_length_le_one (h : report.length ≤ 1) :
    (report.map Finding.objects).Nodup := by
  cases report with
  | nil => exact List.nodup_nil
  | cons f rest =>
    cases rest with
    | nil => exact List.nodup_singleton f.objects
    | cons g others => simp at h

/-- A traversal that has at most one finding about each object has no two about one. -/
theorem objects_nodup_gathered {α : Type} {text : α → Text}
    {step : α → Except Fault (List Finding)} {xs : List α} (hnodup : (xs.map text).Nodup)
    (h : ((sortByText text xs).mapM step).map List.flatten = .ok found)
    (hlength : ∀ x report, step x = .ok report → report.length ≤ 1)
    (hobjects : ∀ x report, step x = .ok report → ∀ f ∈ report, f.objects = [text x]) :
    (found.map Finding.objects).Nodup := by
  have hsorted : ((sortByText text xs).map text).Nodup :=
    ((sortBy_perm xs).map text).nodup_iff.2 hnodup
  refine Traversal.nodup_gathered h ?_ ?_
  · intro x _ report hreport
    exact nodup_objects_of_length_le_one (hlength x report hreport)
  · refine (List.pairwise_map.1 hsorted).imp fun {x y} hne => ?_
    intro report report' hreport hreport' f hf g hg heq
    rw [hobjects x report hreport f hf, hobjects y report' hreport' g hg] at heq
    exact hne (List.singleton_injective heq)

/-! ## The checks one by one -/

/-- An index is reported at most once as unused. -/
theorem unusedReport_length {index : Index} (h : unusedReport s t index = .ok report) :
    report.length ≤ 1 := by
  obtain ⟨evidence, -, h⟩ := Traversal.bind_eq_ok.1 h
  cases evidence with
  | none =>
    cases Traversal.pure_eq_ok.1 h
    exact Nat.zero_le 1
  | some evidence =>
    obtain ⟨g, -, h⟩ := Traversal.bind_eq_ok.1 h
    cases Traversal.pure_eq_ok.1 h
    exact Nat.le_refl 1

theorem objects_of_unusedReport {index : Index} (h : unusedReport s t index = .ok report)
    (hf : f ∈ report) : f.objects = [index.qualifiedName] := by
  obtain ⟨table, scans, -, hfinding⟩ := (mem_unusedReport h).1 hf
  exact (reportsIndex_of_unusedIndexFinding hfinding).objects

/-- A relation is reported at most once for its bloat. -/
theorem bloatReport_length {judged : Except Fault BloatVerdict} {skipped : Binary64 → Finding}
    {finding : Binary64 → Except Fault Finding}
    (h : (do
      match ← judged with
      | .acceptable => return []
      | .outOfRange ratio => return [skipped ratio]
      | .bloated ratio => return [← finding ratio]) = Except.ok report) : report.length ≤ 1 := by
  obtain ⟨verdict, -, h⟩ := Traversal.bind_eq_ok.1 h
  cases verdict with
  | acceptable =>
    cases Traversal.pure_eq_ok.1 h
    exact Nat.zero_le 1
  | outOfRange ratio =>
    cases Traversal.pure_eq_ok.1 h
    exact Nat.le_refl 1
  | bloated ratio =>
    obtain ⟨g, -, h⟩ := Traversal.bind_eq_ok.1 h
    cases Traversal.pure_eq_ok.1 h
    exact Nat.le_refl 1

theorem objects_of_indexBloatReport {index : Index} (h : indexBloatReport t index = .ok report)
    (hf : f ∈ report) : f.objects = [index.qualifiedName] := by
  obtain ⟨verdict, -, hreports⟩ := (mem_bloatReport h).1 hf
  cases verdict with
  | acceptable => exact hreports.elim
  | outOfRange ratio => exact hreports ▸ affectedObjects_index index
  | bloated ratio => exact (reportsIndex_of_bloatedIndexFinding hreports).objects

theorem objects_of_tableBloatReport {table : Table} (h : tableBloatReport t table = .ok report)
    (hf : f ∈ report) : f.objects = [table.qualifiedName] := by
  obtain ⟨verdict, -, hreports⟩ := (mem_bloatReport h).1 hf
  cases verdict with
  | acceptable => exact hreports.elim
  | outOfRange ratio => exact hreports ▸ affectedObjects_qualify table.schema table.name
  | bloated ratio =>
    obtain ⟨wasted, -, h⟩ := Traversal.bind_eq_ok.1 hreports
    obtain ⟨wastedSize, -, h⟩ := Traversal.bind_eq_ok.1 h
    obtain ⟨size, -, h⟩ := Traversal.bind_eq_ok.1 h
    cases Traversal.pure_eq_ok.1 h
    exact affectedObjects_qualify table.schema table.name

/-- A foreign key is reported at most once. -/
theorem coverReport_length {key : Constraint} (h : coverReport s key = .ok report) :
    report.length ≤ 1 := by
  unfold coverReport at h
  by_cases hempty : key.columns.isEmpty = true
  · rw [if_pos hempty] at h
    cases Traversal.pure_eq_ok.1 h
    exact Nat.le_refl 1
  · rw [if_neg hempty] at h
    obtain ⟨covered, -, h⟩ := Traversal.bind_eq_ok.1 h
    cases covered with
    | true =>
      cases Traversal.pure_eq_ok.1 h
      exact Nat.zero_le 1
    | false =>
      obtain ⟨columns, -, h⟩ := Traversal.bind_eq_ok.1 h
      obtain ⟨reference, -, h⟩ := Traversal.bind_eq_ok.1 h
      cases Traversal.pure_eq_ok.1 h
      exact Nat.le_refl 1

theorem Constraint.affectedObjects_eq (con : Constraint) :
    affectedObjects con.qualifiedName [] = [con.qualifiedName] :=
  affectedObjects_qualify (.text con.tableQualifiedName) con.name

theorem objects_of_coverReport {key : Constraint} (h : coverReport s key = .ok report)
    (hf : f ∈ report) : f.objects = [key.qualifiedName] := by
  rcases (mem_coverReport h).1 hf with ⟨-, rfl⟩ | ⟨-, -, columns, -, rfl⟩
  · exact key.affectedObjects_eq
  · exact key.affectedObjects_eq

/-- A sequence is reported at most once. -/
theorem sequenceReport_length {seq : Sequence} (h : sequenceReport t seq = .ok report) :
    report.length ≤ 1 := by
  unfold sequenceReport at h
  split at h
  · cases h
    exact Nat.zero_le 1
  · split at h
    · cases h
      exact Nat.le_refl 1
    · obtain ⟨room?, -, h⟩ := Traversal.bind_eq_ok.1 h
      cases room? with
      | none =>
        cases Traversal.pure_eq_ok.1 h
        exact Nat.le_refl 1
      | some room =>
        obtain ⟨enough, -, h⟩ := Traversal.bind_eq_ok.1 h
        cases enough with
        | true =>
          cases Traversal.pure_eq_ok.1 h
          exact Nat.zero_le 1
        | false =>
          obtain ⟨g, -, h⟩ := Traversal.bind_eq_ok.1 h
          cases Traversal.pure_eq_ok.1 h
          exact Nat.le_refl 1

theorem objects_of_sequenceReport {seq : Sequence} (h : sequenceReport t seq = .ok report)
    (hf : f ∈ report) : f.objects = [seq.qualifiedName] := by
  rcases ((mem_sequenceReport h).1 hf).2 with ⟨-, rfl⟩ | ⟨-, -, rfl⟩ | ⟨-, room, -, -, hfinding⟩
  · exact affectedObjects_qualify seq.schema seq.name
  · exact affectedObjects_qualify seq.schema seq.name
  · obtain ⟨dataType, -, h⟩ := Traversal.bind_eq_ok.1 hfinding
    obtain ⟨position, -, h⟩ := Traversal.bind_eq_ok.1 h
    obtain ⟨lower, -, h⟩ := Traversal.bind_eq_ok.1 h
    obtain ⟨upper, -, h⟩ := Traversal.bind_eq_ok.1 h
    obtain ⟨quotient, -, h⟩ := Traversal.bind_eq_ok.1 h
    obtain ⟨remaining, -, h⟩ := Traversal.bind_eq_ok.1 h
    cases Traversal.pure_eq_ok.1 h
    exact affectedObjects_qualify seq.schema seq.name

/-! ## Pairs of indexes -/

/-- A pair of indexes is reported at most once. -/
theorem redundancyReport_length {table : Text} {pair : Index × Index}
    (h : redundancyReport table pair = .ok report) : report.length ≤ 1 := by
  obtain ⟨judged, -, h⟩ := Traversal.bind_eq_ok.1 h
  cases judged with
  | none =>
    cases Traversal.pure_eq_ok.1 h
    exact Nat.zero_le 1
  | some redundancy =>
    obtain ⟨g, -, h⟩ := Traversal.bind_eq_ok.1 h
    cases Traversal.pure_eq_ok.1 h
    exact Nat.le_refl 1

/-- A finding about two compared indexes names both. -/
theorem objects_of_redundancyReport {a b : Index} (hab : s.Compares a b)
    (h : redundancyReport a.tableQualifiedName (a, b) = .ok report) (hf : f ∈ report) :
    f.objects = [a.qualifiedName, b.qualifiedName] := by
  obtain ⟨redundancy, -, hfinding⟩ := (mem_redundancyReport h).1 hf
  exact (reportsPair_of_redundancyFinding hab.le hfinding).objects

/-- The pairs of a list without repetition are distinct. -/
theorem pairs_nodup {α : Type} {xs : List α} (h : xs.Nodup) : (pairs xs).Nodup := by
  have hmem : ∀ {ys : List α} {a b : α}, (a, b) ∈ pairs ys → a ∈ ys := by
    intro ys a b hpair
    induction ys with
    | nil => cases hpair
    | cons y rest ih =>
      rcases List.mem_append.1 hpair with hfirst | hrest
      · obtain ⟨z, -, heq⟩ := List.mem_map.1 hfirst
        cases heq
        exact List.mem_cons_self ..
      · exact List.mem_cons_of_mem _ (ih hrest)
  induction xs with
  | nil => exact List.nodup_nil
  | cons x rest ih =>
    obtain ⟨hx, hrest⟩ := List.nodup_cons.1 h
    refine List.nodup_append.2 ⟨hrest.map fun _ _ heq => (Prod.mk.inj heq).2, ih hrest, ?_⟩
    rintro first hfirst ⟨a, b⟩ hpair rfl
    obtain ⟨z, -, heq⟩ := List.mem_map.1 hfirst
    cases heq
    exact hx (hmem hpair)

/-- The findings about the pairs of a table name different pairs of it. -/
theorem objects_of_redundancyFindings {table : Text} (h : redundancyFindings table
      ((s.sortedIndexes.filter isComparable).filter fun index =>
        index.tableQualifiedName = table) = .ok found) :
    (found.map Finding.objects).Nodup ∧ ∀ f ∈ found, ∃ a b, s.Compares a b ∧
      a.tableQualifiedName = table ∧ f.objects = [a.qualifiedName, b.qualifiedName] := by
  have hreports : ∀ {pair : Index × Index} {report : List Finding},
      pair ∈ pairs ((s.sortedIndexes.filter isComparable).filter fun index =>
        index.tableQualifiedName = table) → redundancyReport table pair = .ok report →
      s.Compares pair.1 pair.2 ∧ pair.1.tableQualifiedName = table ∧ ∀ f ∈ report,
        f.objects = [pair.1.qualifiedName, pair.2.qualifiedName] := by
    intro pair report hpair hreport
    obtain ⟨hcompares, htable⟩ := mem_pairs_iff_compares.1 hpair
    subst htable
    exact ⟨hcompares, rfl, fun f hf => objects_of_redundancyReport hcompares hreport hf⟩
  have hindexes : ((s.sortedIndexes.filter isComparable).filter fun index =>
      index.tableQualifiedName = table).Nodup :=
    ((s.sortedIndexes_pairwise.imp fun hlt heq => hlt.2 (congrArg _ heq)).filter _).filter _
  refine ⟨Traversal.nodup_gathered h ?_ ?_, fun f hf => ?_⟩
  · intro pair _ report hreport
    exact nodup_objects_of_length_le_one (redundancyReport_length hreport)
  -- Identifiers tell indexes apart, so they tell pairs apart.
  · refine List.Pairwise.imp_of_mem ?_ (pairs_nodup hindexes)
    intro pair pair' hpair hpair' hne report report' hreport hreport' f hf g hg heq
    obtain ⟨hab, -, hobjects⟩ := hreports hpair hreport
    obtain ⟨hab', -, hobjects'⟩ := hreports hpair' hreport'
    rw [hobjects f hf, hobjects' g hg, List.cons.injEq, List.cons.injEq] at heq
    exact hne (Prod.ext (s.index_eq hab.left_mem hab'.left_mem heq.1)
      (s.index_eq hab.right_mem hab'.right_mem heq.2.1))
  · obtain ⟨pair, hpair, report, hreport, hf⟩ := (Traversal.mem_gathered h).1 hf
    obtain ⟨hab, htable, hobjects⟩ := hreports hpair hreport
    exact ⟨pair.1, pair.2, hab, htable, hobjects f hf⟩

/-- Texts from which repetitions were taken out are distinct. -/
theorem eraseDups_nodup (texts : List Text) : texts.eraseDups.Nodup := by
  match texts with
  | [] => exact List.nodup_nil
  | x :: rest =>
    rw [List.eraseDups_cons, List.nodup_cons]
    refine ⟨fun hmem => ?_, eraseDups_nodup (rest.filter fun y => !y == x)⟩
    simpa using (List.mem_filter.1 (List.mem_eraseDups.1 hmem)).2
termination_by texts.length
decreasing_by exact Nat.lt_succ_of_le (List.length_filter_le ..)

/-- A sorted list of texts has no repetition. -/
theorem sortedTexts_nodup (texts : List Text) : (sortedTexts texts).Nodup :=
  (sortBy_perm _).nodup_iff.2 (eraseDups_nodup texts)

/-- The check for redundant indexes has one finding about each index without keys and about each
pair. -/
theorem objects_nodup_duplicatedIndexes (h : duplicatedIndexes.run s t = .ok found) :
    (found.map Finding.objects).Nodup := by
  obtain ⟨reports, hreports, rfl⟩ := duplicatedIndexes_run.1 h
  have hkeyless : ∀ index, (keylessFinding index).objects = [index.qualifiedName] :=
    fun index => affectedObjects_index index
  have hgathered : (redundancyReports s).map List.flatten = .ok reports.flatten :=
    Traversal.map_eq_ok.2 ⟨reports, hreports, rfl⟩
  have hpairs : ∀ f ∈ reports.flatten, ∃ a b, s.Compares a b ∧
      f.objects = [a.qualifiedName, b.qualifiedName] := by
    intro f hf
    obtain ⟨a, b, redundancy, hab, -, hfinding⟩ := (mem_redundancyReports hreports).1 hf
    exact ⟨a, b, hab, (reportsPair_of_redundancyFinding hab.le hfinding).objects⟩
  rw [List.map_append, List.nodup_append]
  refine ⟨?_, ?_, ?_⟩
  · rw [List.map_map]
    have hindexes : (s.sortedIndexes.filter fun index => index.keys.isEmpty).Pairwise fun a b =>
        a.qualifiedName ≠ b.qualifiedName :=
      (s.sortedIndexes_pairwise.imp And.right).filter _
    refine List.pairwise_map.2 (hindexes.imp fun {a b} hne heq => hne ?_)
    rw [Function.comp, Function.comp, hkeyless, hkeyless] at heq
    exact List.singleton_injective heq
  · refine Traversal.nodup_gathered hgathered
      (fun table _ report hreport => (objects_of_redundancyFindings hreport).1) ?_
    -- The first index of a pair tells to which table the pair belongs.
    refine List.Pairwise.imp ?_ (sortedTexts_nodup _)
    intro table table' hne report report' hreport hreport' f hf g hg heq
    obtain ⟨a, b, hab, htable, hobjects⟩ := (objects_of_redundancyFindings hreport).2 f hf
    obtain ⟨a', b', hab', htable', hobjects'⟩ := (objects_of_redundancyFindings hreport').2 g hg
    rw [hobjects, hobjects', List.cons.injEq] at heq
    have hsame := s.index_eq hab.left_mem hab'.left_mem heq.1
    exact hne (htable.symm.trans (hsame ▸ htable'))
  · intro single hsingle objects hobjects heq
    obtain ⟨keyless, hmem, rfl⟩ := List.mem_map.1 hsingle
    obtain ⟨index, -, rfl⟩ := List.mem_map.1 hmem
    obtain ⟨f, hf, rfl⟩ := List.mem_map.1 hobjects
    obtain ⟨a, b, -, hpair⟩ := hpairs f hf
    rw [hkeyless, hpair] at heq
    cases (List.cons.inj heq).2

/-! ## All built-in checks -/

/-- No two findings of a built-in check name the same objects. -/
theorem objects_nodup_of_run {check : Check} (hcheck : check ∈ builtinChecks)
    (h : check.run s t = .ok found) : (found.map Finding.objects).Nodup := by
  simp only [builtinChecks, List.mem_cons, List.not_mem_nil, or_false] at hcheck
  rcases hcheck with rfl | rfl | rfl | rfl | rfl | rfl | rfl | rfl | rfl
  · cases h
    exact objects_nodup_reportedUnless s.indexes_nodup affectedObjects_index
  · exact objects_nodup_duplicatedIndexes h
  · exact objects_nodup_gathered s.indexes_nodup h (fun _ _ => unusedReport_length)
      fun _ _ hreport _ => objects_of_unusedReport hreport
  · exact objects_nodup_gathered s.indexes_nodup h (fun _ _ => bloatReport_length)
      fun _ _ hreport _ => objects_of_indexBloatReport hreport
  · cases h
    exact objects_nodup_reportedUnless s.tables_nodup fun table =>
      affectedObjects_qualify table.schema table.name
  · exact objects_nodup_gathered s.tables_nodup h (fun _ _ => bloatReport_length)
      fun _ _ hreport _ => objects_of_tableBloatReport hreport
  · have hnodup := s.constraints_nodup.sublist
      ((List.filter_sublist (p := fun con : Constraint => con.kind = .foreignKey)).map _)
    exact objects_nodup_gathered hnodup h (fun _ _ => coverReport_length)
      fun _ _ hreport _ => objects_of_coverReport hreport
  · cases h
    exact objects_nodup_reportedUnless s.constraints_nodup Constraint.affectedObjects_eq
  · exact objects_nodup_gathered s.sequences_nodup h (fun _ _ => sequenceReport_length)
      fun _ _ hreport _ => objects_of_sequenceReport hreport

/-! ## The objects of a finding -/

/-- An object of a snapshot is one of those from which a finding was made: the one that a check
looked at, or one of the two that it compared. -/
inductive Finding.BuiltFrom (s : Snapshot) (t : Thresholds) : Finding → SchemaObject → Prop where
  /-- An invalid index. -/
  | invalidIndex {index : Index} : index ∈ s.indexes →
    BuiltFrom s t (invalidIndexFinding index) (.index index)
  /-- An index without keys. -/
  | keylessIndex {index : Index} : index ∈ s.indexes →
    BuiltFrom s t (keylessFinding index) (.index index)
  /-- The first index of a pair. -/
  | firstIndex {a b : Index} {redundancy : Redundancy} {f : Finding} : s.Compares a b →
    redundancyFinding a.tableQualifiedName a b redundancy = .ok f →
    BuiltFrom s t f (.index a)
  /-- The second index of a pair. -/
  | secondIndex {a b : Index} {redundancy : Redundancy} {f : Finding} : s.Compares a b →
    redundancyFinding a.tableQualifiedName a b redundancy = .ok f →
    BuiltFrom s t f (.index b)
  /-- An unused index. -/
  | unusedIndex {index : Index} {report : List Finding} {f : Finding} : index ∈ s.indexes →
    unusedReport s t index = .ok report → f ∈ report → BuiltFrom s t f (.index index)
  /-- A bloated index. -/
  | bloatedIndex {index : Index} {report : List Finding} {f : Finding} : index ∈ s.indexes →
    indexBloatReport t index = .ok report → f ∈ report → BuiltFrom s t f (.index index)
  /-- A table without a primary key. -/
  | keylessTable {table : Table} : table ∈ s.tables →
    BuiltFrom s t (missingPrimaryKeyFinding table) (.table table)
  /-- A bloated table. -/
  | bloatedTable {table : Table} {report : List Finding} {f : Finding} : table ∈ s.tables →
    tableBloatReport t table = .ok report → f ∈ report → BuiltFrom s t f (.table table)
  /-- A foreign key. -/
  | foreignKey {key : Constraint} {report : List Finding} {f : Finding} : key ∈ s.constraints →
    coverReport s key = .ok report → f ∈ report → BuiltFrom s t f (.constraint key)
  /-- A constraint that was never validated. -/
  | unvalidated {con : Constraint} : con ∈ s.constraints →
    BuiltFrom s t (notValidConstraintFinding con) (.constraint con)
  /-- A sequence. -/
  | sequence {seq : Sequence} {report : List Finding} {f : Finding} : seq ∈ s.sequences →
    sequenceReport t seq = .ok report → f ∈ report → BuiltFrom s t f (.sequence seq)

namespace Finding.BuiltFrom

/-- Findings are made from objects of the snapshot. -/
theorem mem_objects {object : SchemaObject} (h : f.BuiltFrom s t object) : object ∈ s.objects := by
  cases h with
  | invalidIndex hmem | keylessIndex hmem | unusedIndex hmem | bloatedIndex hmem =>
    exact Snapshot.index_mem_objects.2 hmem
  | firstIndex hab => exact Snapshot.index_mem_objects.2 hab.left_mem
  | secondIndex hab => exact Snapshot.index_mem_objects.2 hab.right_mem
  | keylessTable hmem | bloatedTable hmem => exact Snapshot.table_mem_objects.2 hmem
  | foreignKey hmem | unvalidated hmem => exact Snapshot.constraint_mem_objects.2 hmem
  | sequence hmem => exact Snapshot.sequence_mem_objects.2 hmem

/-- A finding names the objects from which it was made. -/
theorem name_mem {object : SchemaObject} (h : f.BuiltFrom s t object) :
    object.qualifiedName ∈ f.objects := by
  have hsingle : ∀ {name : Text}, f.objects = [name] → name ∈ f.objects :=
    fun hobjects => hobjects ▸ List.mem_singleton_self _
  cases h with
  | @invalidIndex index _ => exact hsingle (affectedObjects_index index)
  | @keylessIndex index _ => exact hsingle (affectedObjects_index index)
  | firstIndex hab hfinding =>
    rw [(reportsPair_of_redundancyFinding hab.le hfinding).objects]
    exact List.mem_cons_self ..
  | secondIndex hab hfinding =>
    rw [(reportsPair_of_redundancyFinding hab.le hfinding).objects]
    exact List.mem_cons_of_mem _ (List.mem_singleton_self _)
  | unusedIndex _ hreport hf => exact hsingle (objects_of_unusedReport hreport hf)
  | bloatedIndex _ hreport hf => exact hsingle (objects_of_indexBloatReport hreport hf)
  | @keylessTable table _ => exact hsingle (affectedObjects_qualify table.schema table.name)
  | bloatedTable _ hreport hf => exact hsingle (objects_of_tableBloatReport hreport hf)
  | foreignKey _ hreport hf => exact hsingle (objects_of_coverReport hreport hf)
  | @unvalidated con _ => exact hsingle con.affectedObjects_eq
  | sequence _ hreport hf => exact hsingle (objects_of_sequenceReport hreport hf)

end Finding.BuiltFrom

/-- A finding about a foreign key is made from it and names nothing else. -/
theorem exists_builtFrom_key (h : foreignKeysWithoutIndex.run s t = .ok found) (hf : f ∈ found) :
    ∃ key ∈ s.constraints, f.BuiltFrom s t (.constraint key) ∧
      f.objects = [key.qualifiedName] := by
  obtain ⟨key, hmem, report, hreport, hf⟩ := (Traversal.mem_gathered h).1 hf
  have hkey := (List.mem_filter.1 (mem_sortBy.1 hmem)).1
  exact ⟨key, hkey, .foreignKey hkey hreport hf, objects_of_coverReport hreport hf⟩

/-- A finding of a built-in check names the object from which it was made, or the two. -/
theorem builtFrom_of_run {check : Check} (hcheck : check ∈ builtinChecks)
    (h : check.run s t = .ok found) (hf : f ∈ found) :
    (∃ object, f.BuiltFrom s t object ∧ f.objects = [object.qualifiedName]) ∨
      ∃ first second, f.BuiltFrom s t first ∧ f.BuiltFrom s t second ∧
        f.objects = [first.qualifiedName, second.qualifiedName] := by
  simp only [builtinChecks, List.mem_cons, List.not_mem_nil, or_false] at hcheck
  rcases hcheck with rfl | rfl | rfl | rfl | rfl | rfl | rfl | rfl | rfl
  · obtain ⟨index, hmem, -, rfl⟩ := (mem_invalidIndexes h).1 hf
    exact .inl ⟨_, .invalidIndex hmem, affectedObjects_index index⟩
  · rcases (mem_duplicatedIndexes h).1 hf with ⟨index, hmem, -, rfl⟩ | hpair
    · exact .inl ⟨_, .keylessIndex hmem, affectedObjects_index index⟩
    · obtain ⟨a, b, redundancy, hab, -, hfinding⟩ := hpair
      exact .inr ⟨_, _, .firstIndex hab hfinding, .secondIndex hab hfinding,
        (reportsPair_of_redundancyFinding hab.le hfinding).objects⟩
  · obtain ⟨index, hmem, report, hreport, hf⟩ := (Traversal.mem_gathered h).1 hf
    exact .inl ⟨_, .unusedIndex (mem_sortBy.1 hmem) hreport hf,
      objects_of_unusedReport hreport hf⟩
  · obtain ⟨index, hmem, report, hreport, hf⟩ := (Traversal.mem_gathered h).1 hf
    exact .inl ⟨_, .bloatedIndex (mem_sortBy.1 hmem) hreport hf,
      objects_of_indexBloatReport hreport hf⟩
  · obtain ⟨table, hmem, -, rfl⟩ := (mem_tablesWithoutPrimaryKey h).1 hf
    exact .inl ⟨_, .keylessTable hmem, affectedObjects_qualify table.schema table.name⟩
  · obtain ⟨table, hmem, report, hreport, hf⟩ := (Traversal.mem_gathered h).1 hf
    exact .inl ⟨_, .bloatedTable (mem_sortBy.1 hmem) hreport hf,
      objects_of_tableBloatReport hreport hf⟩
  · obtain ⟨key, -, hbuilt, hobjects⟩ := exists_builtFrom_key h hf
    exact .inl ⟨_, hbuilt, hobjects⟩
  · obtain ⟨con, hmem, -, rfl⟩ := (mem_notValidConstraints h).1 hf
    exact .inl ⟨_, .unvalidated hmem, con.affectedObjects_eq⟩
  · obtain ⟨seq, hmem, report, hreport, hf⟩ := (Traversal.mem_gathered h).1 hf
    exact .inl ⟨_, .sequence (mem_sortBy.1 hmem) hreport hf, objects_of_sequenceReport hreport hf⟩

/-- All that a finding of a built-in check names are objects from which it was made. -/
theorem exists_builtFrom {check : Check} (hcheck : check ∈ builtinChecks)
    (h : check.run s t = .ok found) (hf : f ∈ found) {name : Text} (hname : name ∈ f.objects) :
    ∃ object, f.BuiltFrom s t object ∧ object.qualifiedName = name := by
  rcases builtFrom_of_run hcheck h hf with
    ⟨object, hbuilt, hobjects⟩ | ⟨first, second, hfirst, hsecond, hobjects⟩
  · rw [hobjects] at hname
    exact ⟨object, hbuilt, (List.mem_singleton.1 hname).symm⟩
  · rw [hobjects, List.mem_cons, List.mem_singleton] at hname
    cases hname with
    | inl hname => exact ⟨first, hfirst, hname.symm⟩
    | inr hname => exact ⟨second, hsecond, hname.symm⟩

/-- Every finding of a built-in check names an object of the snapshot. -/
theorem names_object_of_run {check : Check} (hcheck : check ∈ builtinChecks)
    (h : check.run s t = .ok found) (hf : f ∈ found) :
    ∃ object ∈ s.objects, object.qualifiedName ∈ f.objects := by
  rcases builtFrom_of_run hcheck h hf with ⟨object, hbuilt, -⟩ | ⟨first, -, hfirst, -, -⟩
  · exact ⟨object, hbuilt.mem_objects, hbuilt.name_mem⟩
  · exact ⟨first, hfirst.mem_objects, hfirst.name_mem⟩

end CatalogHealth
