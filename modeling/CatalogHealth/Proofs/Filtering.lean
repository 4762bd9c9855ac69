import CatalogHealth.Proofs.Redundancy

/-!
# Filtering a snapshot

A filter keeps the objects that satisfy a condition, and with a table that is left out go the
indexes and constraints that it owns. Whether an object survives is therefore decided by the object
and its owning table alone, and conditions can be applied one after the other or together. What is
left is again a snapshot that is accepted, and its look-ups find the survivors in their old order.
Conditions that may be at fault are outside the scope of this module.
-/

namespace CatalogHealth.Snapshot

variable {s s' : Snapshot} {keep : SchemaObject → Bool}

/-- Snapshots that list the same objects in the same order are the same. -/
theorem eq_of_lists (htables : s.tables = s'.tables) (hindexes : s.indexes = s'.indexes)
    (hconstraints : s.constraints = s'.constraints) (hsequences : s.sequences = s'.sequences)
    (hdatabase : s.database = s'.database) : s = s' := by
  cases s
  cases s'
  simp_all

/-! ## Survivors -/

/-- Whether an object passes a filter: it satisfies the condition, and so does the table that owns
it if that table is in the snapshot. -/
def survives (s : Snapshot) (keep : SchemaObject → Bool) (object : SchemaObject) : Bool :=
  keep object && (object.owner?.bind s.table?).all fun table => keep (.table table)

/-- A table is found under its identifier. -/
theorem table?_eq_some_iff {identifier : Text} {table : Table} :
    s.table? identifier = some table ↔ table ∈ s.tables ∧ table.qualifiedName = identifier := by
  constructor
  · intro h
    exact ⟨List.mem_of_find?_eq_some h, by simpa using List.find?_some h⟩
  · rintro ⟨hmem, rfl⟩
    have hsome : (s.table? table.qualifiedName).isSome = true := by
      rw [table?, List.find?_isSome]
      exact ⟨table, hmem, decide_eq_true rfl⟩
    obtain ⟨found, hfound⟩ := Option.isSome_iff_exists.1 hsome
    have hname : found.qualifiedName = table.qualifiedName := by
      simpa using List.find?_some hfound
    have hsame := List.inj_on_of_nodup_map s.tables_nodup (List.mem_of_find?_eq_some hfound) hmem
      hname
    rw [hfound, hsame]

/-- An identifier is dropped if the table that has it does not satisfy the condition. -/
theorem droppedTables_contains (owner : Text) : (s.droppedTables keep).contains owner =
    !(s.table? owner).all fun table => keep (.table table) := by
  have hkept : ∀ table ∈ s.tables, table.qualifiedName = owner →
      (owner ∈ (s.tables.filter fun t => keep (.table t)).map Table.qualifiedName ↔
        keep (.table table) = true) := by
    rintro table hmem rfl
    rw [List.mem_map]
    constructor
    · rintro ⟨other, hother, hname⟩
      obtain ⟨hother, hkeep⟩ := List.mem_filter.1 hother
      rwa [← List.inj_on_of_nodup_map s.tables_nodup hother hmem hname]
    · exact fun hkeep => ⟨table, List.mem_filter.2 ⟨hmem, hkeep⟩, rfl⟩
  rw [Bool.eq_iff_iff, List.contains_iff_mem, droppedTables, List.mem_filter]
  cases hfound : s.table? owner with
  | none =>
    have hunknown : owner ∉ s.tables.map Table.qualifiedName := by
      intro hmem
      obtain ⟨table, hmem, hname⟩ := List.mem_map.1 hmem
      have hsome := table?_eq_some_iff.2 ⟨hmem, hname⟩
      cases hfound.symm.trans hsome
    exact iff_of_false (fun h => hunknown h.1) (by simp)
  | some table =>
    obtain ⟨hmem, hname⟩ := table?_eq_some_iff.1 hfound
    have hknown : owner ∈ s.tables.map Table.qualifiedName := List.mem_map.2 ⟨table, hmem, hname⟩
    have hlost := not_congr (hkept table hmem hname)
    rw [← List.contains_iff_mem, Bool.not_eq_true, Bool.not_eq_true] at hlost
    simp only [hknown, true_and, Bool.not_eq_true', hlost, Option.all_some]

theorem filtered_indexes (s : Snapshot) (keep : SchemaObject → Bool) :
    (s.filtered keep).indexes = s.indexes.filter fun index => s.survives keep (.index index) := by
  refine List.filter_congr fun index _ => ?_
  rw [droppedTables_contains, Bool.not_not, Bool.and_comm]
  rfl

theorem filtered_constraints (s : Snapshot) (keep : SchemaObject → Bool) :
    (s.filtered keep).constraints =
      s.constraints.filter fun con => s.survives keep (.constraint con) := by
  refine List.filter_congr fun con _ => ?_
  rw [droppedTables_contains, Bool.not_not, Bool.and_comm]
  rfl

/-- A table is found after filtering if it was found before and satisfies the condition. -/
theorem table?_filtered (s : Snapshot) (keep : SchemaObject → Bool) (identifier : Text) :
    (s.filtered keep).table? identifier =
      (s.table? identifier).filter fun table => keep (.table table) := by
  refine Option.ext fun table => ?_
  rw [Option.filter_eq_some_iff, table?_eq_some_iff, table?_eq_some_iff]
  change table ∈ s.tables.filter _ ∧ _ ↔ _
  rw [List.mem_filter, and_right_comm]

/-- What survives two filters survives the filter by both conditions. -/
theorem survives_filtered (first second : SchemaObject → Bool) (object : SchemaObject) :
    (s.survives first object && (s.filtered first).survives second object) =
      s.survives (fun o => first o && second o) object := by
  unfold survives
  cases howner : object.owner?.bind s.table? with
  | none =>
    have hnone : object.owner?.bind (s.filtered first).table? = none := by
      rw [Option.bind_eq_none_iff] at howner ⊢
      intro owner hmem
      rw [table?_filtered, howner owner hmem]
      rfl
    simp [hnone]
  | some table =>
    obtain ⟨owner, hmem, htable⟩ := Option.bind_eq_some_iff.1 howner
    have hfiltered : object.owner?.bind (s.filtered first).table? =
        (some table).filter fun table => first (.table table) := by
      rw [hmem, Option.bind_some, table?_filtered, htable]
    rw [hfiltered]
    cases hfirst : first (.table table) with
    | false => simp [hfirst]
    | true => simp [hfirst, Bool.and_assoc]

/-! ## Laws -/

/-- Filtering by two conditions in turn is filtering by both. -/
theorem filtered_filtered (s : Snapshot) (first second : SchemaObject → Bool) :
    (s.filtered first).filtered second = s.filtered fun o => first o && second o := by
  have hindexes : ((s.filtered first).filtered second).indexes =
      (s.filtered fun o => first o && second o).indexes := by
    simp only [filtered_indexes, List.filter_filter, ← survives_filtered first second,
      Bool.and_comm]
  have hconstraints : ((s.filtered first).filtered second).constraints =
      (s.filtered fun o => first o && second o).constraints := by
    simp only [filtered_constraints, List.filter_filter, ← survives_filtered first second,
      Bool.and_comm]
  have htables : ((s.filtered first).filtered second).tables =
      (s.filtered fun o => first o && second o).tables := by
    simp only [filtered, List.filter_filter, Bool.and_comm]
  have hsequences : ((s.filtered first).filtered second).sequences =
      (s.filtered fun o => first o && second o).sequences := by
    simp only [filtered, List.filter_filter, Bool.and_comm]
  exact eq_of_lists htables hindexes hconstraints hsequences rfl

/-- A condition that all objects satisfy leaves the snapshot as it is. -/
theorem filtered_true (s : Snapshot) : (s.filtered fun _ => true) = s := by
  have hsurvives : ∀ object, s.survives (fun _ => true) object = true := fun object => by
    simp [survives]
  have hindexes : (s.filtered fun _ => true).indexes = s.indexes := by
    simp only [filtered_indexes, hsurvives, List.filter_true]
  have hconstraints : (s.filtered fun _ => true).constraints = s.constraints := by
    simp only [filtered_constraints, hsurvives, List.filter_true]
  exact eq_of_lists (List.filter_true ..) hindexes hconstraints (List.filter_true ..) rfl

/-- A condition that is never at fault puts no filter at fault. -/
theorem filteredBy_ok (s : Snapshot) (keep : SchemaObject → Bool) :
    s.filteredBy (fun o => .ok (keep o)) = .ok (s.filtered keep) := by
  have hasked : ∀ objects : List SchemaObject,
      (objects.forM fun o => discard (.ok (keep o) : Except Fault Bool)) = .ok ⟨⟩ := by
    intro objects
    induction objects with
    | nil => rfl
    | cons object rest ih =>
      rw [List.forM_eq_forM, List.forM_cons]
      exact ih
  exact Traversal.bind_eq_ok.2 ⟨⟨⟩, hasked _, rfl⟩

/-! ## What is left is accepted -/

/-- Whether all identifiers of a snapshot and of the tables that own its objects can be written. -/
def isWritable (s : Snapshot) : Bool :=
  (s.tables.all fun t => t.schema.isWritable && t.name.isWritable) &&
    (s.indexes.all fun i => i.tableSchema.isWritable && i.name.isWritable) &&
    (s.constraints.all fun c =>
      c.tableSchema.isWritable && c.tableName.isWritable && c.name.isWritable) &&
    (s.sequences.all fun q => q.schema.isWritable && q.name.isWritable) &&
    s.indexes.all fun i => i.tableName.isWritable

/-- Objects with distinct identifiers are accepted if these can be written. -/
theorem distinctObjects_of_nodup {α : Type} {kind : String} {identifier : α → Text}
    {isWritable : α → Bool} {objects : List α} (hnodup : (objects.map identifier).Nodup) :
    distinctObjects kind identifier isWritable objects =
      if objects.all isWritable then .ok ⟨objects, hnodup⟩ else .error .integerTooLong := by
  have hfree : ∀ part : List α, part.Sublist objects →
      firstRepeat [] (part.map identifier) = none := fun part hpart =>
    firstRepeat_eq_none_iff.2 ⟨hnodup.sublist (hpart.map identifier), by simp⟩
  unfold distinctObjects
  split
  · split
    · rename_i name hrepeat
      cases (hfree objects (List.Sublist.refl _)).symm.trans hrepeat
    · rfl
  · rw [hfree _ (List.takeWhile_sublist isWritable)]

/-- The objects of a snapshot make up the same snapshot again if their identifiers can be
written. -/
theorem ofObjects_eq (s : Snapshot) :
    ofObjects s.tables s.indexes s.constraints s.sequences s.database =
      if s.isWritable then .ok s else .error .integerTooLong := by
  unfold ofObjects isWritable
  rw [distinctObjects_of_nodup s.tables_nodup, distinctObjects_of_nodup s.indexes_nodup,
    distinctObjects_of_nodup s.constraints_nodup, distinctObjects_of_nodup s.sequences_nodup]
  simp only [Bool.and_eq_true, ite_and, Traversal.ite_bind]
  cases s.indexes.all fun i => i.tableName.isWritable with
  | false => rfl
  | true => rfl

/-- A snapshot is accepted if its objects make up a snapshot, which then is this one. -/
def IsAccepted (s : Snapshot) : Prop :=
  ofObjects s.tables s.indexes s.constraints s.sequences s.database = .ok s

theorem isAccepted_iff : s.IsAccepted ↔ s.isWritable = true := by
  rw [IsAccepted, ofObjects_eq]
  cases s.isWritable with
  | false => simp
  | true => simp

/-- What a filter leaves of an accepted snapshot is accepted. -/
theorem IsAccepted.filtered (h : s.IsAccepted) (keep : SchemaObject → Bool) :
    (s.filtered keep).IsAccepted := by
  have hpart : ∀ {α : Type} {p : α → Bool} {xs : List α} (q : α → Bool), xs.all p = true →
      (xs.filter q).all p = true := fun q hall =>
    List.all_eq_true.2 fun x hx => List.all_eq_true.1 hall x (List.mem_filter.1 hx).1
  rw [isAccepted_iff] at h ⊢
  simp only [isWritable, Bool.and_eq_true] at h ⊢
  obtain ⟨⟨⟨⟨htables, hindexes⟩, hconstraints⟩, hsequences⟩, howners⟩ := h
  exact ⟨⟨⟨⟨hpart _ htables, hpart _ hindexes⟩, hpart _ hconstraints⟩, hpart _ hsequences⟩,
    hpart _ howners⟩

/-! ## Filters as a whole -/

/-- What filtering a snapshot by two conditions does. -/
structure FilterLaws (s : Snapshot) (first second : SchemaObject → Bool) : Prop where
  /-- There is no fault. -/
  succeeds : s.filteredBy (fun o => .ok (first o)) = .ok (s.filtered first)
  /-- To apply one condition after the other is to apply both. -/
  composed : (s.filtered first).filtered second = s.filtered fun o => first o && second o
  /-- To apply a condition again changes nothing. -/
  idempotent : (s.filtered first).filtered first = s.filtered first
  /-- The order of the conditions does not matter. -/
  commuting : (s.filtered first).filtered second = (s.filtered second).filtered first
  /-- An index is left if it satisfies the condition and its table is kept or unknown. -/
  mem_indexes : ∀ index, index ∈ (s.filtered first).indexes ↔
    index ∈ s.indexes ∧ first (.index index) = true ∧
      ∀ table, s.table? index.tableQualifiedName = some table → first (.table table) = true
  /-- A constraint is left if it satisfies the condition and its table is kept or unknown. -/
  mem_constraints : ∀ con, con ∈ (s.filtered first).constraints ↔
    con ∈ s.constraints ∧ first (.constraint con) = true ∧
      ∀ table, s.table? con.tableQualifiedName = some table → first (.table table) = true
  /-- Under an identifier the table is found that has it and is left. -/
  table?_eq : ∀ identifier table, (s.filtered first).table? identifier = some table ↔
    table ∈ s.tables ∧ first (.table table) = true ∧ table.qualifiedName = identifier
  /-- To a table belong the indexes on it that are left, in their old order. -/
  indexesOf_eq : ∀ owner, (s.filtered first).indexesOf owner = s.indexes.filter fun index =>
    index.tableQualifiedName = owner ∧ s.survives first (.index index) = true
  /-- To a table belong the constraints on it that are left, in their old order. -/
  constraintsOf_eq : ∀ owner, (s.filtered first).constraintsOf owner =
    s.constraints.filter fun con =>
      con.tableQualifiedName = owner ∧ s.survives first (.constraint con) = true

/-- An object with an owner survives if it satisfies the condition and its owner is kept or
unknown. -/
theorem survives_iff {object : SchemaObject} {owner : Text} (howner : object.owner? = some owner) :
    s.survives keep object = true ↔ keep object = true ∧
      ∀ table, s.table? owner = some table → keep (.table table) = true := by
  rw [survives, howner, Option.bind_some, Bool.and_eq_true, Option.all_eq_true]

/-- Filters put nothing at fault and leave accepted snapshots accepted. They compose like their
conditions do, the condition that always holds changes nothing, an index or a constraint goes only
by itself or with its table, and look-ups find exactly what is left. -/
theorem filters_compose_and_cascade (s : Snapshot) :
    (s.IsAccepted → ∀ keep, (s.filtered keep).IsAccepted) ∧ (s.filtered fun _ => true) = s ∧
      ∀ first second, s.FilterLaws first second := by
  refine ⟨fun h keep => h.filtered keep, s.filtered_true, fun first second => ?_⟩
  refine ⟨s.filteredBy_ok first, s.filtered_filtered first second, ?_, ?_, ?_, ?_, ?_, ?_, ?_⟩
  · simp only [filtered_filtered, Bool.and_self]
  · simp only [filtered_filtered, Bool.and_comm]
  · intro index
    rw [filtered_indexes, List.mem_filter, survives_iff rfl]
  · intro con
    rw [filtered_constraints, List.mem_filter, survives_iff rfl]
  · intro identifier table
    rw [table?_filtered, Option.filter_eq_some_iff, table?_eq_some_iff, and_right_comm, and_assoc]
  · intro owner
    rw [indexesOf, filtered_indexes, List.filter_filter]
    exact List.filter_congr fun index _ => by simp
  · intro owner
    rw [constraintsOf, filtered_constraints, List.filter_filter]
    exact List.filter_congr fun con _ => by simp

/-- Two tables with an index each, and an index whose table is not listed. -/
def strayIndex : Snapshot :=
  { bareSnapshot with
    tables :=
      [{ schema := .text "public", name := .text "orders" },
       { schema := .text "public", name := .text "shops" }]
    indexes :=
      [plainIndex "public" "items" "by_code" ["code"],
       plainIndex "public" "orders" "by_day" ["day"],
       plainIndex "public" "shops" "by_name" ["name"]]
    tables_nodup := by decide
    indexes_nodup := by decide }

/-- Without one of the tables there are the index of the other one and the stray index. -/
theorem filters_compose_and_cascade_strayIndex : strayIndex.IsAccepted ∧
    (strayIndex.filtered fun o => o.qualifiedName ≠ "public.orders").IsAccepted ∧
    (strayIndex.filtered fun o => o.qualifiedName ≠ "public.orders").indexes =
      [plainIndex "public" "items" "by_code" ["code"],
       plainIndex "public" "shops" "by_name" ["name"]] := by
  have haccepted : strayIndex.IsAccepted := isAccepted_iff.2 (by decide +kernel)
  exact ⟨haccepted, (filters_compose_and_cascade strayIndex).1 haccepted _, by decide +kernel⟩

end CatalogHealth.Snapshot
