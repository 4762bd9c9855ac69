import CatalogHealth.Snapshot.Object

/-!
# Snapshots

A snapshot holds the objects of one database at one instant. Identifiers are
distinct within each of its four lists; across the lists the same identifier
may occur again, and then a table is found before an index, an index before a
constraint and a constraint before a sequence. An identifier has to be one that
can be written, which an integer of too many digits in it prevents.
-/

namespace CatalogHealth

/-- The first text that occurs a second time, given the texts seen before. -/
def firstRepeat (seen : List Text) : List Text → Option Text
  | [] => none
  | x :: rest => if x ∈ seen then some x else firstRepeat (x :: seen) rest

theorem firstRepeat_eq_none_iff {seen xs : List Text} :
    firstRepeat seen xs = none ↔ xs.Nodup ∧ ∀ x ∈ xs, x ∉ seen := by
  induction xs generalizing seen with
  | nil => simp [firstRepeat]
  | cons x rest ih =>
    unfold firstRepeat
    split
    · rename_i h
      simp [h]
    · rename_i h
      rw [ih, List.nodup_cons]
      constructor
      · rintro ⟨hn, hs⟩
        refine ⟨⟨fun hx => hs x hx (List.mem_cons_self ..), hn⟩, fun y hy => ?_⟩
        rcases List.mem_cons.1 hy with rfl | hy
        · exact h
        · exact fun hys => hs y hy (List.mem_cons_of_mem _ hys)
      · rintro ⟨⟨hx, hn⟩, hs⟩
        refine ⟨hn, fun y hy hmem => ?_⟩
        rcases List.mem_cons.1 hmem with rfl | hmem
        · exact hx hy
        · exact hs y (List.mem_cons_of_mem _ hy) hmem

/-- A list without repetition repeats nothing. -/
theorem nodup_of_firstRepeat {xs : List Text} (h : firstRepeat [] xs = none) : xs.Nodup :=
  (firstRepeat_eq_none_iff.1 h).1

/-- The objects of one database at one instant. -/
structure Snapshot where
  /-- The tables. -/
  tables : List Table := []
  /-- The indexes. -/
  indexes : List Index := []
  /-- The constraints. -/
  constraints : List Constraint := []
  /-- The sequences. -/
  sequences : List Sequence := []
  /-- The name of the database, empty if it has none. -/
  database : Value := .text ""
  /-- No two tables share an identifier. -/
  tables_nodup : (tables.map Table.qualifiedName).Nodup := by decide
  /-- No two indexes share an identifier. -/
  indexes_nodup : (indexes.map Index.qualifiedName).Nodup := by decide
  /-- No two constraints share an identifier. -/
  constraints_nodup : (constraints.map Constraint.qualifiedName).Nodup := by decide
  /-- No two sequences share an identifier. -/
  sequences_nodup : (sequences.map Sequence.qualifiedName).Nodup := by decide
deriving DecidableEq, Repr

namespace Snapshot

/-- Objects of one kind with distinct identifiers. The first object whose
identifier cannot be written, or is that of an object in front of it, is
refused. -/
def distinctObjects {α : Type} (kind : String) (identifier : α → Text) (isWritable : α → Bool)
    (objects : List α) : Except Fault { xs : List α // (xs.map identifier).Nodup } :=
  if objects.all isWritable then
    match h : firstRepeat [] (objects.map identifier) with
    | some name => .error (.duplicateIdentifier kind name)
    | none => .ok ⟨objects, nodup_of_firstRepeat h⟩
  else
    match firstRepeat [] ((objects.takeWhile isWritable).map identifier) with
    | some name => .error (.duplicateIdentifier kind name)
    | none => .error .integerTooLong

/-- Objects are accepted as they are. -/
theorem val_of_distinctObjects {α : Type} {kind : String} {identifier : α → Text}
    {isWritable : α → Bool} {objects : List α}
    {accepted : { xs : List α // (xs.map identifier).Nodup }}
    (h : distinctObjects kind identifier isWritable objects = .ok accepted) :
    accepted.1 = objects := by
  unfold distinctObjects at h
  split at h
  · split at h
    · cases h
    · cases h
      rfl
  · split at h <;> cases h

/-- A snapshot of the given objects, which are accepted kind by kind: tables
first, then indexes, constraints and sequences. -/
def ofObjects (tables : List Table) (indexes : List Index) (constraints : List Constraint)
    (sequences : List Sequence) (database : Value) : Except Fault Snapshot := do
  let ⟨tables, tables_nodup⟩ ←
    distinctObjects "tables" Table.qualifiedName
      (fun t => t.schema.isWritable && t.name.isWritable) tables
  let ⟨indexes, indexes_nodup⟩ ←
    distinctObjects "indexes" Index.qualifiedName
      (fun i => i.tableSchema.isWritable && i.name.isWritable) indexes
  let ⟨constraints, constraints_nodup⟩ ←
    distinctObjects "constraints" Constraint.qualifiedName
      (fun c => c.tableSchema.isWritable && c.tableName.isWritable && c.name.isWritable) constraints
  let ⟨sequences, sequences_nodup⟩ ←
    distinctObjects "sequences" Sequence.qualifiedName
      (fun q => q.schema.isWritable && q.name.isWritable) sequences
  if !indexes.all fun i => i.tableName.isWritable then throw .integerTooLong
  return { tables, indexes, constraints, sequences, database, tables_nodup, indexes_nodup,
           constraints_nodup, sequences_nodup }

/-- The table with an identifier. -/
def table? (s : Snapshot) (identifier : Text) : Option Table :=
  s.tables.find? fun t => t.qualifiedName = identifier

/-- All objects, by kind. -/
def objects (s : Snapshot) : List SchemaObject :=
  s.tables.map .table ++ s.indexes.map .index ++ s.constraints.map .constraint ++
    s.sequences.map .sequence

theorem table_mem_objects {s : Snapshot} {table : Table} :
    SchemaObject.table table ∈ s.objects ↔ table ∈ s.tables := by simp [objects]

theorem index_mem_objects {s : Snapshot} {index : Index} :
    SchemaObject.index index ∈ s.objects ↔ index ∈ s.indexes := by simp [objects]

theorem constraint_mem_objects {s : Snapshot} {con : Constraint} :
    SchemaObject.constraint con ∈ s.objects ↔ con ∈ s.constraints := by simp [objects]

theorem sequence_mem_objects {s : Snapshot} {seq : Sequence} :
    SchemaObject.sequence seq ∈ s.objects ↔ seq ∈ s.sequences := by simp [objects]

/-- The first object with an identifier. -/
def object? (s : Snapshot) (identifier : Text) : Option SchemaObject :=
  s.objects.find? fun o => o.qualifiedName = identifier

/-- The indexes that a table owns. -/
def indexesOf (s : Snapshot) (identifier : Text) : List Index :=
  s.indexes.filter fun i => i.tableQualifiedName = identifier

/-- The constraints that a table owns. -/
def constraintsOf (s : Snapshot) (identifier : Text) : List Constraint :=
  s.constraints.filter fun c => c.tableQualifiedName = identifier

/-- The identifiers of the tables that a condition drops. -/
def droppedTables (s : Snapshot) (keep : SchemaObject → Bool) : List Text :=
  (s.tables.map Table.qualifiedName).filter fun name =>
    !((s.tables.filter fun t => keep (.table t)).map Table.qualifiedName).contains name

/-- The objects that satisfy a condition. A table that is dropped takes its
indexes and constraints with it; an index or a constraint whose table is not in
the snapshot is judged by itself. -/
def filtered (s : Snapshot) (keep : SchemaObject → Bool) : Snapshot where
  tables := s.tables.filter fun t => keep (.table t)
  indexes := s.indexes.filter fun i =>
    !(s.droppedTables keep).contains i.tableQualifiedName && keep (.index i)
  constraints := s.constraints.filter fun c =>
    !(s.droppedTables keep).contains c.tableQualifiedName && keep (.constraint c)
  sequences := s.sequences.filter fun q => keep (.sequence q)
  database := s.database
  tables_nodup := s.tables_nodup.sublist (List.filter_sublist.map _)
  indexes_nodup := s.indexes_nodup.sublist (List.filter_sublist.map _)
  constraints_nodup := s.constraints_nodup.sublist (List.filter_sublist.map _)
  sequences_nodup := s.sequences_nodup.sublist (List.filter_sublist.map _)

/-- The objects about which a filter asks its condition, in order: all but the
indexes and constraints that go with their tables. -/
def judged (s : Snapshot) (keep : SchemaObject → Bool) : List SchemaObject :=
  s.objects.filter fun o => !o.owner?.any (s.droppedTables keep).contains

/-- The objects that satisfy a condition that may be at fault; the first fault
among the objects that it is asked about counts. -/
def filteredBy (s : Snapshot) (keep : SchemaObject → Except Fault Bool) :
    Except Fault Snapshot := do
  let holds (o : SchemaObject) : Bool := (keep o).toOption.getD true
  (s.judged holds).forM fun o => discard (keep o)
  return s.filtered holds

end Snapshot

end CatalogHealth
