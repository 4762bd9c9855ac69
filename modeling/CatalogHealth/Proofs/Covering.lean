import CatalogHealth.Proofs.Judging
import CatalogHealth.Proofs.KeyIndex

/-!
# When a foreign key counts as covered

An index covers a foreign key with its first keys, as many as the foreign key has columns; what
follows them does not matter to a search. The check, however, passes over an index as soon as any
of its keys is an expression. So a foreign key is reported exactly if no index made of plain
columns and no primary key or uniqueness constraint covers it, which is more than the rule about
the first keys asks for where an expression follows the columns. Whether a planner would use the
index is outside the scope of this module.
-/

namespace CatalogHealth

variable {s : Snapshot} {t : Thresholds} {key : Constraint} {found : List Finding}

/-- An index finds the rows with given columns of a foreign key: what counts are as many of its
first keys as the foreign key has columns. -/
structure Index.Covers (index : Index) (key : Constraint) : Prop where
  /-- The index belongs to the table of the foreign key. -/
  table : index.tableQualifiedName = key.tableQualifiedName
  /-- The planner may use it. -/
  isValid : index.isValid = true
  /-- It has no condition. -/
  unconditional : index.predicate.truthy = false
  /-- It is a btree index, or a hash index if there is one column only. -/
  method : index.method = .text "btree" ∨
    index.method = .text "hash" ∧ key.columns.length = 1
  /-- The first keys are plain columns. -/
  leading_plain : ∀ leading ∈ index.keys.take key.columns.length, leading.isExpression = false
  /-- They are exactly the columns of the foreign key, in any order. -/
  leading_same : Value.sameSet
    ((index.keys.take key.columns.length).map (·.name)) key.columns = true

/-- A primary key or uniqueness constraint of the table begins with the columns of a foreign
key. -/
structure Constraint.Covers (con key : Constraint) : Prop where
  /-- Both belong to the same table. -/
  table : con.tableQualifiedName = key.tableQualifiedName
  /-- An index stands behind the constraint. -/
  kind : con.kind = .primaryKey ∨ con.kind = .unique
  /-- The first columns are exactly those of the foreign key, in any order. -/
  leading_same : Value.sameSet (con.columns.take key.columns.length) key.columns = true

/-- No key of an index is an expression. -/
def Index.IsPlain (index : Index) : Prop := ∀ key ∈ index.keys, key.isExpression = false

instance (index : Index) (key : Constraint) : Decidable (index.Covers key) :=
  decidable_of_iff (index.tableQualifiedName = key.tableQualifiedName ∧ index.isValid = true ∧
      index.predicate.truthy = false ∧
      (index.method = .text "btree" ∨ index.method = .text "hash" ∧ key.columns.length = 1) ∧
      (∀ leading ∈ index.keys.take key.columns.length, leading.isExpression = false) ∧
      Value.sameSet ((index.keys.take key.columns.length).map (·.name)) key.columns = true)
    ⟨fun ⟨htable, hvalid, hfull, hmethod, hplain, hsame⟩ =>
      ⟨htable, hvalid, hfull, hmethod, hplain, hsame⟩,
    fun h => ⟨h.table, h.isValid, h.unconditional, h.method, h.leading_plain, h.leading_same⟩⟩

instance (con key : Constraint) : Decidable (con.Covers key) :=
  decidable_of_iff (con.tableQualifiedName = key.tableQualifiedName ∧
      (con.kind = .primaryKey ∨ con.kind = .unique) ∧
      Value.sameSet (con.columns.take key.columns.length) key.columns = true)
    ⟨fun ⟨htable, hkind, hsame⟩ => ⟨htable, hkind, hsame⟩,
    fun h => ⟨h.table, h.kind, h.leading_same⟩⟩

instance (index : Index) : Decidable index.IsPlain :=
  inferInstanceAs (Decidable (∀ key ∈ index.keys, key.isExpression = false))

namespace Constraint

/-- An index or a constraint of the snapshot covers a foreign key. -/
def HasCover (s : Snapshot) (key : Constraint) : Prop :=
  (∃ index ∈ s.indexes, index.Covers key) ∨ ∃ con ∈ s.constraints, con.Covers key

/-- An index of plain columns or a constraint of the snapshot covers a foreign key. -/
def HasPlainCover (s : Snapshot) (key : Constraint) : Prop :=
  (∃ index ∈ s.indexes, index.IsPlain ∧ index.Covers key) ∨ ∃ con ∈ s.constraints, con.Covers key

instance : Decidable (key.HasCover s) :=
  inferInstanceAs (Decidable ((∃ index ∈ s.indexes, index.Covers key) ∨
    ∃ con ∈ s.constraints, con.Covers key))

instance : Decidable (key.HasPlainCover s) :=
  inferInstanceAs (Decidable ((∃ index ∈ s.indexes, index.IsPlain ∧ index.Covers key) ∨
    ∃ con ∈ s.constraints, con.Covers key))

/-- A plain cover is a cover. -/
theorem HasPlainCover.hasCover (h : key.HasPlainCover s) : key.HasCover s :=
  h.imp_left fun ⟨index, hindex, _, hcovers⟩ => ⟨index, hindex, hcovers⟩

/-- A foreign key is among those that are reported as uncovered. -/
def IsReported (key : Constraint) (found : List Finding) : Prop :=
  ∃ f ∈ found, f.severity = .warning ∧ f.objectName = key.qualifiedName

instance : Decidable (key.IsReported found) :=
  inferInstanceAs
    (Decidable (∃ f ∈ found, f.severity = .warning ∧ f.objectName = key.qualifiedName))

end Constraint

/-! ## The columns by which rows can be found -/

/-- The names of the columns are known if no key is an expression. -/
theorem Index.columnNames?_eq_some_iff {index : Index} {names : List Value} :
    index.columnNames? = some names ↔ index.IsPlain ∧ index.keys.map (·.name) = names := by
  unfold columnNames?
  by_cases hexpression : index.keys.any IndexKey.isExpression = true
  · have hplain : ¬index.IsPlain := by
      obtain ⟨key, hkey, hkind⟩ := List.any_eq_true.1 hexpression
      exact fun h => Bool.false_ne_true ((h key hkey).symm.trans hkind)
    simp [hexpression, hplain]
  · have hplain : index.IsPlain := fun key hkey => by
      rw [Bool.not_eq_true, List.any_eq_false] at hexpression
      simpa using hexpression key hkey
    simp [hexpression, hplain]

/-- An index serves foreign keys of some number of columns by all of its columns. -/
theorem servingColumns?_eq_some_iff {count : Nat} {index : Index} {names : List Value} :
    servingColumns? count index = some names ↔
      (index.IsPlain ∧ index.keys.map (·.name) = names) ∧ index.isValid = true ∧
        index.predicate.truthy = false ∧ names ≠ [] ∧
        (index.method = .text "btree" ∨ index.method = .text "hash" ∧ count = 1) := by
  unfold servingColumns?
  cases hnames : index.columnNames? with
  | none =>
    refine iff_of_false nofun fun h => ?_
    rw [Index.columnNames?_eq_some_iff.2 h.1] at hnames
    cases hnames
  | some columns =>
    obtain ⟨hplain, rfl⟩ := Index.columnNames?_eq_some_iff.1 hnames
    simp only [Option.ite_none_left_eq_some, Option.ite_none_right_eq_some, Option.some.injEq,
      Bool.or_eq_true, Bool.and_eq_true, decide_eq_true_eq, beq_iff_eq, not_or, Bool.not_eq_true,
      Bool.not_eq_false', List.isEmpty_eq_false_iff]
    constructor
    · rintro ⟨⟨⟨hvalid, hpredicate⟩, hne⟩, hmethod, rfl⟩
      exact ⟨⟨hplain, rfl⟩, hvalid, hpredicate, hne, hmethod⟩
    · rintro ⟨⟨-, rfl⟩, hvalid, hpredicate, hne, hmethod⟩
      exact ⟨⟨⟨hvalid, hpredicate⟩, hne⟩, hmethod, rfl⟩

/-- The paths to the rows of a table are those of its indexes and of the constraints behind which
an index stands. -/
theorem mem_accessPaths {table : Text} {count : Nat} {path : List Value} :
    path ∈ accessPaths s table count ↔
      (∃ index ∈ s.indexes, index.tableQualifiedName = table ∧
        servingColumns? count index = some path) ∨
      ∃ con ∈ s.constraints, con.tableQualifiedName = table ∧
        (con.kind = .primaryKey ∨ con.kind = .unique) ∧ con.columns = path := by
  simp only [accessPaths, Snapshot.indexesOf, Snapshot.constraintsOf, ConstraintType.hasIndex,
    List.mem_append, List.mem_filterMap, List.mem_map, List.mem_filter, decide_eq_true_eq,
    Bool.or_eq_true, and_assoc]

/-- No columns are not some columns. -/
theorem sameSet_nil_left {values : List Value} (hne : values ≠ []) :
    Value.sameSet [] values = false := by
  cases values with
  | nil => exact absurd rfl hne
  | cons value rest => simp [Value.sameSet, Value.isAmong]

/-- A foreign key with columns is covered for the check exactly if it has a plain cover. -/
theorem Constraint.isUncovered_iff (hne : key.columns ≠ []) :
    key.IsUncovered s ↔ ¬key.HasPlainCover s := by
  have hpaths : (∃ path ∈ accessPaths s key.tableQualifiedName key.columns.length,
      Value.sameSet (path.take key.columns.length) key.columns = true) ↔ key.HasPlainCover s := by
    constructor
    · rintro ⟨path, hpath, hsame⟩
      rcases mem_accessPaths.1 hpath with ⟨index, hindex, htable, hserves⟩ |
        ⟨con, hcon, htable, hkind, rfl⟩
      · obtain ⟨⟨hplain, rfl⟩, hvalid, hpredicate, -, hmethod⟩ :=
          servingColumns?_eq_some_iff.1 hserves
        rw [← List.map_take] at hsame
        have hleading : ∀ leading ∈ index.keys.take key.columns.length,
            leading.isExpression = false :=
          fun leading hleading => hplain leading (List.mem_of_mem_take hleading)
        exact .inl ⟨index, hindex, hplain,
          ⟨htable, hvalid, hpredicate, hmethod, hleading, hsame⟩⟩
      · exact .inr ⟨con, hcon, htable, hkind, hsame⟩
    · rintro (⟨index, hindex, hplain, hcovers⟩ | ⟨con, hcon, hcovers⟩)
      · have hkeys : index.keys.map (·.name) ≠ [] := by
          intro hempty
          have hsame := hcovers.leading_same
          rw [List.map_take, hempty, List.take_nil, sameSet_nil_left hne] at hsame
          cases hsame
        refine ⟨index.keys.map (·.name), mem_accessPaths.2 (.inl ⟨index, hindex, hcovers.table,
          servingColumns?_eq_some_iff.2 ⟨⟨hplain, rfl⟩, hcovers.isValid, hcovers.unconditional,
            hkeys, hcovers.method⟩⟩), ?_⟩
        rw [← List.map_take]
        exact hcovers.leading_same
      · exact ⟨con.columns, mem_accessPaths.2 (.inr ⟨con, hcon, hcovers.table, hcovers.kind, rfl⟩),
          hcovers.leading_same⟩
  rw [← hpaths]
  simp only [IsUncovered, not_exists, not_and, Bool.not_eq_true]

/-! ## The foreign keys that are reported -/

/-- Reported as uncovered are the foreign keys with columns that have no plain cover. -/
theorem Constraint.isReported_iff (hrun : foreignKeysWithoutIndex.run s t = .ok found)
    (hkey : key ∈ s.constraints) : key.IsReported found ↔
      key.kind = .foreignKey ∧ key.columns ≠ [] ∧ ¬key.HasPlainCover s := by
  constructor
  · rintro ⟨f, hf, hwarning, hname⟩
    obtain ⟨other, hother, hkind, hreports⟩ := (mem_foreignKeysWithoutIndex hrun).1 hf
    have hsame : other = key :=
      Snapshot.constraint_eq hother hkey (hreports.objectName_eq.symm.trans hname)
    subst hsame
    rcases hreports with ⟨-, rfl⟩ | ⟨hne, huncovered, -⟩
    · cases hwarning
    · exact ⟨hkind, hne, (isUncovered_iff hne).1 ((isCovered_eq_false_iff huncovered).1 rfl)⟩
  · rintro ⟨hkind, hne, hcover⟩
    have hjudgeable := exists_foreignKeysWithoutIndex_iff.1 ⟨found, hrun⟩ key hkey hkind hne
    obtain ⟨covered, hcovered⟩ :=
      exists_isCovered_iff.2 ⟨hjudgeable.columns_scalar, hjudgeable.leading_scalar⟩
    have huncovered := (isUncovered_iff hne).2 hcover
    obtain rfl := (isCovered_eq_false_iff hcovered).2 huncovered
    obtain ⟨columns, hcolumns⟩ :=
      Value.exists_joined_iff.2 (hjudgeable.columns_text huncovered)
    refine ⟨uncoveredKeyFinding s key columns key.refQualifiedName,
      (mem_foreignKeysWithoutIndex hrun).2 ⟨key, hkey, hkind,
        .inr ⟨hne, hcovered, columns, hcolumns, rfl⟩⟩, rfl, rfl⟩

/-- The check runs to its end exactly if all foreign keys with columns can be judged, and then a
foreign key with columns is reported as uncovered exactly if it has no plain cover. By the rule
about the first keys alone it would be reported exactly if it has no cover; so it is unless an
index covers it in which an expression follows, and no other index and no constraint does. -/
theorem uncovered_keys_reported_iff (hkey : key ∈ s.constraints) (hkind : key.kind = .foreignKey)
    (hne : key.columns ≠ []) :
    ((∃ found, foreignKeysWithoutIndex.run s t = .ok found) ↔ ∀ other ∈ s.constraints,
      other.kind = .foreignKey → other.columns ≠ [] → other.CoverJudgeable s) ∧
    ∀ found, foreignKeysWithoutIndex.run s t = .ok found →
      (key.IsReported found ↔ ¬key.HasPlainCover s) ∧
        ((key.IsReported found ↔ ¬key.HasCover s) ↔ (key.HasCover s → key.HasPlainCover s)) := by
  refine ⟨exists_foreignKeysWithoutIndex_iff, fun found hrun => ?_⟩
  have hreported : key.IsReported found ↔ ¬key.HasPlainCover s := by
    rw [Constraint.isReported_iff hrun hkey]
    exact ⟨fun h => h.2.2, fun h => ⟨hkind, hne, h⟩⟩
  refine ⟨hreported, ?_⟩
  rw [hreported, not_iff_not]
  exact ⟨fun h => h.2, fun h => ⟨Constraint.HasPlainCover.hasCover, h⟩⟩

/-- A foreign key of a table on some columns. -/
def plainKey (schema table name : String) (columns : List String) : Constraint where
  name := .text name
  kind := .foreignKey
  tableSchema := .text schema
  tableName := .text table
  columns := columns.map fun (column : String) => .text column

/-- The foreign key on one column. -/
def shopKey : Constraint := plainKey "public" "orders" "of_shop" ["shop"]

/-- The foreign key on two columns. -/
def dayTillKey : Constraint := plainKey "public" "orders" "of_day" ["day", "till"]

/-- An index on a column with an expression behind it. -/
def shopNoteIndex : Index :=
  { plainIndex "public" "orders" "by_shop_note" ["shop"] with
    keys := [{ name := .text "shop" }, { expression := .text "lower(note)" }] }

/-- A table with two foreign keys: an index begins with the columns of each, but that with the
column of the first one goes on with an expression. -/
def notedOrders : Snapshot :=
  { bareSnapshot with
    indexes := [shopNoteIndex, plainIndex "public" "orders" "by_till_day" ["till", "day", "shop"]]
    constraints := [shopKey, dayTillKey]
    indexes_nodup := by decide
    constraints_nodup := by decide }

/-- A foreign key is covered by the first two of three plain columns, in another order. -/
theorem uncovered_keys_reported_iff_notedOrders :
    dayTillKey ∈ notedOrders.constraints ∧ dayTillKey.kind = .foreignKey ∧
      dayTillKey.columns ≠ [] ∧ ∃ found, foreignKeysWithoutIndex.run notedOrders {} = .ok found ∧
        ¬dayTillKey.IsReported found ∧
        (dayTillKey.IsReported found ↔ ¬dayTillKey.HasCover notedOrders) := by
  have hmem : dayTillKey ∈ notedOrders.constraints := by decide
  have hne : dayTillKey.columns ≠ [] := by decide
  have hplain : dayTillKey.HasPlainCover notedOrders := by decide +kernel
  have hruns :
      (foreignKeysWithoutIndex.run notedOrders {}).toOption.any (fun _ => true) = true := by
    decide +kernel
  obtain ⟨found, hrun, -⟩ := Traversal.exists_ok_of_toOption hruns
  obtain ⟨hreported, hrule⟩ := (uncovered_keys_reported_iff hmem rfl hne).2 found hrun
  exact ⟨hmem, rfl, hne, found, hrun, fun h => hreported.1 h hplain, hrule.2 fun _ => hplain⟩

/-- A foreign key whose column leads an index is reported if an expression follows. -/
theorem notedOrders_reported_despite_cover :
    shopKey ∈ notedOrders.constraints ∧ shopKey.HasCover notedOrders ∧
      ∃ found, foreignKeysWithoutIndex.run notedOrders {} = .ok found ∧
        shopKey.IsReported found := by
  have hruns : (foreignKeysWithoutIndex.run notedOrders {}).toOption.any (fun found =>
      shopKey.IsReported found) = true := by
    decide +kernel
  obtain ⟨found, hrun, hreported⟩ := Traversal.exists_ok_of_toOption hruns
  exact ⟨by decide, by decide +kernel, found, hrun, of_decide_eq_true hreported⟩

end CatalogHealth
