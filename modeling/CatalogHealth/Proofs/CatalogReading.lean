import CatalogHealth.Catalog.Session
import CatalogHealth.Proofs.CatalogRows
import CatalogHealth.Proofs.Filtering
import Mathlib.Data.List.TakeWhile

/-!
# What a catalogue is read as

A session gets the rows of five queries and joins them: neighbouring rows of an index become the
index, and tables take up the columns, indexes and constraints that carry their names. If rows of
an index stand together and identifiers are distinct, every row is found again in the snapshot, at
its own place and only there. Measurements of indexes, and rows of other types than the queries
answer, are outside the scope.
-/

namespace CatalogHealth

/-! ## Rows that stand together -/

section Groups

variable {α δ : Type} [DecidableEq δ] (path : α → δ)

/-- The first element of each path, in order. -/
def firstOfEach : List α → List α
  | [] => []
  | x :: rest => x :: (firstOfEach rest).filter fun y => path y ≠ path x

/-- Elements with the same path have no other one between them. -/
def StandTogether (xs : List α) : Prop :=
  ∀ i j k : Fin xs.length, i < j → j < k → path (xs.get i) = path (xs.get k) →
    path (xs.get j) = path (xs.get i)

instance (xs : List α) : Decidable (StandTogether path xs) :=
  inferInstanceAs (Decidable (∀ i j k : Fin xs.length, i < j → j < k →
    path (xs.get i) = path (xs.get k) → path (xs.get j) = path (xs.get i)))

variable {path} {xs rest : List α} {x y first : α}

theorem mem_of_mem_firstOfEach (h : x ∈ firstOfEach path xs) : x ∈ xs := by
  induction xs with
  | nil => cases h
  | cons y rest ih =>
    rcases List.mem_cons.1 h with rfl | hlater
    · exact List.mem_cons_self ..
    · exact List.mem_cons_of_mem _ (ih (List.mem_filter.1 hlater).1)

/-- Every path has a first element. -/
theorem exists_firstOfEach (h : x ∈ xs) : ∃ first ∈ firstOfEach path xs, path first = path x := by
  induction xs with
  | nil => cases h
  | cons y rest ih =>
    by_cases hsame : path y = path x
    · exact ⟨y, List.mem_cons_self .., hsame⟩
    · have hlater : x ∈ rest := by
        rcases List.mem_cons.1 h with rfl | hlater
        · exact absurd rfl hsame
        · exact hlater
      obtain ⟨first, hfirst, hpath⟩ := ih hlater
      have hother : path first ≠ path y := fun heq => hsame (heq.symm.trans hpath)
      exact ⟨first, List.mem_cons_of_mem _ (List.mem_filter.2 ⟨hfirst, decide_eq_true hother⟩),
        hpath⟩

/-- No path has two first elements. -/
theorem firstOfEach_paths_nodup (path : α → δ) (xs : List α) :
    ((firstOfEach path xs).map path).Nodup := by
  rw [List.Nodup, List.pairwise_map]
  induction xs with
  | nil => exact .nil
  | cons x rest ih =>
    refine List.pairwise_cons.2 ⟨fun y hy => ?_, ih.sublist List.filter_sublist⟩
    exact (of_decide_eq_true (List.mem_filter.1 hy).2).symm

/-- An element is in the group of its own path. -/
theorem filter_cons_self : ((x :: rest).filter fun z => path z = path x) =
    x :: rest.filter fun z => path z = path x :=
  List.filter_cons_of_pos (by simp)

/-- What has another path is not in the group. -/
theorem filter_cons_of_ne (rest : List α) (h : path x ≠ path first) :
    ((x :: rest).filter fun z => path z = path first) = rest.filter fun z => path z = path first :=
  List.filter_cons_of_neg (by simpa using h)

/-- The first element of a path is in front of all others of the path. -/
theorem exists_filter_eq_cons (h : first ∈ firstOfEach path xs) :
    ∃ others, (xs.filter fun x => path x = path first) = first :: others := by
  induction xs with
  | nil => cases h
  | cons y rest ih =>
    rcases List.mem_cons.1 h with rfl | hlater
    · exact ⟨_, filter_cons_self⟩
    · obtain ⟨hmem, hother⟩ := List.mem_filter.1 hlater
      obtain ⟨others, hothers⟩ := ih hmem
      have hskip := filter_cons_of_ne rest (of_decide_eq_true hother).symm
      exact ⟨others, hskip.trans hothers⟩

omit [DecidableEq δ] in
theorem StandTogether.tail (h : StandTogether path (x :: rest)) : StandTogether path rest :=
  fun i j k hij hjk heq =>
    h i.succ j.succ k.succ (Fin.succ_lt_succ_iff.2 hij) (Fin.succ_lt_succ_iff.2 hjk) heq

omit [DecidableEq δ] in
/-- If the second element has another path than the first one, so have all after it. -/
theorem StandTogether.ne_of_mem {later : List α} (h : StandTogether path (x :: y :: later))
    (hne : path x ≠ path y) {z : α} (hz : z ∈ y :: later) : path z ≠ path x := by
  intro heq
  rcases List.mem_cons.1 hz with rfl | hlater
  · exact hne heq.symm
  · obtain ⟨k, rfl⟩ := List.mem_iff_get.1 hlater
    have hbetween : (1 : Fin (later.length + 2)) < k.succ.succ := by
      rw [Fin.lt_def]
      simp
    exact hne (h 0 1 k.succ.succ Fin.zero_lt_one hbetween heq.symm).symm

/-- An element takes the place of the next one if that has the same path. -/
theorem firstOfEach_cons_of_eq (later : List α) (h : path x = path y) :
    firstOfEach path (x :: y :: later) =
      x :: (firstOfEach path later).filter fun z => path z ≠ path x := by
  simp [firstOfEach, h]

/-- An element comes in addition if no other one has the same path. -/
theorem firstOfEach_cons_of_ne (h : ∀ z ∈ rest, path z ≠ path x) :
    firstOfEach path (x :: rest) = x :: firstOfEach path rest := by
  have hkept : ((firstOfEach path rest).filter fun z => path z ≠ path x) = firstOfEach path rest :=
    List.filter_eq_self.2 fun z hz => decide_eq_true (h z (mem_of_mem_firstOfEach hz))
  rw [firstOfEach, hkept]

/-- An element joins the group behind it or makes up one of its own. -/
theorem runs_cons {β γ : Type} {same : β → β → Bool} {key next : β} {item : γ} {group : List γ}
    {behind : List (β × γ)} {more : List (β × List γ)}
    (h : runs same behind = (next, group) :: more) :
    runs same ((key, item) :: behind) =
      if same key next then (key, item :: group) :: more
      else (key, [item]) :: (next, group) :: more := by
  rw [runs, h]

/-- If elements of a path stand together, the groups of neighbours are those of the paths. -/
theorem runs_eq {β γ : Type} {same : β → β → Bool} {keyOf : α → β} {item : α → γ}
    (hsame : ∀ x y, same (keyOf x) (keyOf y) = decide (path x = path y))
    (h : StandTogether path xs) :
    runs same (xs.map fun x => (keyOf x, item x)) = (firstOfEach path xs).map fun first =>
      (keyOf first, (xs.filter fun x => path x = path first).map item) := by
  induction xs with
  | nil => rfl
  | cons x rest ih =>
    cases rest with
    | nil => simp [runs, firstOfEach]
    | cons y later =>
      have hbehind : runs same ((y :: later).map fun z => (keyOf z, item z)) =
          (keyOf y, ((y :: later).filter fun z => path z = path y).map item) ::
            ((firstOfEach path later).filter fun z => path z ≠ path y).map fun first =>
              (keyOf first, ((y :: later).filter fun z => path z = path first).map item) :=
        ih h.tail
      -- Other groups than its own do not see the new element.
      have hskip : ∀ heads : List α, (∀ first ∈ heads, path first ≠ path x) →
          (heads.map fun first =>
            (keyOf first, ((x :: y :: later).filter fun z => path z = path first).map item)) =
          heads.map fun first =>
            (keyOf first, ((y :: later).filter fun z => path z = path first).map item) :=
        fun heads hne => List.map_congr_left fun first hfirst => by
          rw [filter_cons_of_ne _ (hne first hfirst).symm]
      rw [List.map_cons, runs_cons hbehind, hsame]
      by_cases hxy : path x = path y
      · have hothers : ∀ first ∈ (firstOfEach path later).filter fun z => path z ≠ path x,
            path first ≠ path x := fun first hfirst =>
          of_decide_eq_true (List.mem_filter.1 hfirst).2
        rw [firstOfEach_cons_of_eq later hxy, List.map_cons, hskip _ hothers]
        simp [hxy]
      · have hne : ∀ z ∈ y :: later, path z ≠ path x := fun z hz => h.ne_of_mem hxy hz
        have hnone : ((y :: later).filter fun z => path z = path x) = [] :=
          List.filter_eq_nil_iff.2 fun z hz heq => hne z hz (of_decide_eq_true heq)
        have halone : ((x :: y :: later).filter fun z => path z = path x) = [x] :=
          filter_cons_self.trans (congrArg (x :: ·) hnone)
        rw [firstOfEach_cons_of_ne hne, List.map_cons,
          hskip _ fun first hfirst => hne first (mem_of_mem_firstOfEach hfirst), halone,
          firstOfEach, List.map_cons]
        simp [hxy]

end Groups

/-! ## Sessions that come to an end -/

namespace Session

variable {α β : Type} {session : Session α} {a : α} {b : β}

/-- Whatever was done before, the session comes to this. -/
def Yields (session : Session α) (a : α) : Prop :=
  ∀ state, ∃ state', session.run.run state = (.ok a, state')

theorem yields_pure (a : α) : (pure a : Session α).Yields a := fun state => ⟨state, rfl⟩

/-- A step that does nothing but have a result comes to the result. -/
theorem yields_lift {step : Except Fault α} (h : step = .ok a) :
    (liftM step : Session α).Yields a := by
  intro state
  rw [h]
  exact ⟨state, rfl⟩

/-- A session goes on with what it came to so far. -/
theorem Yields.bind {next : α → Session β} (h : session.Yields a) (hnext : (next a).Yields b) :
    (session >>= next).Yields b := by
  intro state
  obtain ⟨between, hbetween⟩ := h state
  obtain ⟨state', hstate'⟩ := hnext between
  refine ⟨state', ?_⟩
  rw [ExceptT.run_bind, StateT.run_bind, hbetween]
  exact hstate'

/-- A session asks about one thing after the other. -/
theorem yields_mapM {ask : α → Session β} {answer : α → β} {xs : List α}
    (h : ∀ x ∈ xs, (ask x).Yields (answer x)) : (xs.mapM ask).Yields (xs.map answer) := by
  induction xs with
  | nil => exact yields_pure []
  | cons x rest ih =>
    obtain ⟨hx, hrest⟩ := List.forall_mem_cons.1 h
    rw [List.mapM_cons]
    exact hx.bind ((ih hrest).bind (yields_pure _))

/-- A query is answered by the database. -/
theorem yields_ask {db : Database} {schemas : List Text} {query : CatalogQuery} {rows : List Row}
    (h : db.answer query = .ok rows) : (ask db schemas query).Yields rows := by
  intro state
  refine ⟨{ state with done := .query { query, schemas } :: state.done }, ?_⟩
  unfold ask
  rw [h]
  rfl

theorem Yields.runOn (h : session.Yields a) (db : Database) : (runOn db session).1 = .ok a := by
  obtain ⟨state', hstate'⟩ := h { measurements := db.measurements }
  rw [Session.runOn, hstate']

end Session

/-! ## Catalogues -/

/-- The rows that the queries of a catalogue answer. -/
structure CatalogRows where
  /-- The rows about tables. -/
  tables : List TableRow := []
  /-- The rows about columns. -/
  columns : List ColumnRow := []
  /-- The rows about keys of indexes. -/
  indexes : List IndexRow := []
  /-- The rows about constraints. -/
  constraints : List ConstraintRow := []
  /-- The rows about sequences. -/
  sequences : List SequenceRow := []

/-- A database answers each query with some rows. -/
structure Database.Answers (db : Database) (rows : CatalogRows) : Prop where
  /-- The rows about tables. -/
  tables : db.answer .tables = .ok (rows.tables.map TableRow.values)
  /-- The rows about columns. -/
  columns : db.answer .columns = .ok (rows.columns.map ColumnRow.values)
  /-- The rows about keys of indexes. -/
  indexes : db.answer .indexes = .ok (rows.indexes.map IndexRow.values)
  /-- The rows about constraints. -/
  constraints : db.answer .constraints = .ok (rows.constraints.map ConstraintRow.values)
  /-- The rows about sequences. -/
  sequences : db.answer .sequences = .ok (rows.sequences.map SequenceRow.values)

namespace CatalogRows

variable {rows : CatalogRows} {db : Database}

/-- What the order of the rows and the names in a catalogue guarantee. -/
structure IsOrderly (rows : CatalogRows) : Prop where
  /-- No two tables share an identifier. -/
  tables : (rows.tables.map TableRow.identifier).Nodup
  /-- No two constraints share an identifier. -/
  constraints : (rows.constraints.map ConstraintRow.identifier).Nodup
  /-- No two sequences share an identifier. -/
  sequences : (rows.sequences.map SequenceRow.identifier).Nodup
  /-- The rows of each index stand together. -/
  indexes_together : StandTogether IndexRow.path rows.indexes
  /-- No two indexes share an identifier. -/
  indexes_distinct : ∀ a ∈ rows.indexes, ∀ b ∈ rows.indexes,
    a.identifier = b.identifier → a.path = b.path

/-- The first row of each index. -/
def indexHeads (rows : CatalogRows) : List IndexRow := firstOfEach IndexRow.path rows.indexes

/-- All rows of the index of a row. -/
def indexRows (rows : CatalogRows) (first : IndexRow) : List IndexRow :=
  rows.indexes.filter fun row => row.path = first.path

/-- The index that a row begins, with the keys of all its rows. -/
def indexOf (rows : CatalogRows) (first : IndexRow) : Index := first.toIndex (rows.indexRows first)

/-- The table of a row, with what carries its schema and its name. -/
def tableOf (rows : CatalogRows) (row : TableRow) : Table where
  schema := .text row.schema
  name := .text row.table
  columns := (rows.columns.filter fun column =>
    column.schema = row.schema ∧ column.table = row.table).map ColumnRow.column
  rowEstimate := row.rowEstimate.getD 0
  sizeBytes := row.sizeBytes.getD 0
  bloatRatio := row.deadShare
  indexNames := (rows.indexHeads.filter fun index =>
    index.schema = row.schema ∧ index.table = row.table).map fun index => .text index.index
  constraintNames := (rows.constraints.filter fun con =>
    con.schema = row.schema ∧ con.table = row.table).map fun con => .text con.name

/-- The rows of all indexes make up the groups that are read. -/
theorem indexGroups_values (h : rows.IsOrderly) :
    indexGroups (rows.indexes.map IndexRow.values) =
      rows.indexHeads.map fun first =>
        (first.name, (rows.indexRows first).map IndexRow.values) := by
  have hsame : ∀ a b : IndexRow, a.name.same b.name = decide (a.path = b.path) := by
    intro a b
    simp [IndexRow.name, IndexRow.path, IndexName.same, Value.same_text, Bool.and_assoc]
  have hnamed : ((rows.indexes.map IndexRow.values).map fun row =>
      (indexNameOfRow? row).map (·, row)) =
        (rows.indexes.map fun row => (row.name, row.values)).map some := by
    simp [Function.comp_def, IndexRow.indexNameOfRow?_values]
  have hall : ((rows.indexes.map fun row => (row.name, row.values)).map some).takeWhile
      Option.isSome = (rows.indexes.map fun row => (row.name, row.values)).map some :=
    List.takeWhile_eq_self_iff.2 (by simp)
  have hrows : ((rows.indexes.map fun row => (row.name, row.values)).map some).filterMap id =
      rows.indexes.map fun row => (row.name, row.values) := by
    rw [List.filterMap_map, Function.id_comp, List.filterMap_some]
  have hlength : ¬((rows.indexes.map fun row => (row.name, row.values)).map some).length <
      (rows.indexes.map IndexRow.values).length := by
    simp
  unfold indexGroups
  simp only [hnamed, hall, hrows, if_neg hlength]
  exact runs_eq hsame h.indexes_together

/-- An index is read from its rows. -/
theorem yields_readIndex {schemas : List Text} {first : IndexRow} (h : first ∈ rows.indexHeads) :
    (Session.readIndex schemas false
      (first.name, (rows.indexRows first).map IndexRow.values)).Yields
        (some (rows.indexOf first)) := by
  obtain ⟨others, hothers⟩ := exists_filter_eq_cons h
  have hrows : rows.indexRows first = first :: others := hothers
  have hkeys : ((first :: others).map IndexRow.values).mapM (indexKeyOfRow (.text first.method)) =
      .ok ((first :: others).map (IndexRow.key? first.method)) :=
    Traversal.mapM_map_eq_map fun row _ => IndexRow.indexKeyOfRow_values first.method row
  have hindex := IndexRow.indexOfParts_head first (first :: others)
  rw [indexOf, hrows]
  refine (Session.yields_lift (IndexRow.indexHeadOfRow_values first)).bind ?_
  refine (Session.yields_lift hkeys).bind ?_
  refine (Session.yields_pure none).bind ?_
  exact (Session.yields_lift hindex).bind (Session.yields_pure _)

/-- The indexes are read from the rows of all of them. -/
theorem yields_readIndexes {schemas : List Text} (h : rows.IsOrderly) :
    (Session.readIndexes schemas false (rows.indexes.map IndexRow.values)).Yields
      (rows.indexHeads.map rows.indexOf) := by
  have hread : ((indexGroups (rows.indexes.map IndexRow.values)).mapM
      (Session.readIndex schemas false)).Yields
        (rows.indexHeads.map fun first => some (rows.indexOf first)) := by
    rw [indexGroups_values h, List.mapM_map]
    exact Session.yields_mapM fun first hfirst => yields_readIndex hfirst
  have hnames : ((rows.indexes.map IndexRow.values).any fun row =>
      (indexNameOfRow? row).isNone) = false := by
    simp [IndexRow.indexNameOfRow?_values]
  have hindexes : (rows.indexHeads.map fun first => some (rows.indexOf first)).filterMap id =
      rows.indexHeads.map rows.indexOf := by
    simp [List.filterMap_map]
  refine hread.bind ?_
  rw [hnames, hindexes]
  exact Session.yields_pure _

/-- The snapshot that lists what a catalogue holds. -/
def snapshot (rows : CatalogRows) (h : rows.IsOrderly) (database : Value) : Snapshot where
  tables := rows.tables.map rows.tableOf
  indexes := rows.indexHeads.map rows.indexOf
  constraints := rows.constraints.map ConstraintRow.constraint
  sequences := rows.sequences.map SequenceRow.sequence
  database
  tables_nodup := by
    rw [List.map_map]
    exact h.tables
  indexes_nodup := by
    have hpaths := firstOfEach_paths_nodup IndexRow.path rows.indexes
    rw [List.map_map]
    refine (List.Nodup.of_map _ hpaths).map_on fun a ha b hb heq => ?_
    have hpath := h.indexes_distinct a (mem_of_mem_firstOfEach ha) b (mem_of_mem_firstOfEach hb) heq
    exact List.inj_on_of_nodup_map hpaths ha hb hpath
  constraints_nodup := by
    rw [List.map_map]
    exact h.constraints
  sequences_nodup := by
    rw [List.map_map]
    exact h.sequences

/-- The objects of a catalogue are accepted, since all names are texts. -/
theorem isAccepted_snapshot (h : rows.IsOrderly) (database : Value) :
    (rows.snapshot h database).IsAccepted := by
  rw [Snapshot.isAccepted_iff]
  simp [Snapshot.isWritable, snapshot, tableOf, indexOf, IndexRow.toIndex,
    ConstraintRow.constraint, SequenceRow.sequence, Value.isWritable]

/-- A session reads the snapshot of the catalogue. -/
theorem yields_readSnapshot (h : rows.IsOrderly) (hanswers : db.Answers rows)
    (schemas : List Text) (database : Value) :
    (Session.readSnapshot db schemas false database).Yields (rows.snapshot h database) := by
  have hcolumns : (rows.columns.map ColumnRow.values).mapM columnOfRow = .ok (rows.columns.map
      fun row => (⟨.text row.schema, .text row.table⟩, row.column)) :=
    Traversal.mapM_map_eq_map fun row _ => row.columnOfRow_values
  have hconstraints : (rows.constraints.map ConstraintRow.values).mapM constraintOfRow =
      .ok (rows.constraints.map ConstraintRow.constraint) :=
    Traversal.mapM_map_eq_map fun row _ => row.constraintOfRow_values
  have hsequences : (rows.sequences.map SequenceRow.values).mapM sequenceOfRow =
      .ok (rows.sequences.map SequenceRow.sequence) :=
    Traversal.mapM_map_eq_map fun row _ => row.sequenceOfRow_values
  have hindexNames : ((rows.indexHeads.map rows.indexOf).mapM fun i => do
        return (← TableName.of i.tableSchema i.tableName, i.name) :
      Except Fault (List (TableName × Value))) = .ok (rows.indexHeads.map fun row =>
        (⟨.text row.schema, .text row.table⟩, .text row.index)) :=
    Traversal.mapM_map_eq_map fun row _ => rfl
  have hconstraintNames : ((rows.constraints.map ConstraintRow.constraint).mapM fun c => do
        return (← TableName.of c.tableSchema c.tableName, c.name) :
      Except Fault (List (TableName × Value))) = .ok (rows.constraints.map fun row =>
        (⟨.text row.schema, .text row.table⟩, .text row.name)) :=
    Traversal.mapM_map_eq_map fun row _ => rfl
  have htables : (rows.tables.map TableRow.values).mapM (tableOfRow
      (rows.columns.map fun row => (⟨.text row.schema, .text row.table⟩, row.column))
      (rows.indexHeads.map fun row => (⟨.text row.schema, .text row.table⟩, .text row.index))
      (rows.constraints.map fun row => (⟨.text row.schema, .text row.table⟩, .text row.name))) =
        .ok (rows.tables.map rows.tableOf) := by
    refine Traversal.mapM_map_eq_map fun row _ => ?_
    rw [TableRow.tableOfRow_values, belongingTo_map, belongingTo_map, belongingTo_map]
    rfl
  refine (Session.yields_ask hanswers.tables).bind ?_
  refine (Session.yields_ask hanswers.columns).bind ?_
  refine (Session.yields_lift hcolumns).bind ?_
  refine (Session.yields_ask hanswers.indexes).bind ?_
  refine (yields_readIndexes h).bind ?_
  refine (Session.yields_ask hanswers.constraints).bind ?_
  refine (Session.yields_lift hconstraints).bind ?_
  refine (Session.yields_ask hanswers.sequences).bind ?_
  refine (Session.yields_lift hsequences).bind ?_
  refine (Session.yields_lift hindexNames).bind ?_
  refine (Session.yields_lift hconstraintNames).bind ?_
  refine (Session.yields_lift htables).bind ?_
  exact Session.yields_lift (isAccepted_snapshot h database)

/-- A row about an index is one of the rows of exactly one index. -/
theorem existsUnique_indexHead {row : IndexRow} (h : row ∈ rows.indexes) :
    ∃! first, first ∈ rows.indexHeads ∧ row ∈ rows.indexRows first := by
  obtain ⟨first, hfirst, hpath⟩ : ∃ first ∈ rows.indexHeads, first.path = row.path :=
    exists_firstOfEach h
  refine ⟨first, ⟨hfirst, List.mem_filter.2 ⟨h, decide_eq_true hpath.symm⟩⟩, ?_⟩
  rintro other ⟨hother, hrow⟩
  have hsame : row.path = other.path := of_decide_eq_true (List.mem_filter.1 hrow).2
  exact List.inj_on_of_nodup_map (firstOfEach_paths_nodup IndexRow.path rows.indexes) hother
    hfirst (hsame.symm.trans hpath.symm)

/-- The keys of an index are expressions exactly where its rows have no column. -/
theorem isExpression_indexOf (first : IndexRow) :
    (rows.indexOf first).keys.map IndexKey.isExpression =
      ((rows.indexRows first).filter fun row => row.position.isSome).map fun row =>
        row.column.isNone := by
  rw [indexOf, IndexRow.toIndex, List.map_map]
  exact List.map_congr_left fun row _ => row.isExpression_key first.method

end CatalogRows

/-- What a snapshot lists if it is that of a catalogue. -/
structure Snapshot.Mirrors (s : Snapshot) (rows : CatalogRows) (database : Value) : Prop where
  /-- One table for each row, with the columns, indexes and constraints that carry its names. -/
  tables : s.tables = rows.tables.map rows.tableOf
  /-- One index for the first row of each, with the keys of all its rows. -/
  indexes : s.indexes = rows.indexHeads.map rows.indexOf
  /-- No two of these rows are about the same index. -/
  heads_distinct : (rows.indexHeads.map IndexRow.path).Nodup
  /-- Each row about an index is taken up by exactly one index. -/
  rows_kept : ∀ row ∈ rows.indexes, ∃! first, first ∈ rows.indexHeads ∧ row ∈ rows.indexRows first
  /-- The keys that are expressions are those of rows without a column. -/
  expressions : (s.indexes.map fun index => index.keys.map IndexKey.isExpression) =
    rows.indexHeads.map fun first =>
      ((rows.indexRows first).filter fun row => row.position.isSome).map fun row =>
        row.column.isNone
  /-- One constraint for each row. -/
  constraints : s.constraints = rows.constraints.map ConstraintRow.constraint
  /-- One sequence for each row. -/
  sequences : s.sequences = rows.sequences.map SequenceRow.sequence
  /-- The name of the database. -/
  database : s.database = database

/-- A session that reads an orderly catalogue comes to a snapshot in which nothing is lost,
repeated or misplaced. -/
theorem snapshot_mirrors_catalogue (rows : CatalogRows) (db : Database) (schemas : List Text)
    (database : Value) (horderly : rows.IsOrderly) (hanswers : db.Answers rows) :
    ∃ s, (Session.runOn db (Session.readSnapshot db schemas false database)).1 = .ok s ∧
      s.Mirrors rows database := by
  refine ⟨rows.snapshot horderly database,
    (CatalogRows.yields_readSnapshot horderly hanswers schemas database).runOn db, ?_⟩
  exact
    { tables := rfl
      indexes := rfl
      heads_distinct := firstOfEach_paths_nodup IndexRow.path rows.indexes
      rows_kept := fun _ hrow => CatalogRows.existsUnique_indexHead hrow
      expressions := by
        rw [CatalogRows.snapshot, List.map_map]
        exact List.map_congr_left fun first _ => CatalogRows.isExpression_indexOf first
      constraints := rfl
      sequences := rfl
      database := rfl }

/-- A catalogue with an index that has an expression among its keys and one without keys, with a
table without columns, and with a column of a table that is not listed. -/
def shopRows : CatalogRows where
  tables :=
    [{ schema := "public", table := "orders", rowEstimate := some 3, sizeBytes := some 8192,
       live := some 3, dead := some 1 },
     { schema := "public", table := "shops", rowEstimate := none, sizeBytes := none,
       live := none, dead := none }]
  columns :=
    [{ schema := "public", table := "orders", name := "id", dataType := "bigint",
       notNull := true },
     { schema := "public", table := "past", name := "day", dataType := "date",
       notNull := false }]
  indexes :=
    [{ schema := "public", table := "orders", index := "orders_day", isUnique := false,
       isValid := true, method := "btree", predicate := none, constraintName := none,
       sizeBytes := some 8192, scans := some 0, definition := none, position := some 1,
       column := some "id", keyDefinition := some "id", descending := some false,
       nullsFirst := some false, opclass := none, collation := none },
     { schema := "public", table := "orders", index := "orders_day", isUnique := false,
       isValid := true, method := "btree", predicate := none, constraintName := none,
       sizeBytes := some 8192, scans := some 0, definition := none, position := some 2,
       column := none, keyDefinition := some "date(placed)", descending := some true,
       nullsFirst := some true, opclass := none, collation := none },
     { schema := "public", table := "shops", index := "shops_none", isUnique := false,
       isValid := true, method := "btree", predicate := none, constraintName := none,
       sizeBytes := none, scans := none, definition := none, position := none, column := none,
       keyDefinition := none, descending := none, nullsFirst := none, opclass := none,
       collation := none }]
  constraints :=
    [{ schema := "public", table := "orders", name := "orders_pkey", kind := .primaryKey,
       validated := true, columns := ["id"], refSchema := none, refTable := none,
       refColumns := [] }]
  sequences :=
    [{ schema := "public", name := "orders_id_seq", dataType := "bigint", lastValue := some 3,
       minValue := some 1, maxValue := some 100, increment := 1, cycle := false }]

/-- The rows of the shop are orderly. -/
theorem isOrderly_shopRows : shopRows.IsOrderly where
  tables := by decide +kernel
  constraints := by decide +kernel
  sequences := by decide +kernel
  indexes_together := by decide +kernel
  indexes_distinct := by decide +kernel

/-- A database that answers some rows. -/
def CatalogRows.toDatabase (rows : CatalogRows) : Database where
  answer
    | .tables => .ok (rows.tables.map TableRow.values)
    | .columns => .ok (rows.columns.map ColumnRow.values)
    | .indexes => .ok (rows.indexes.map IndexRow.values)
    | .constraints => .ok (rows.constraints.map ConstraintRow.values)
    | .sequences => .ok (rows.sequences.map SequenceRow.values)
    | .indexBloat => .ok []

theorem CatalogRows.toDatabase_answers (rows : CatalogRows) : rows.toDatabase.Answers rows :=
  ⟨rfl, rfl, rfl, rfl, rfl⟩

/-- The catalogue of the shop is orderly and answered, so it is read without loss. -/
theorem snapshot_mirrors_catalogue_shopRows :
    shopRows.IsOrderly ∧ shopRows.toDatabase.Answers shopRows ∧
      ∃ s, (Session.runOn shopRows.toDatabase
        (Session.readSnapshot shopRows.toDatabase [] false (.text "shop"))).1 = .ok s ∧
          s.Mirrors shopRows (.text "shop") :=
  ⟨isOrderly_shopRows, shopRows.toDatabase_answers,
    snapshot_mirrors_catalogue shopRows shopRows.toDatabase [] (.text "shop") isOrderly_shopRows
      shopRows.toDatabase_answers⟩

end CatalogHealth
