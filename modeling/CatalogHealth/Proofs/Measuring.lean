import CatalogHealth.Catalog.Session
import CatalogHealth.Proofs.Traversal

/-!
# What a session measures

A session that measures indexes asks for the density of those that can be measured, one after the
other, and the database answers in the same order. So it can be told from the snapshot that is read
which names were sent and which answer each index got. Sessions that end with a fault, and what is
made of an answer, are outside the scope.
-/

namespace CatalogHealth

/-! ## Names and answers -/

/-- Whether an index can be measured. -/
def Index.isMeasurable (index : Index) : Bool := index.method = .text "btree" && index.isValid

/-- The text under which an index is measured. -/
def Index.measuredName (index : Index) : Text :=
  measuredIdentifier ⟨index.tableSchema, index.tableName, index.name⟩

/-- The estimate of an index is what the answer to its measurement shows; there is none if it was
not measured. -/
def Index.EstimatedBy (index : Index) : Option Answer → Prop
  | none => index.bloatRatio = none
  | some answer => bloatOfAnswer answer = .ok index.bloatRatio

/-- The texts under which the indexes that can be measured are measured, in order. -/
def measuredNames (indexes : List Index) : List Text :=
  (indexes.filter Index.isMeasurable).map Index.measuredName

/-- Indexes with the answers to their measurements. Each index that can be measured takes the next
answer, and there are no rows once the answers are used up. -/
def takeAnswers : List Index → List Answer → List (Index × Option Answer)
  | [], _ => []
  | index :: rest, answers =>
    if index.isMeasurable then
      (index, some (answers.headD (.ok []))) :: takeAnswers rest answers.tail
    else (index, none) :: takeAnswers rest answers

/-- The indexes stay as they are. -/
theorem takeAnswers_indexes (indexes : List Index) (answers : List Answer) :
    (takeAnswers indexes answers).map Prod.fst = indexes := by
  induction indexes generalizing answers with
  | nil => rfl
  | cons index rest ih =>
    rw [takeAnswers]
    cases index.isMeasurable with
    | true => exact congrArg (index :: ·) (ih answers.tail)
    | false => exact congrArg (index :: ·) (ih answers)

/-- The second part of a list of indexes gets the answers that the first part leaves. -/
theorem takeAnswers_append (indexes others : List Index) (answers : List Answer) :
    takeAnswers (indexes ++ others) answers = takeAnswers indexes answers ++
      takeAnswers others (answers.drop (measuredNames indexes).length) := by
  induction indexes generalizing answers with
  | nil => rfl
  | cons index rest ih =>
    rw [List.cons_append, takeAnswers, takeAnswers, measuredNames]
    cases hmeasurable : index.isMeasurable with
    | true =>
      rw [List.filter_cons_of_pos hmeasurable, List.map_cons, List.length_cons, ← List.drop_tail]
      exact congrArg (_ :: ·) (ih answers.tail)
    | false =>
      rw [List.filter_cons_of_neg (by simp [hmeasurable])]
      exact congrArg (_ :: ·) (ih answers)

/-- If each answer is the one to the text that was sent, each index gets the answer to its own. -/
theorem takeAnswers_map {answer : Text → Answer} {indexes : List Index} {index : Index}
    (hmem : index ∈ indexes) (hmeasurable : index.isMeasurable = true) :
    (index, some (answer index.measuredName)) ∈
      takeAnswers indexes ((measuredNames indexes).map answer) := by
  induction indexes with
  | nil => cases hmem
  | cons first rest ih =>
    rw [takeAnswers, measuredNames]
    cases hfirst : first.isMeasurable with
    | true =>
      rw [List.filter_cons_of_pos hfirst]
      rcases List.mem_cons.1 hmem with rfl | hrest
      · exact List.mem_cons_self ..
      · exact List.mem_cons_of_mem _ (ih hrest)
    | false =>
      rw [List.filter_cons_of_neg (by simp [hfirst])]
      rcases List.mem_cons.1 hmem with rfl | hrest
      · cases hmeasurable.symm.trans hfirst
      · exact List.mem_cons_of_mem _ (ih hrest)

/-- The text that was sent for a measurement, if something that a session did is one. -/
def SessionEvent.sentName? : SessionEvent → Option Text
  | query call => call.index
  | _ => none

/-- The texts that were sent for measurements. -/
def sentNames (events : List SessionEvent) : List Text := events.filterMap SessionEvent.sentName?

namespace Session

/-! ## Sessions and their states -/

section Steps

variable {α β : Type} {session : Session α} {next : α → Session β} {a : α} {b : β}
variable {state state' : SessionState}

/-- In a state a session comes to a result and leaves another state. -/
def LeadsTo (session : Session α) (state : SessionState) (a : α) (state' : SessionState) : Prop :=
  session.run.run state = (.ok a, state')

theorem leadsTo_pure_iff {c : α} :
    (pure c : Session α).LeadsTo state a state' ↔ c = a ∧ state = state' := by
  change ((Except.ok c, state) : Except Fault α × SessionState) = (.ok a, state') ↔ _
  rw [Prod.mk.injEq, Except.ok.injEq]

/-- A step that does nothing but have a result leaves the state as it is. -/
theorem leadsTo_lift_iff {step : Except Fault α} :
    (liftM step : Session α).LeadsTo state a state' ↔ step = .ok a ∧ state = state' := by
  change (step, state) = (.ok a, state') ↔ _
  rw [Prod.mk.injEq]

/-- A session goes on in the state that it came to. -/
theorem leadsTo_bind_iff : (session >>= next).LeadsTo state b state' ↔
    ∃ a between, session.LeadsTo state a between ∧ (next a).LeadsTo between b state' := by
  unfold LeadsTo
  rw [ExceptT.run_bind, StateT.run_bind]
  obtain ⟨result, between⟩ := session.run.run state
  cases result with
  | error fault =>
    refine iff_of_false (fun h => ?_) (by rintro ⟨a, between', ⟨⟩, -⟩)
    cases h
  | ok a =>
    constructor
    · exact fun h => ⟨a, between, rfl, h⟩
    · rintro ⟨a', between', heq, h⟩
      cases heq
      exact h

/-- A query is noted, and the answers to measurements are left. -/
theorem LeadsTo.ask {db : Database} {schemas : List Text} {query : CatalogQuery} {rows : List Row}
    (h : (ask db schemas query).LeadsTo state rows state') :
    state' = { state with done := .query { query, schemas } :: state.done } := by
  obtain ⟨_, between, hnote, hanswer⟩ := leadsTo_bind_iff.1 h
  obtain ⟨-, rfl⟩ := leadsTo_lift_iff.1 hanswer
  exact (Prod.mk.inj hnote).2.symm

/-- A measurement is noted and takes the next answer. -/
theorem LeadsTo.measure {schemas : List Text} {identifier : Text} {answer : Answer}
    (h : (measure schemas identifier).LeadsTo state answer state') :
    answer = state.measurements.headD (.ok []) ∧
      sentNames state'.done = identifier :: sentNames state.done ∧
        state'.measurements = state.measurements.tail := by
  obtain ⟨done, measurements⟩ := state
  cases measurements with
  | nil =>
    cases h
    exact ⟨rfl, rfl, rfl⟩
  | cons first rest =>
    cases h
    exact ⟨rfl, rfl, rfl⟩

/-- What a session came to, and what was done in order, is told by its last state. -/
theorem exists_state_of_runOn {db : Database} {log : List SessionEvent}
    (h : runOn db session = (.ok a, log)) :
    ∃ state', session.LeadsTo { measurements := db.measurements } a state' ∧
      log = state'.done.reverse := by
  obtain ⟨hresult, hlog⟩ := Prod.mk.inj h
  exact ⟨_, Prod.ext hresult rfl, hlog.symm⟩

end Steps

/-! ## Sessions that measure -/

variable {db : Database} {schemas : List Text} {state between state' : SessionState}

/-- Between two states some indexes were measured, and no others: the names of these were sent, the
latest first, the next answers show their estimates, and the other answers are left. -/
structure Measures (indexes : List Index) (state state' : SessionState) : Prop where
  /-- The names were sent. -/
  sent : sentNames state'.done = (measuredNames indexes).reverse ++ sentNames state.done
  /-- The estimates are those that the answers show. -/
  estimated : ∀ pair ∈ takeAnswers indexes state.measurements, pair.1.EstimatedBy pair.2
  /-- The other answers are left. -/
  left : state'.measurements = state.measurements.drop (measuredNames indexes).length

/-- Where nothing is done, nothing is measured. -/
theorem Measures.refl (state : SessionState) : Measures [] state state :=
  ⟨rfl, List.forall_mem_nil _, rfl⟩

/-- To measure some indexes and then others is to measure all of them. -/
theorem Measures.trans {indexes others : List Index} (h : Measures indexes state between)
    (h' : Measures others between state') : Measures (indexes ++ others) state state' := by
  have hnames : measuredNames (indexes ++ others) =
      measuredNames indexes ++ measuredNames others := by
    simp [measuredNames]
  refine ⟨?_, fun pair hpair => ?_, ?_⟩
  · rw [h'.sent, h.sent, hnames, List.reverse_append, List.append_assoc]
  · rw [takeAnswers_append] at hpair
    rcases List.mem_append.1 hpair with hfirst | hsecond
    · exact h.estimated pair hfirst
    · exact h'.estimated pair (h.left ▸ hsecond)
  · rw [h'.left, h.left, hnames, List.drop_drop, List.length_append]

/-- An index that can be measured takes the next answer. -/
theorem Measures.of_isMeasurable {index : Index} (hmeasurable : index.isMeasurable = true)
    (hsent : sentNames state'.done = index.measuredName :: sentNames state.done)
    (hshown : bloatOfAnswer (state.measurements.headD (.ok [])) = .ok index.bloatRatio)
    (hleft : state'.measurements = state.measurements.tail) : Measures [index] state state' := by
  have hnames : measuredNames [index] = [index.measuredName] := by
    simp [measuredNames, hmeasurable]
  refine ⟨by rw [hsent, hnames]; rfl, ?_, by rw [hleft, hnames]; exact List.drop_one.symm⟩
  simpa [takeAnswers, hmeasurable, Index.EstimatedBy] using hshown

/-- An index that cannot be measured has no estimate. -/
theorem Measures.of_not_isMeasurable {index : Index} (hmeasurable : ¬index.isMeasurable = true)
    (hnone : index.bloatRatio = none) : Measures [index] state state := by
  have hnames : measuredNames [index] = [] := by
    simp [measuredNames, hmeasurable]
  refine ⟨by rw [hnames]; rfl, ?_, by rw [hnames]; rfl⟩
  simpa [takeAnswers, hmeasurable, Index.EstimatedBy] using hnone

/-- A query of the catalogue measures nothing. -/
theorem LeadsTo.measures_ask {query : CatalogQuery} {rows : List Row}
    (h : (Session.ask db schemas query).LeadsTo state rows state') : Measures [] state state' := by
  obtain rfl := h.ask
  exact ⟨rfl, List.forall_mem_nil _, rfl⟩

/-- What is put together from the parts of an index has these parts. -/
theorem parts_of_indexOfParts {name : IndexName} {head : IndexHead} {keys : List IndexKey}
    {estimate : Option Binary64} {index : Index}
    (h : indexOfParts name head keys estimate = .ok index) :
    index.measuredName = measuredIdentifier name ∧
      index.isMeasurable = CatalogHealth.isMeasurable head ∧ index.bloatRatio = estimate := by
  obtain ⟨size, -, h⟩ := Traversal.bind_eq_ok.1 h
  split at h
  · cases Traversal.pure_eq_ok.1 h
    exact ⟨rfl, rfl, rfl⟩
  · obtain ⟨scans, -, h⟩ := Traversal.bind_eq_ok.1 h
    cases Traversal.pure_eq_ok.1 h
    exact ⟨rfl, rfl, rfl⟩

/-- To read an index is to measure it, if it can be measured. -/
theorem LeadsTo.measures_readIndex {group : IndexName × List Row} {index? : Option Index}
    (h : (readIndex schemas true group).LeadsTo state index? state') :
    Measures index?.toList state state' := by
  obtain ⟨name, rows⟩ := group
  cases rows with
  | nil =>
    obtain ⟨rfl, rfl⟩ := leadsTo_pure_iff.1 h
    exact Measures.refl state
  | cons first others =>
    obtain ⟨head, between, hhead, h⟩ := leadsTo_bind_iff.1 h
    obtain ⟨-, rfl⟩ := leadsTo_lift_iff.1 hhead
    obtain ⟨keys, between, hkeys, h⟩ := leadsTo_bind_iff.1 h
    obtain ⟨-, rfl⟩ := leadsTo_lift_iff.1 hkeys
    split at h
    · rename_i hcase
      obtain ⟨answer, measured, hanswer, h⟩ := leadsTo_bind_iff.1 h
      obtain ⟨estimate, between, hestimate, h⟩ := leadsTo_bind_iff.1 h
      obtain ⟨hshown, rfl⟩ := leadsTo_lift_iff.1 hestimate
      obtain ⟨index, between', hindex, h⟩ := leadsTo_bind_iff.1 h
      obtain ⟨hparts, rfl⟩ := leadsTo_lift_iff.1 hindex
      obtain ⟨rfl, rfl⟩ := leadsTo_pure_iff.1 h
      obtain ⟨rfl, hsent, hleft⟩ := hanswer.measure
      obtain ⟨hname, hmeasurable, rfl⟩ := parts_of_indexOfParts hparts
      rw [Bool.true_and, ← hmeasurable] at hcase
      exact Measures.of_isMeasurable hcase (hname ▸ hsent) hshown hleft
    · rename_i hcase
      obtain ⟨estimate, between, hestimate, h⟩ := leadsTo_bind_iff.1 h
      obtain ⟨rfl, rfl⟩ := leadsTo_pure_iff.1 hestimate
      obtain ⟨index, between', hindex, h⟩ := leadsTo_bind_iff.1 h
      obtain ⟨hparts, rfl⟩ := leadsTo_lift_iff.1 hindex
      obtain ⟨rfl, rfl⟩ := leadsTo_pure_iff.1 h
      obtain ⟨-, hmeasurable, hnone⟩ := parts_of_indexOfParts hparts
      rw [Bool.true_and, ← hmeasurable] at hcase
      exact Measures.of_not_isMeasurable hcase hnone

/-- To read one index after the other is to measure all that can be measured. -/
theorem LeadsTo.measures_mapM {groups : List (IndexName × List Row)} {found : List (Option Index)}
    (h : (groups.mapM (readIndex schemas true)).LeadsTo state found state') :
    Measures (found.filterMap id) state state' := by
  induction groups generalizing state found with
  | nil =>
    obtain ⟨rfl, rfl⟩ := leadsTo_pure_iff.1 h
    exact Measures.refl state
  | cons group rest ih =>
    rw [List.mapM_cons] at h
    obtain ⟨index?, between, hfirst, h⟩ := leadsTo_bind_iff.1 h
    obtain ⟨others, between', hrest, h⟩ := leadsTo_bind_iff.1 h
    obtain ⟨rfl, rfl⟩ := leadsTo_pure_iff.1 h
    have hsplit : (index? :: others).filterMap id = index?.toList ++ others.filterMap id := by
      cases index? <;> rfl
    rw [hsplit]
    exact hfirst.measures_readIndex.trans (ih hrest)

/-- The indexes that are read from rows are those that are measured. -/
theorem LeadsTo.measures_readIndexes {rows : List Row} {indexes : List Index}
    (h : (readIndexes schemas true rows).LeadsTo state indexes state') :
    Measures indexes state state' := by
  obtain ⟨found, between, hfound, h⟩ := leadsTo_bind_iff.1 h
  cases hnameless : rows.any fun row => (indexNameOfRow? row).isNone with
  | true =>
    rw [hnameless] at h
    cases h
  | false =>
    rw [hnameless] at h
    obtain ⟨rfl, rfl⟩ := leadsTo_pure_iff.1 h
    exact hfound.measures_mapM

end Session

/-- A snapshot of some objects lists the indexes among them. -/
theorem Snapshot.indexes_of_ofObjects {tables : List Table} {indexes : List Index}
    {constraints : List Constraint} {sequences : List Sequence} {database : Value} {s : Snapshot}
    (h : ofObjects tables indexes constraints sequences database = .ok s) :
    s.indexes = indexes := by
  obtain ⟨⟨tables', htables⟩, -, h⟩ := Traversal.bind_eq_ok.1 h
  obtain ⟨⟨indexes', hindexes⟩, hsame, h⟩ := Traversal.bind_eq_ok.1 h
  obtain ⟨⟨constraints', hconstraints⟩, -, h⟩ := Traversal.bind_eq_ok.1 h
  obtain ⟨⟨sequences', hsequences⟩, -, h⟩ := Traversal.bind_eq_ok.1 h
  dsimp only at h
  split at h
  · cases h
  · cases Traversal.pure_eq_ok.1 h
    exact val_of_distinctObjects hsame

namespace Session

variable {db : Database} {schemas : List Text} {state state' : SessionState}

/-- To read a snapshot is to measure its indexes. -/
theorem LeadsTo.measures_readSnapshot {database : Value} {s : Snapshot}
    (h : (readSnapshot db schemas true database).LeadsTo state s state') :
    Measures s.indexes state state' := by
  obtain ⟨tableRows, _, htables, h⟩ := leadsTo_bind_iff.1 h
  obtain ⟨columnRows, _, hcolumns, h⟩ := leadsTo_bind_iff.1 h
  obtain ⟨columns, _, hread, h⟩ := leadsTo_bind_iff.1 h
  obtain ⟨-, rfl⟩ := leadsTo_lift_iff.1 hread
  obtain ⟨indexRows, _, hindexRows, h⟩ := leadsTo_bind_iff.1 h
  obtain ⟨indexes, _, hindexes, h⟩ := leadsTo_bind_iff.1 h
  obtain ⟨constraintRows, _, hconstraintRows, h⟩ := leadsTo_bind_iff.1 h
  obtain ⟨constraints, _, hread, h⟩ := leadsTo_bind_iff.1 h
  obtain ⟨-, rfl⟩ := leadsTo_lift_iff.1 hread
  obtain ⟨sequenceRows, _, hsequenceRows, h⟩ := leadsTo_bind_iff.1 h
  obtain ⟨sequences, _, hread, h⟩ := leadsTo_bind_iff.1 h
  obtain ⟨-, rfl⟩ := leadsTo_lift_iff.1 hread
  obtain ⟨indexNames, _, hread, h⟩ := leadsTo_bind_iff.1 h
  obtain ⟨-, rfl⟩ := leadsTo_lift_iff.1 hread
  obtain ⟨constraintNames, _, hread, h⟩ := leadsTo_bind_iff.1 h
  obtain ⟨-, rfl⟩ := leadsTo_lift_iff.1 hread
  obtain ⟨tables, _, hread, h⟩ := leadsTo_bind_iff.1 h
  obtain ⟨-, rfl⟩ := leadsTo_lift_iff.1 hread
  obtain ⟨hsnapshot, rfl⟩ := leadsTo_lift_iff.1 h
  rw [Snapshot.indexes_of_ofObjects hsnapshot]
  have hbefore := (htables.measures_ask.trans hcolumns.measures_ask).trans hindexRows.measures_ask
  have hafter := hconstraintRows.measures_ask.trans hsequenceRows.measures_ask
  simpa using (hbefore.trans hindexes.measures_readIndexes).trans hafter

/-- In a session that reads a snapshot and measures the indexes, the texts that are sent are the
names of the indexes that can be measured, and the estimates are what the answers to them show. -/
theorem measurements_of_readSnapshot {database : Value} {s : Snapshot} {log : List SessionEvent}
    (h : runOn db (readSnapshot db schemas true database) = (.ok s, log)) :
    sentNames log = measuredNames s.indexes ∧
      ∀ pair ∈ takeAnswers s.indexes db.measurements, pair.1.EstimatedBy pair.2 := by
  obtain ⟨state, hleads, rfl⟩ := exists_state_of_runOn h
  have hmeasures := hleads.measures_readSnapshot
  refine ⟨?_, hmeasures.estimated⟩
  rw [sentNames, List.filterMap_reverse, ← sentNames, hmeasures.sent]
  simp [sentNames]

end Session

/-- A database in which the table of orders has valid btree indexes of some schemas and names. -/
def indexedOrders (names : List (Text × Text)) (measurements : List Answer) : Database where
  answer
    | .indexes => .ok (names.map fun name =>
        [.text name.1, .text "orders", .text name.2, .bool false, .bool true, .text "btree", .null,
         .null, .int 8192, .int 0, .text "", .int 1, .text "day", .text "day", .bool false,
         .bool false, .text "", .text ""])
    | _ => .ok []
  measurements

/-- Two indexes are measured, and the second one gets no rows. -/
example :
    let db := indexedOrders [("public", "by_day"), ("public", "by_shop")] [.ok [[.float .one]]]
    let run := Session.runOn db (Session.readSnapshot db [] true (.text "shop"))
    sentNames run.2 = ["\"public\".\"by_day\"", "\"public\".\"by_shop\""] ∧
      run.1.toOption.any fun s => s.indexes.map (·.bloatRatio.isSome) = [true, false] := by
  decide +kernel

end CatalogHealth
