import CatalogHealth.Migration.Statement
import CatalogHealth.Proofs.Quotation
import CatalogHealth.Proofs.Reporting

/-!
# Which statements are generated

A finding asks for at most one repair, and which one depends on its check and on what it
records. The statements of a list follow its findings in the order of reports, and the first of
several statements with one text stands for all of them. Statements that build an index for
a foreign key are outside the scope of this module.
-/

namespace CatalogHealth

/-- A finding records a schema and, under some key, an index, both texts that are not empty. -/
structure Finding.Names (f : Finding) (key : String) (schema index : Text) : Prop where
  /-- The schema is recorded. -/
  schema_recorded : f.metadata.get "schema" = .text schema
  /-- The index is recorded. -/
  index_recorded : f.metadata.get key = .text index
  /-- The schema is not empty. -/
  schema_ne : schema ≠ ""
  /-- The index is not empty. -/
  index_ne : index ≠ ""

/-- A finding that records all of some names has a text under each of them if it can be read. -/
theorem Metadata.textOf_eq_ok {metadata : Metadata} {name : String} {t : Text} :
    metadata.textOf name = .ok t ↔ metadata.get name = .text t := by
  unfold textOf
  split
  · rename_i value hvalue
    rw [hvalue, Except.ok.injEq, Value.text.injEq]
  · rename_i hvalue
    simp only [reduceCtorEq, false_iff]
    exact hvalue t

namespace Repair

variable {options : GeneratingOptions} {f : Finding} {repair : Repair}

/-- Both names are recorded exactly if neither text is empty. -/
theorem hasAll_texts {metadata : Metadata} {key : String} {schema index : Text}
    (hschema : metadata.get "schema" = .text schema) (hindex : metadata.get key = .text index) :
    metadata.hasAll ["schema", key] = true ↔ schema ≠ "" ∧ index ≠ "" := by
  simp [Metadata.hasAll, hschema, hindex, Value.truthy]

/-- A repair of the index under some key is asked for exactly if schema and index are
recorded. -/
theorem named_eq_ok {key : String} {make : Text → Text → Repair} :
    (if f.metadata.hasAll ["schema", key] then do
      return some (make (← f.metadata.textOf "schema") (← f.metadata.textOf key))
    else return none : Except Fault (Option Repair)) = .ok (some repair) ↔
      ∃ schema index, f.Names key schema index ∧ repair = make schema index := by
  constructor
  · intro h
    by_cases hall : f.metadata.hasAll ["schema", key] = true
    · rw [if_pos hall] at h
      obtain ⟨schema, hschema, h⟩ := Traversal.bind_eq_ok.1 h
      obtain ⟨index, hindex, h⟩ := Traversal.bind_eq_ok.1 h
      have hrepair := Option.some.inj (Traversal.pure_eq_ok.1 h)
      rw [Metadata.textOf_eq_ok] at hschema hindex
      obtain ⟨hschema_ne, hindex_ne⟩ := (hasAll_texts hschema hindex).1 hall
      exact ⟨schema, index, ⟨hschema, hindex, hschema_ne, hindex_ne⟩, hrepair.symm⟩
    · rw [if_neg hall] at h
      cases Traversal.pure_eq_ok.1 h
  · rintro ⟨schema, index, hnames, rfl⟩
    have hall := (hasAll_texts hnames.schema_recorded hnames.index_recorded).2
      ⟨hnames.schema_ne, hnames.index_ne⟩
    have hschema := Metadata.textOf_eq_ok.2 hnames.schema_recorded
    have hindex := Metadata.textOf_eq_ok.2 hnames.index_recorded
    rw [if_pos hall]
    exact Traversal.bind_eq_ok.2 ⟨schema, hschema, Traversal.bind_eq_ok.2 ⟨index, hindex, rfl⟩⟩

/-- What a finding of the check for redundant indexes asks for. -/
theorem ofFinding?_redundant (h : f.checkName = duplicatedIndexesLabel.name) :
    ofFinding? options f = .ok (some repair) ↔
      ∃ schema index, f.Names "redundant_index" schema index ∧
        repair = .dropIndex schema index := by
  simp only [ofFinding?, h, duplicatedIndexesLabel]
  exact named_eq_ok

/-- A finding of the check for redundant indexes asks for nothing if one of the names is empty or
not recorded. -/
theorem ofFinding?_redundant_eq_none (h : f.checkName = duplicatedIndexesLabel.name)
    (hall : f.metadata.hasAll ["schema", "redundant_index"] = false) :
    ofFinding? options f = .ok none := by
  simp only [ofFinding?, h, duplicatedIndexesLabel]
  rw [hall]
  rfl

/-- What a finding of the check for unused indexes asks for. -/
theorem ofFinding?_unused (h : f.checkName = unusedIndexesLabel.name) :
    ofFinding? options f = .ok (some repair) ↔
      ∃ schema index, f.Names "index" schema index ∧ repair = .dropIndex schema index := by
  simp only [ofFinding?, h, unusedIndexesLabel]
  exact named_eq_ok

/-- What a finding of the check for invalid indexes asks for. -/
theorem ofFinding?_invalid (h : f.checkName = invalidIndexesLabel.name) :
    ofFinding? options f = .ok (some repair) ↔
      ∃ schema index, f.Names "index" schema index ∧ repair = .reindex schema index := by
  simp only [ofFinding?, h, invalidIndexesLabel]
  exact named_eq_ok

/-- What a finding of the check for bloated indexes asks for. -/
theorem ofFinding?_bloated (h : f.checkName = bloatedIndexesLabel.name) :
    ofFinding? options f = .ok (some repair) ↔
      ∃ schema index, f.Names "index" schema index ∧ repair = .reindex schema index := by
  simp only [ofFinding?, h, bloatedIndexesLabel]
  exact named_eq_ok

/-- What a finding of the check for constraints that are not valid asks for. -/
theorem ofFinding?_notValid (h : f.checkName = notValidConstraintsLabel.name) :
    ofFinding? options f = .ok (some repair) ↔
      ∃ schema table constraint, f.Names "table" schema table ∧
        f.Names "constraint" schema constraint ∧ repair = .validate schema table constraint := by
  have hall : ∀ {schema table constraint : Text}, f.metadata.get "schema" = .text schema →
      f.metadata.get "table" = .text table → f.metadata.get "constraint" = .text constraint →
        (f.metadata.hasAll ["schema", "table", "constraint"] = true ↔
          schema ≠ "" ∧ table ≠ "" ∧ constraint ≠ "") := by
    intro schema table constraint hschema htable hconstraint
    simp [Metadata.hasAll, hschema, htable, hconstraint, Value.truthy]
  simp only [ofFinding?, h, notValidConstraintsLabel]
  constructor
  · intro hrepair
    split at hrepair
    · rename_i hrecorded
      obtain ⟨schema, hschema, hrepair⟩ := Traversal.bind_eq_ok.1 hrepair
      obtain ⟨table, htable, hrepair⟩ := Traversal.bind_eq_ok.1 hrepair
      obtain ⟨constraint, hconstraint, hrepair⟩ := Traversal.bind_eq_ok.1 hrepair
      have hmade := Option.some.inj (Traversal.pure_eq_ok.1 hrepair)
      rw [Metadata.textOf_eq_ok] at hschema htable hconstraint
      obtain ⟨hschema_ne, htable_ne, hconstraint_ne⟩ :=
        (hall hschema htable hconstraint).1 hrecorded
      exact ⟨schema, table, constraint, ⟨hschema, htable, hschema_ne, htable_ne⟩,
        ⟨hschema, hconstraint, hschema_ne, hconstraint_ne⟩, hmade.symm⟩
    · cases Traversal.pure_eq_ok.1 hrepair
  · rintro ⟨schema, table, constraint, htable, hconstraint, rfl⟩
    rw [if_pos ((hall htable.schema_recorded htable.index_recorded hconstraint.index_recorded).2
      ⟨htable.schema_ne, htable.index_ne, hconstraint.index_ne⟩)]
    exact Traversal.bind_eq_ok.2 ⟨schema, Metadata.textOf_eq_ok.2 htable.schema_recorded,
      Traversal.bind_eq_ok.2 ⟨table, Metadata.textOf_eq_ok.2 htable.index_recorded,
        Traversal.bind_eq_ok.2 ⟨constraint,
          Metadata.textOf_eq_ok.2 hconstraint.index_recorded, rfl⟩⟩⟩

/-- What is read from the finding about a foreign key for the index on its columns. -/
theorem ofForeignKey_eq_ok {metadata : Metadata} : ofForeignKey options metadata = .ok repair ↔
    ∃ (nullable names : List Text) (schema tableText : Text) (columns : List String)
        (table : String),
      metadata.textMembersOf "nullable_columns" = .ok nullable ∧
      metadata.textsOf "columns" = .ok names ∧ metadata.textOf "table" = .ok tableText ∧
      tableText.asString = .ok table ∧ names.mapM Text.asString = .ok columns ∧
      metadata.textOf "schema" = .ok schema ∧
      repair = .indexColumns schema table columns
        (if options.excludeNulls then
          columns.filter fun (name : String) => nullable.contains (name : Text) else []) := by
  constructor
  · intro h
    obtain ⟨nullable, hnullable, h⟩ := Traversal.bind_eq_ok.1 h
    obtain ⟨names, hnames, h⟩ := Traversal.bind_eq_ok.1 h
    obtain ⟨tableText, htext, h⟩ := Traversal.bind_eq_ok.1 h
    obtain ⟨table, htable, h⟩ := Traversal.bind_eq_ok.1 h
    obtain ⟨columns, hcolumns, h⟩ := Traversal.bind_eq_ok.1 h
    obtain ⟨schema, hschema, h⟩ := Traversal.bind_eq_ok.1 h
    exact ⟨nullable, names, schema, tableText, columns, table, hnullable, hnames, htext, htable,
      hcolumns, hschema, (Traversal.pure_eq_ok.1 h).symm⟩
  · rintro ⟨nullable, names, schema, tableText, columns, table, hnullable, hnames, htext, htable,
      hcolumns, hschema, rfl⟩
    unfold ofForeignKey
    rw [hnullable, hnames, htext, hschema]
    change (tableText.asString >>= fun table => names.mapM Text.asString >>= _) = _
    rw [htable, hcolumns]
    rfl

/-- The checks whose findings ask for a repair of some kind. -/
def askingChecks : Repair → List String
  | dropIndex .. => [duplicatedIndexesLabel.name, unusedIndexesLabel.name]
  | reindex .. => [invalidIndexesLabel.name, bloatedIndexesLabel.name]
  | validate .. => [notValidConstraintsLabel.name]
  | indexColumns .. => [foreignKeysWithoutIndexLabel.name]

/-- A repair is only asked for by findings of the checks that ask for its kind. -/
theorem checkName_mem_askingChecks (h : ofFinding? options f = .ok (some repair)) :
    f.checkName ∈ repair.askingChecks := by
  unfold ofFinding? at h
  dsimp only at h
  split at h
  · rename_i hname
    obtain ⟨schema, index, -, rfl⟩ := named_eq_ok.1 h
    rw [hname]
    exact List.mem_cons_self ..
  · rename_i hname
    obtain ⟨schema, index, -, rfl⟩ := named_eq_ok.1 h
    rw [hname]
    exact List.mem_cons_of_mem _ (List.mem_singleton_self _)
  · rename_i hname
    obtain ⟨schema, index, -, rfl⟩ := named_eq_ok.1 h
    rw [hname]
    exact List.mem_cons_self ..
  · rename_i hname
    obtain ⟨schema, index, -, rfl⟩ := named_eq_ok.1 h
    rw [hname]
    exact List.mem_cons_of_mem _ (List.mem_singleton_self _)
  · rename_i hname
    split at h
    · obtain ⟨schema, -, h⟩ := Traversal.bind_eq_ok.1 h
      obtain ⟨table, -, h⟩ := Traversal.bind_eq_ok.1 h
      obtain ⟨constraint, -, h⟩ := Traversal.bind_eq_ok.1 h
      cases Traversal.pure_eq_ok.1 h
      rw [hname]
      exact List.mem_singleton_self _
    · cases Traversal.pure_eq_ok.1 h
  · rename_i hname
    split at h
    · obtain ⟨made, hmade, h⟩ := Traversal.bind_eq_ok.1 h
      cases Traversal.pure_eq_ok.1 h
      obtain ⟨nullable, names, schema, tableText, columns, table, -, -, -, -, -, -, rfl⟩ :=
        ofForeignKey_eq_ok.1 hmade
      rw [hname]
      exact List.mem_singleton_self _
    · cases Traversal.pure_eq_ok.1 h
  · cases Traversal.pure_eq_ok.1 h

end Repair

namespace Statement

variable {options : GeneratingOptions} {findings : List Finding} {statements : List Statement}
  {f : Finding}

/-- The statement drops the index of a schema. -/
def Drops (options : GeneratingOptions) (st : Statement) (schema index : Text) : Prop :=
  st.sql = (Repair.dropIndex schema index).sql options

/-- The statement builds the index of a schema anew. -/
def Rebuilds (options : GeneratingOptions) (st : Statement) (schema index : Text) : Prop :=
  st.sql = (Repair.reindex schema index).sql options

/-- The statement that a finding asks for, absent also if the finding cannot be read. -/
def asked? (options : GeneratingOptions) (f : Finding) : Option Statement :=
  (ofFinding? options f).toOption.getD none

/-- What a finding asks for is the statement that makes its repair. -/
theorem asked?_eq_some {st : Statement} : asked? options f = some st ↔
    ∃ repair, Repair.ofFinding? options f = .ok (some repair) ∧ st = ofRepair options f repair := by
  unfold asked? ofFinding?
  cases hrepair : Repair.ofFinding? options f with
  | error fault => simp [bind, Except.bind, Except.toOption]
  | ok repair? =>
    cases repair? with
    | none => simp [bind, Except.bind, pure, Except.pure, Except.toOption]
    | some repair => simp [bind, Except.bind, pure, Except.pure, Except.toOption, eq_comm]

/-- A statement that drops an index was asked for by a finding about dropping it. -/
theorem ofFinding?_of_drops {st : Statement} {schema index : Text}
    (h : asked? options f = some st) (hdrops : st.Drops options schema index) :
    Repair.ofFinding? options f = .ok (some (.dropIndex schema index)) := by
  obtain ⟨repair, hrepair, rfl⟩ := asked?_eq_some.1 h
  rw [hrepair, Repair.eq_dropIndex_of_sql_eq hdrops]

/-- A statement that rebuilds an index was asked for by a finding about rebuilding it. -/
theorem ofFinding?_of_rebuilds {st : Statement} {schema index : Text}
    (h : asked? options f = some st) (hrebuilds : st.Rebuilds options schema index) :
    Repair.ofFinding? options f = .ok (some (.reindex schema index)) := by
  obtain ⟨repair, hrepair, rfl⟩ := asked?_eq_some.1 h
  rw [hrepair, Repair.eq_reindex_of_sql_eq hrebuilds]

/-! ## Texts that are new -/

/-- Statements are only left out. -/
theorem freshFrom_sublist (seen : List Text) (xs : List Statement) :
    (freshFrom seen xs).Sublist xs := by
  induction xs generalizing seen with
  | nil => exact List.Sublist.slnil
  | cons x rest ih =>
    unfold freshFrom
    split
    · exact (ih seen).cons x
    · exact (ih _).cons_cons x

/-- Each text was seen before or is that of a statement that is kept. -/
theorem exists_mem_freshFrom (seen : List Text) {xs : List Statement} {st : Statement}
    (h : st ∈ xs) : st.sql ∈ seen ∨ ∃ kept ∈ freshFrom seen xs, kept.sql = st.sql := by
  induction xs generalizing seen with
  | nil => cases h
  | cons x rest ih =>
    unfold freshFrom
    by_cases hx : x.sql ∈ seen
    · rw [if_pos hx]
      rcases List.mem_cons.1 h with rfl | hrest
      · exact .inl hx
      · exact ih seen hrest
    · rw [if_neg hx]
      rcases List.mem_cons.1 h with rfl | hrest
      · exact .inr ⟨st, List.mem_cons_self .., rfl⟩
      · rcases ih (x.sql :: seen) hrest with hseen | ⟨kept, hkept, hsql⟩
        · rcases List.mem_cons.1 hseen with hsql | hseen
          · exact .inr ⟨x, List.mem_cons_self .., hsql.symm⟩
          · exact .inl hseen
        · exact .inr ⟨kept, List.mem_cons_of_mem _ hkept, hsql⟩

/-- What is kept of a list depends on what came before it by the texts alone. -/
theorem freshFrom_append (seen : List Text) (xs ys : List Statement) :
    ∃ seen', (∀ t, t ∈ seen' ↔ t ∈ seen ∨ t ∈ xs.map Statement.sql) ∧
      freshFrom seen (xs ++ ys) = freshFrom seen xs ++ freshFrom seen' ys := by
  induction xs generalizing seen with
  | nil => exact ⟨seen, by simp, rfl⟩
  | cons x rest ih =>
    by_cases hx : x.sql ∈ seen
    · obtain ⟨seen', hseen', hsplit⟩ := ih seen
      refine ⟨seen', fun t => ?_, by simp [freshFrom, hx, hsplit]⟩
      rw [hseen' t, List.map_cons, List.mem_cons]
      constructor
      · rintro (h | h)
        · exact .inl h
        · exact .inr (.inr h)
      · rintro (h | rfl | h)
        · exact .inl h
        · exact .inl hx
        · exact .inr h
    · obtain ⟨seen', hseen', hsplit⟩ := ih (x.sql :: seen)
      refine ⟨seen', fun t => ?_, by simp [freshFrom, hx, hsplit]⟩
      rw [hseen' t, List.map_cons, List.mem_cons, List.mem_cons, or_assoc, or_left_comm]

/-- A statement whose text is new is kept, behind the statements kept of those before it. -/
theorem freshFrom_of_notMem {pre : List Statement} {st : Statement} (post : List Statement)
    (h : st.sql ∉ pre.map Statement.sql) :
    ∃ rest, freshFrom [] (pre ++ st :: post) = freshFrom [] pre ++ st :: rest := by
  obtain ⟨seen, hseen, hsplit⟩ := freshFrom_append [] pre (st :: post)
  have hnew : st.sql ∉ seen := by
    rw [hseen]
    simpa using h
  exact ⟨freshFrom (st.sql :: seen) post, by rw [hsplit, freshFrom, if_neg hnew]⟩

/-- A statement that is kept is the first one with its text. -/
theorem exists_split_of_mem_freshFrom {seen : List Text} {xs : List Statement} {st : Statement}
    (h : st ∈ freshFrom seen xs) : st.sql ∉ seen ∧ ∃ pre post, xs = pre ++ st :: post ∧
      st.sql ∉ pre.map Statement.sql := by
  induction xs generalizing seen with
  | nil => cases h
  | cons x rest ih =>
    unfold freshFrom at h
    by_cases hx : x.sql ∈ seen
    · rw [if_pos hx] at h
      obtain ⟨hnew, pre, post, rfl, hpre⟩ := ih h
      refine ⟨hnew, x :: pre, post, rfl, ?_⟩
      rw [List.map_cons, List.mem_cons, not_or]
      exact ⟨fun hsame => hnew (hsame ▸ hx), hpre⟩
    · rw [if_neg hx] at h
      rcases List.mem_cons.1 h with rfl | hrest
      · exact ⟨hx, [], rest, rfl, by simp⟩
      · obtain ⟨hnew, pre, post, rfl, hpre⟩ := ih hrest
        rw [List.mem_cons, not_or] at hnew
        refine ⟨hnew.2, x :: pre, post, rfl, ?_⟩
        rw [List.map_cons, List.mem_cons, not_or]
        exact ⟨hnew.1, hpre⟩

/-- Of two statements that are kept the first one comes before the other, and the other one is
the first with its text. -/
theorem exists_split_of_sublist_freshFrom {seen : List Text} {xs : List Statement}
    {d r : Statement} (h : [d, r].Sublist (freshFrom seen xs)) : r.sql ∉ seen ∧
      ∃ pre post, xs = pre ++ r :: post ∧ d ∈ pre ∧ r.sql ∉ pre.map Statement.sql := by
  induction xs generalizing seen with
  | nil => cases h
  | cons x rest ih =>
    unfold freshFrom at h
    by_cases hx : x.sql ∈ seen
    · rw [if_pos hx] at h
      obtain ⟨hnew, pre, post, rfl, hd, hpre⟩ := ih h
      refine ⟨hnew, x :: pre, post, rfl, List.mem_cons_of_mem _ hd, ?_⟩
      rw [List.map_cons, List.mem_cons, not_or]
      exact ⟨fun hsame => hnew (hsame ▸ hx), hpre⟩
    · rw [if_neg hx] at h
      have hlater : r.sql ∉ x.sql :: seen ∧ ∃ pre post, rest = pre ++ r :: post ∧
          (d = x ∨ d ∈ pre) ∧ r.sql ∉ pre.map Statement.sql := by
        cases h with
        | cons _ h =>
          obtain ⟨hnew, pre, post, hrest, hd, hpre⟩ := ih h
          exact ⟨hnew, pre, post, hrest, .inr hd, hpre⟩
        | cons_cons _ h =>
          obtain ⟨hnew, pre, post, hrest, hpre⟩ :=
            exists_split_of_mem_freshFrom (List.singleton_sublist.1 h)
          exact ⟨hnew, pre, post, hrest, .inl rfl, hpre⟩
      obtain ⟨hnew, pre, post, rfl, hd, hpre⟩ := hlater
      rw [List.mem_cons, not_or] at hnew
      refine ⟨hnew.2, x :: pre, post, rfl, List.mem_cons.2 hd, ?_⟩
      rw [List.map_cons, List.mem_cons, not_or]
      exact ⟨hnew.1, hpre⟩

/-! ## The list of statements -/

/-- The statements of a list are those that its findings ask for, as far as their texts are
new. -/
theorem generate_eq_ok (h : generate options findings = .ok statements) :
    statements = freshFrom [] ((Finding.merge findings).filterMap (asked? options)) := by
  obtain ⟨answers, hanswers, h⟩ := Traversal.bind_eq_ok.1 h
  have hread : ∀ xs ys, List.Forall₂ (fun f answer => ofFinding? options f = .ok answer) xs ys →
      ys.filterMap id = xs.filterMap (asked? options) := by
    intro xs ys hpairs
    induction hpairs with
    | nil => rfl
    | cons hfirst _ ih =>
      rw [List.filterMap_cons, List.filterMap_cons, ih, asked?, hfirst]
      rfl
  rw [← hread _ _ (Traversal.mapM_eq_ok.1 hanswers)]
  exact (Traversal.pure_eq_ok.1 h).symm

/-- A single finding that asks for a repair leads to the one statement that makes it. -/
theorem generate_singleton {repair : Repair}
    (h : Repair.ofFinding? options f = .ok (some repair)) :
    generate options [f] = .ok [ofRepair options f repair] := by
  have hmade : ofFinding? options f = .ok (some (ofRepair options f repair)) :=
    Traversal.bind_eq_ok.2 ⟨some repair, h, rfl⟩
  have hmerge : Finding.merge [f] = [f] := rfl
  refine Traversal.bind_eq_ok.2 ⟨[some (ofRepair options f repair)], ?_, rfl⟩
  rw [hmerge, Traversal.mapM_eq_ok]
  exact .cons hmade .nil

/-- A single finding that asks for nothing leads to no statement. -/
theorem generate_singleton_of_none (h : Repair.ofFinding? options f = .ok none) :
    generate options [f] = .ok [] := by
  have hmade : ofFinding? options f = .ok none := Traversal.bind_eq_ok.2 ⟨none, h, rfl⟩
  have hmerge : Finding.merge [f] = [f] := rfl
  refine Traversal.bind_eq_ok.2 ⟨[none], ?_, rfl⟩
  rw [hmerge, Traversal.mapM_eq_ok]
  exact .cons hmade .nil

/-- Every statement of a list was asked for by a finding. -/
theorem exists_finding_of_mem_generate (h : generate options findings = .ok statements)
    {st : Statement} (hst : st ∈ statements) :
    ∃ f ∈ Finding.merge findings, asked? options f = some st := by
  rw [generate_eq_ok h] at hst
  exact List.mem_filterMap.1 ((freshFrom_sublist _ _).subset hst)

/-- The order of statements is that of the findings that ask for them: a relation of texts
holds between each statement and the later ones exactly if it holds between what a finding
asks for and what a later one is the first to ask for. -/
theorem generate_pairwise_iff (h : generate options findings = .ok statements)
    {R : Statement → Statement → Prop} (hR : ∀ d d' r, d.sql = d'.sql → R d r → R d' r) :
    statements.Pairwise R ↔ ∀ f ∈ Finding.merge findings, ∀ g ∈ Finding.merge findings,
      f.Precedes g → ∀ d r, asked? options f = some d → asked? options g = some r →
        (∀ e ∈ Finding.merge findings, e.Precedes g → ∀ st, asked? options e = some st →
          st.sql ≠ r.sql) → R d r := by
  rw [generate_eq_ok h]
  constructor
  · intro hpairwise f hf g hg hprecedes d r hd hr hfirst
    obtain ⟨pre, post, hsplit⟩ := List.append_of_mem hg
    have hnew : r.sql ∉ (pre.filterMap (asked? options)).map Statement.sql := by
      intro hmem
      obtain ⟨st, hst, hsql⟩ := List.mem_map.1 hmem
      obtain ⟨e, he, hasked⟩ := List.mem_filterMap.1 hst
      obtain ⟨he, hbefore⟩ := (Finding.mem_front_iff hsplit).1 he
      exact hfirst e he hbefore st hasked hsql
    obtain ⟨rest, hrest⟩ := freshFrom_of_notMem (post.filterMap (asked? options)) hnew
    rw [hsplit, List.filterMap_append, List.filterMap_cons_some hr, hrest] at hpairwise
    have hfront := List.mem_filterMap.2 ⟨f, (Finding.mem_front_iff hsplit).2 ⟨hf, hprecedes⟩, hd⟩
    obtain ⟨kept, hkept, hsql⟩ :=
      (exists_mem_freshFrom [] hfront).resolve_left (List.not_mem_nil)
    exact hR kept d r hsql ((List.pairwise_append.1 hpairwise).2.2 kept hkept r
      (List.mem_cons_self ..))
  · intro hall
    refine List.pairwise_iff_forall_sublist.2 fun {d r} hsub => ?_
    obtain ⟨-, front, back, hsplit, hd, hnew⟩ := exists_split_of_sublist_freshFrom hsub
    obtain ⟨pre, rest, hmerge, hpre, hrest⟩ := List.filterMap_eq_append_iff.1 hsplit
    obtain ⟨skipped, g, post, rfl, hskipped, hr, -⟩ := List.filterMap_eq_cons_iff.1 hrest
    rw [← List.append_assoc] at hmerge
    have hg : g ∈ Finding.merge findings := by simp [hmerge]
    rw [← hpre] at hd hnew
    obtain ⟨f, hf, hasked⟩ := List.mem_filterMap.1 hd
    obtain ⟨hf, hprecedes⟩ := (Finding.mem_front_iff hmerge).1 (List.mem_append_left skipped hf)
    refine hall f hf g hg hprecedes d r hasked hr fun e he hbefore st hst hsql => ?_
    rcases List.mem_append.1 ((Finding.mem_front_iff hmerge).2 ⟨he, hbefore⟩) with hfront | hskip
    · exact hnew (hsql ▸ List.mem_map_of_mem (List.mem_filterMap.2 ⟨e, hfront, hst⟩))
    · rw [hskipped e hskip] at hst
      cases hst

/-- If a snapshot leads to statements of some kind, it has a report from which they are
generated. -/
theorem exists_report_of_toOption {s : Snapshot} {t : Thresholds} {p : List Statement → Bool}
    (h : (evaluate s { thresholds := t } >>= fun report =>
      generate options report.findings).toOption.any p = true) :
    ∃ report statements, evaluate s { thresholds := t } = .ok report ∧
      generate options report.findings = .ok statements ∧ p statements = true := by
  obtain ⟨statements, hrun, hp⟩ := Traversal.exists_ok_of_toOption h
  obtain ⟨report, hreport, hstatements⟩ := Traversal.bind_eq_ok.1 hrun
  exact ⟨report, statements, hreport, hstatements, hp⟩

end Statement

end CatalogHealth
