import CatalogHealth.Proofs.Rebuilding
import CatalogHealth.Proofs.RedundantPairs

/-!
# What a finding about a redundant index leads to

A finding of the check for redundant indexes flags one index of a pair and names the other one as
the one that is kept. The finding itself leads to a statement that drops an index. Two things can
be lost on the way. Where a constraint outweighs uniqueness, the unique index is flagged beside
one that is not unique. And since pairs are formed by the identifiers of tables, which do not tell
where a schema ends, the two indexes can belong to different tables, and the statement then names
the redundant index in the schema of the other one if that comes first. This module says exactly
when. What the database does with the statement is outside the scope of this module.
-/

namespace CatalogHealth

variable {s : Snapshot} {t : Thresholds} {options : GeneratingOptions} {findings : List Finding}
  {f : Finding} {a b redundant kept : Index} {redundancy : Redundancy}

/-! ## Which index a finding flags -/

/-- A finding flags one index as redundant and names another one as the one that is kept. -/
structure Finding.Flags (f : Finding) (redundant kept : Index) : Prop where
  /-- The finding is mainly about the redundant index. -/
  objectName : f.objectName = redundant.qualifiedName
  /-- Both indexes are named. -/
  objects : f.objects.Perm [redundant.qualifiedName, kept.qualifiedName]
  /-- The name of the redundant index is recorded. -/
  redundant_recorded : f.metadata.get "redundant_index" = redundant.name
  /-- The name of the index that is kept is recorded. -/
  kept_recorded : f.metadata.get "kept_index" = kept.name

instance : Decidable (f.Flags redundant kept) :=
  decidable_of_iff
    (f.objectName = redundant.qualifiedName ∧
      f.objects.Perm [redundant.qualifiedName, kept.qualifiedName] ∧
        f.metadata.get "redundant_index" = redundant.name ∧
          f.metadata.get "kept_index" = kept.name)
    ⟨fun h => ⟨h.1, h.2.1, h.2.2.1, h.2.2.2⟩,
      fun h => ⟨h.objectName, h.objects, h.redundant_recorded, h.kept_recorded⟩⟩

/-- A flagged index that is named by a text is recorded. -/
theorem Finding.Flags.isRecorded {name : Text} (h : f.Flags redundant kept)
    (hname : redundant.name = .text name) : f.metadata.get "redundant_index" ≠ .null := by
  rw [h.redundant_recorded, hname]
  exact Value.noConfusion

/-- The finding about a pair records how the two are redundant and which one is kept. -/
theorem recorded_of_redundancyFinding {table : Text}
    (h : redundancyFinding table a b redundancy = .ok f) :
    f.metadata.get "reason" = .text redundancy.reason ∧
      f.metadata.get "kept_index" = (redundancy.kept?.map (·.name)).getD .null := by
  unfold redundancyFinding at h
  cases redundancy with
  | bothNeeded =>
    cases h
    exact ⟨rfl, rfl⟩
  | identical redundant kept =>
    obtain ⟨size, -, h⟩ := Traversal.bind_eq_ok.1 h
    cases Traversal.pure_eq_ok.1 h
    exact ⟨rfl, rfl⟩
  | beginning redundant kept =>
    obtain ⟨size, -, h⟩ := Traversal.bind_eq_ok.1 h
    cases Traversal.pure_eq_ok.1 h
    exact ⟨rfl, rfl⟩

/-- A finding that records a redundant index flags one of the two indexes of a pair. -/
theorem exists_flags (h : duplicatedIndexes.run s t = .ok findings) (hf : f ∈ findings)
    (hname : f.metadata.get "redundant_index" ≠ .null) :
    ∃ a b redundant kept redundancy, s.Spares a b redundant redundancy ∧
      redundancy.kept? = some kept ∧ (redundant = a ∧ kept = b ∨ redundant = b ∧ kept = a) ∧
        f.ReportsPair a b redundancy ∧ f.Flags redundant kept := by
  obtain ⟨a, b, redundancy, redundant, hab, hredundancy, hredundant, hfinding⟩ :=
    exists_redundant_of_recorded h hf hname
  obtain ⟨kept, hkept, hpair, -⟩ :=
    supersedes_of_redundancy hab.table hab.ne hredundancy hredundant
  have hreports := reportsPair_of_redundancyFinding hab.le hfinding
  have hrecorded := (recorded_of_redundancyFinding hfinding).2
  have hobjects : f.objects.Perm [redundant.qualifiedName, kept.qualifiedName] := by
    rw [hreports.objects]
    rcases hpair with ⟨rfl, rfl⟩ | ⟨rfl, rfl⟩
    · exact .rfl
    · exact .swap ..
  refine ⟨a, b, redundant, kept, redundancy, ⟨hab, hredundancy, hredundant⟩, hkept, hpair,
    hreports, ?_, hobjects, ?_, ?_⟩
  · simp [hreports.objectName, hredundant]
  · simp [hreports.redundant, hredundant]
  · simp [hrecorded, hkept]

/-- Both indexes of a pair one of which is redundant belong to the snapshot, and what there is to
say about them can be said from the redundant one. -/
theorem Snapshot.Spares.from_redundant (hspares : s.Spares a b redundant redundancy)
    (h : duplicatedIndexes.run s t = .ok findings)
    (hpair : redundant = a ∧ kept = b ∨ redundant = b ∧ kept = a) :
    redundant ∈ s.indexes ∧ kept ∈ s.indexes ∧ redundant.Overlaps kept ∧
      redundancy.Holds redundant kept := by
  obtain ⟨hoverlaps, hholds⟩ := (hspares.toCompares.redundancy?_iff h).1 hspares.judged
  rcases hpair with ⟨rfl, rfl⟩ | ⟨rfl, rfl⟩
  · exact ⟨hspares.left_mem, hspares.right_mem, hoverlaps, hholds⟩
  · exact ⟨hspares.right_mem, hspares.left_mem, hoverlaps.symm, Redundancy.holds_comm.1 hholds⟩

/-! ## Uniqueness -/

/-- A unique index is redundant only beside one with the same keys, which is kept because it is
unique too or because a constraint needs it. -/
theorem Redundancy.Holds.kept_of_isUnique (hholds : redundancy.Holds redundant kept)
    (hredundant : redundancy.redundant? = some redundant) (hkept : redundancy.kept? = some kept)
    (hunique : redundant.isUnique = true) :
    redundant.Matches kept ∧ (kept.isUnique = true ∨ kept.isConstraintBacking = true) := by
  cases redundancy with
  | bothNeeded => cases hkept
  | beginning shorter longer =>
    cases hredundant
    rw [hholds.2.shorter_plain] at hunique
    cases hunique
  | identical x y =>
    cases hredundant
    cases hkept
    obtain ⟨-, hmatches, -, hbefore⟩ := hholds
    refine ⟨hmatches, ?_⟩
    rcases hbefore with ⟨hbacking, -⟩ | ⟨-, ⟨hkeptUnique, -⟩ | ⟨hsame, -⟩⟩
    · exact .inr hbacking
    · exact .inl hkeptUnique
    · exact .inl (hsame.trans hunique)

/-- Where a unique index is flagged, the one that is kept has the same keys and the same condition
up to blanks, and it is unique too or backs a constraint. -/
theorem uniqueness_kept_or_constraint (h : duplicatedIndexes.run s t = .ok findings)
    (hf : f ∈ findings) (hname : f.metadata.get "redundant_index" ≠ .null) :
    ∃ redundant ∈ s.indexes, ∃ kept ∈ s.indexes, f.Flags redundant kept ∧
      (redundant.isUnique = true → redundant.Matches kept ∧
        (∃ condition, redundant.condition = .ok condition ∧ kept.condition = .ok condition) ∧
          (kept.isUnique = true ∨ kept.isConstraintBacking = true)) := by
  obtain ⟨a, b, redundant, kept, redundancy, hspares, hkept, hpair, -, hflags⟩ :=
    exists_flags h hf hname
  obtain ⟨hredundantMem, hkeptMem, hoverlaps, hholds⟩ := hspares.from_redundant h hpair
  refine ⟨redundant, hredundantMem, kept, hkeptMem, hflags, fun hunique => ?_⟩
  obtain ⟨hmatches, hreason⟩ := hholds.kept_of_isUnique hspares.redundant_eq hkept hunique
  exact ⟨hmatches, hoverlaps.condition, hreason⟩

/-- The index of a constraint that excludes equal codes, which is not itself unique. -/
def exclusiveCode : Index :=
  { plainIndex "public" "orders" "code_excl" ["code"] with constraintName := .text "code_excl" }

/-- A unique index on the same column. -/
def uniqueCode : Index :=
  { plainIndex "public" "orders" "code_once" ["code"] with isUnique := true }

/-- A table with both. -/
def codedOrders : Snapshot :=
  { bareSnapshot with
    indexes := [exclusiveCode, uniqueCode]
    indexes_nodup := by decide }

/-- The unique index is flagged. -/
theorem codedOrders_flags : ∃ findings, duplicatedIndexes.run codedOrders {} = .ok findings ∧
    ∃ f ∈ findings, f.Flags uniqueCode exclusiveCode := by
  have hruns : (duplicatedIndexes.run codedOrders {}).toOption.any (fun findings =>
      findings.any fun f => f.Flags uniqueCode exclusiveCode) = true := by
    decide +kernel
  obtain ⟨findings, hfindings, hany⟩ := Traversal.exists_ok_of_toOption hruns
  obtain ⟨f, hf, hflags⟩ := List.any_eq_true.1 hany
  exact ⟨findings, hfindings, f, hf, of_decide_eq_true hflags⟩

/-- The index that is kept for the unique one backs a constraint. -/
theorem uniqueness_kept_or_constraint_coded : ∃ findings,
    duplicatedIndexes.run codedOrders {} = .ok findings ∧ ∃ f ∈ findings,
      f.metadata.get "redundant_index" ≠ .null ∧
        ∃ redundant ∈ codedOrders.indexes, ∃ kept ∈ codedOrders.indexes,
          f.Flags redundant kept ∧ (redundant.isUnique = true → redundant.Matches kept ∧
            (∃ condition, redundant.condition = .ok condition ∧ kept.condition = .ok condition) ∧
              (kept.isUnique = true ∨ kept.isConstraintBacking = true)) := by
  obtain ⟨findings, hfindings, f, hf, hflags⟩ := codedOrders_flags
  have hname := hflags.isRecorded rfl
  have hkept := uniqueness_kept_or_constraint hfindings hf hname
  exact ⟨findings, hfindings, f, hf, hname, hkept⟩

/-- A unique index is flagged beside one that is not unique. -/
theorem codedOrders_uniqueness_not_kept : ∃ findings,
    duplicatedIndexes.run codedOrders {} = .ok findings ∧ ∃ f ∈ findings,
      ∃ redundant ∈ codedOrders.indexes, ∃ kept ∈ codedOrders.indexes, f.Flags redundant kept ∧
        redundant.isUnique = true ∧ kept.isUnique = false := by
  obtain ⟨findings, hfindings, f, hf, hflags⟩ := codedOrders_flags
  exact ⟨findings, hfindings, f, hf, uniqueCode, by simp [codedOrders], exclusiveCode,
    by simp [codedOrders], hflags, rfl, rfl⟩

/-! ## Tables -/

/-- Two indexes belong to one table: schema and name are the same. -/
def Index.SharesTable (a b : Index) : Prop :=
  a.tableSchema = b.tableSchema ∧ a.tableName = b.tableName

/-- Two indexes belong to different tables of one identifier: it has two points, and the schema of
the first index ends at the later one while that of the second index ends at the earlier one. -/
def Index.Straddles (a b : Index) : Prop :=
  ∃ schema middle table : Text,
    a.tableSchema = .text (schema ++ "." ++ middle) ∧ a.tableName = .text table ∧
      b.tableSchema = .text schema ∧ b.tableName = .text (middle ++ "." ++ table)

/-- An index is named by texts. -/
structure Index.IsNamed (index : Index) : Prop where
  /-- The schema is a text. -/
  schema : ∃ schema : Text, index.tableSchema = .text schema
  /-- The name of the table is a text. -/
  table : ∃ table : Text, index.tableName = .text table
  /-- The name of the index is a text. -/
  name : ∃ name : Text, index.name = .text name

/-- A statement drops an index in its own schema and under its own name. -/
def Statement.DropsIndex (options : GeneratingOptions) (st : Statement) (index : Index) : Prop :=
  ∃ schema name, index.tableSchema = .text schema ∧ index.name = .text name ∧
    st.Drops options schema name

namespace Text

variable {s t s' t' : Text}

/-- Where one first part goes on behind the other one, it does so with a point, unless both are the
same. -/
theorem joined_of_longer {more : List CodePoint} (hfirst : s'.points = s.points ++ more)
    (hrest : .char '.' :: t.points = more ++ .char '.' :: t'.points) :
    s = s' ∧ t = t' ∨ ∃ middle : Text, s' = s ++ "." ++ middle ∧ t = middle ++ "." ++ t' := by
  obtain ⟨first⟩ := s
  obtain ⟨first'⟩ := s'
  obtain ⟨rest⟩ := t
  obtain ⟨rest'⟩ := t'
  cases more with
  | nil =>
    left
    rw [List.append_nil] at hfirst
    rw [List.nil_append, List.cons.injEq] at hrest
    exact ⟨congrArg mk hfirst.symm, congrArg mk hrest.2⟩
  | cons c middle =>
    right
    rw [List.cons_append, List.cons.injEq] at hrest
    rw [← hrest.1] at hfirst
    refine ⟨⟨middle⟩, congrArg mk (hfirst.trans ?_), congrArg mk (hrest.2.trans ?_)⟩
    · exact (List.append_assoc first [.char '.'] middle).symm
    · exact (List.append_assoc middle [.char '.'] rest').symm

/-- Two texts joined by a point do not tell where: either the two parts are the same, or one first
part ends at an earlier point than the other one. -/
theorem joined_eq_iff : s ++ "." ++ t = s' ++ "." ++ t' ↔
    s = s' ∧ t = t' ∨ (∃ middle : Text, s = s' ++ "." ++ middle ∧ t' = middle ++ "." ++ t) ∨
      ∃ middle : Text, s' = s ++ "." ++ middle ∧ t = middle ++ "." ++ t' := by
  constructor
  · intro h
    rw [append_assoc, append_assoc] at h
    rcases List.append_eq_append_iff.1 (congrArg points h) with
      ⟨more, hfirst, hrest⟩ | ⟨more, hfirst, hrest⟩
    · exact (joined_of_longer hfirst hrest).imp_right .inr
    · rcases joined_of_longer hfirst hrest with ⟨rfl, rfl⟩ | hlonger
      · exact .inl ⟨rfl, rfl⟩
      · exact .inr (.inl hlonger)
  · rintro (⟨rfl, rfl⟩ | ⟨middle, rfl, rfl⟩ | ⟨middle, rfl, rfl⟩)
    · rfl
    · simp only [append_assoc]
    · simp only [append_assoc]

/-- What goes on behind a text is a different text. -/
theorem ne_append_point (s middle : Text) : s ≠ s ++ "." ++ middle := by
  intro h
  have hlength := congrArg (fun text => text.points.length) h
  have hpoint : (("." : String) : Text).points.length = 1 := rfl
  simp only [points_append, List.length_append, hpoint] at hlength
  omega

end Text

namespace Index

/-- Where tables straddle one identifier, their schemas differ. -/
theorem Straddles.schema_ne (h : a.Straddles b) : a.tableSchema ≠ b.tableSchema := by
  obtain ⟨schema, middle, table, ha, -, hb, -⟩ := h
  intro hschema
  rw [ha, hb, Value.text.injEq] at hschema
  exact Text.ne_append_point schema middle hschema.symm

/-- Indexes whose tables have one identifier belong to one table, or the two straddle it. -/
theorem sharesTable_or_straddles (ha : a.IsNamed) (hb : b.IsNamed)
    (h : a.tableQualifiedName = b.tableQualifiedName) :
    a.SharesTable b ∨ a.Straddles b ∨ b.Straddles a := by
  obtain ⟨schema, hschema⟩ := ha.schema
  obtain ⟨table, htable⟩ := ha.table
  obtain ⟨schema', hschema'⟩ := hb.schema
  obtain ⟨table', htable'⟩ := hb.table
  rw [tableQualifiedName, tableQualifiedName, hschema, htable, hschema', htable', qualify_text,
    qualify_text] at h
  rcases Text.joined_eq_iff.1 h with ⟨rfl, rfl⟩ | ⟨middle, rfl, rfl⟩ | ⟨middle, rfl, rfl⟩
  · exact .inl ⟨hschema.trans hschema'.symm, htable.trans htable'.symm⟩
  · exact .inr (.inl ⟨schema', middle, table, hschema, htable, hschema', htable'⟩)
  · exact .inr (.inr ⟨schema, middle, table', hschema', htable', hschema, htable⟩)

/-- Indexes whose tables have one identifier belong to one table exactly if the schemas are the
same. -/
theorem sharesTable_iff_schema_eq (ha : a.IsNamed) (hb : b.IsNamed)
    (h : a.tableQualifiedName = b.tableQualifiedName) :
    a.SharesTable b ↔ a.tableSchema = b.tableSchema := by
  refine ⟨fun hshares => hshares.1, fun hschema => ?_⟩
  rcases sharesTable_or_straddles ha hb h with hshares | hstraddles | hstraddles
  · exact hshares
  · exact (hstraddles.schema_ne hschema).elim
  · exact (hstraddles.schema_ne hschema.symm).elim

/-- Indexes whose tables have one identifier belong to one table exactly if the two do not straddle
it. -/
theorem sharesTable_iff (ha : a.IsNamed) (hb : b.IsNamed)
    (h : a.tableQualifiedName = b.tableQualifiedName) :
    a.SharesTable b ↔ ¬(a.Straddles b ∨ b.Straddles a) := by
  constructor
  · rintro hshares (hstraddles | hstraddles)
    · exact hstraddles.schema_ne hshares.1
    · exact hstraddles.schema_ne hshares.1.symm
  · exact (sharesTable_or_straddles ha hb h).resolve_right

end Index

/-- A statement that drops an index under the name of some index drops that one exactly if it does
so in its schema. -/
theorem Statement.dropsIndex_iff {st : Statement} {schema name : Text}
    (h : st.Drops options schema name) (hname : redundant.name = .text name) :
    st.DropsIndex options redundant ↔ redundant.tableSchema = .text schema := by
  constructor
  · rintro ⟨schema', name', hschema', -, hdrops⟩
    cases Repair.eq_dropIndex_of_sql_eq (hdrops.symm.trans h)
    exact hschema'
  · intro hschema
    exact ⟨schema, name, hschema, hname, h⟩

/-- The finding about a pair leads to a statement that drops an index in the schema of the first
one under the name of the redundant one, unless schema or name is empty. -/
theorem exists_drop_of_reportsPair (options : GeneratingOptions)
    (hreports : f.ReportsPair a b redundancy) (hredundant : redundancy.redundant? = some redundant)
    {schema name : Text} (hschema : a.tableSchema = .text schema)
    (hname : redundant.name = .text name) :
    ∃ statements, Statement.generate options [f] = .ok statements ∧
      (statements = [] ↔ schema = "" ∨ name = "") ∧
        ∀ st ∈ statements, st.Drops options schema name := by
  by_cases hempty : schema = "" ∨ name = ""
  · have hindex : f.metadata.get "redundant_index" = .text name := by
      rw [hreports.redundant, hredundant]
      exact hname
    have hall : f.metadata.hasAll ["schema", "redundant_index"] = false := by
      rw [← Bool.not_eq_true, Repair.hasAll_texts (hreports.schema.trans hschema) hindex]
      exact fun hboth => hempty.elim hboth.1 hboth.2
    have hnone : Repair.ofFinding? options f = .ok none :=
      Repair.ofFinding?_redundant_eq_none hreports.checkName hall
    exact ⟨[], Statement.generate_singleton_of_none hnone, iff_of_true rfl hempty, by simp⟩
  · rw [not_or] at hempty
    have hrepair : Repair.ofFinding? options f = .ok (some (.dropIndex schema name)) :=
      ofFinding?_of_reportsPair hreports hredundant ⟨hschema, hempty.1⟩ ⟨hname, hempty.2⟩
    refine ⟨_, Statement.generate_singleton hrepair, ?_, fun st hst => ?_⟩
    · exact iff_of_false (List.cons_ne_nil _ _) (not_or.2 hempty)
    · rw [List.mem_singleton.1 hst]
      rfl

/-- The two indexes of a finding belong to one table unless their tables straddle one identifier.
The finding leads to no statement exactly if the schema recorded or the name of the redundant index
is empty, and otherwise to one that drops the redundant index in its own schema if the two belong
to one table or the redundant one comes first, and in the schema of the other one if
not. -/
theorem flagged_pair_shares_table_iff (h : duplicatedIndexes.run s t = .ok findings)
    (hnames : ∀ index ∈ s.indexes, index.IsNamed) (hf : f ∈ findings)
    (hname : f.metadata.get "redundant_index" ≠ .null) (options : GeneratingOptions) :
    ∃ redundant ∈ s.indexes, ∃ kept ∈ s.indexes, f.Flags redundant kept ∧
      (redundant.SharesTable kept ↔ ¬(redundant.Straddles kept ∨ kept.Straddles redundant)) ∧
      ∃ statements, Statement.generate options [f] = .ok statements ∧
        (statements = [] ↔ f.metadata.get "schema" = .text "" ∨ redundant.name = .text "") ∧
        ∀ st ∈ statements, (st.DropsIndex options redundant ↔ redundant.SharesTable kept ∨
          textLe redundant.qualifiedName kept.qualifiedName = true) := by
  obtain ⟨a, b, redundant, kept, redundancy, hspares, -, hpair, hreports, hflags⟩ :=
    exists_flags h hf hname
  obtain ⟨hredundantMem, hkeptMem, hoverlaps, -⟩ := hspares.from_redundant h hpair
  obtain ⟨schema, hschema⟩ := (hnames a hspares.left_mem).schema
  obtain ⟨name, hindex⟩ := (hnames redundant hredundantMem).name
  obtain ⟨statements, hstatements, hnone, hdrops⟩ :=
    exists_drop_of_reportsPair options hreports hspares.redundant_eq hschema hindex
  refine ⟨redundant, hredundantMem, kept, hkeptMem, hflags,
    Index.sharesTable_iff (hnames _ hredundantMem) (hnames _ hkeptMem) hoverlaps.table,
    statements, hstatements, ?_, fun st hst => ?_⟩
  · rw [hnone, hreports.schema, hschema, hindex, Value.text.injEq, Value.text.injEq]
  · have hshares := Index.sharesTable_iff_schema_eq (hnames _ hredundantMem)
      (hnames _ hkeptMem) hoverlaps.table
    rw [Statement.dropsIndex_iff (hdrops st hst) hindex, hshares]
    rcases hpair with ⟨rfl, rfl⟩ | ⟨rfl, rfl⟩
    · exact iff_of_true hschema (.inr hspares.le)
    · have hlater : ¬textLe redundant.qualifiedName kept.qualifiedName = true :=
        fun hle => hspares.ne (textLe_antisymm hspares.le hle)
      rw [hschema, or_iff_left hlater]

/-- An index of the table of orders in one schema. -/
def euDays : Index := plainIndex "shop.eu" "orders" "by_day" ["day"]

/-- An index of another table, whose identifier is the same. -/
def shopDays : Index := plainIndex "shop" "eu.orders" "orders_by_day" ["day"]

/-- Two tables of one identifier with an index each. -/
def straddledOrders : Snapshot :=
  { bareSnapshot with
    indexes := [euDays, shopDays]
    indexes_nodup := by decide }

theorem plainIndex_isNamed (schema table name : String) (columns : List String) :
    (plainIndex schema table name columns).IsNamed :=
  ⟨⟨schema, rfl⟩, ⟨table, rfl⟩, name, rfl⟩

theorem straddledOrders_named : ∀ index ∈ straddledOrders.indexes, index.IsNamed := by
  intro index hindex
  rcases List.mem_pair.1 hindex with rfl | rfl
  · exact plainIndex_isNamed ..
  · exact plainIndex_isNamed ..

/-- The later one of the two indexes is flagged, and the statement names it in the schema of the
other one. -/
theorem straddledOrders_flags : ∃ findings,
    duplicatedIndexes.run straddledOrders {} = .ok findings ∧ ∃ f ∈ findings,
      f.Flags shopDays euDays ∧ ∃ statements, Statement.generate {} [f] = .ok statements ∧
        statements.map Statement.sql = [(Repair.dropIndex "shop.eu" "orders_by_day").sql {}] := by
  have hruns : (duplicatedIndexes.run straddledOrders {}).toOption.any (fun findings =>
      findings.any fun f => f.Flags shopDays euDays ∧
        (Statement.generate {} [f]).toOption.any fun statements =>
          statements.map Statement.sql =
            [(Repair.dropIndex "shop.eu" "orders_by_day").sql {}]) = true := by
    decide +kernel
  obtain ⟨findings, hfindings, hany⟩ := Traversal.exists_ok_of_toOption hruns
  obtain ⟨f, hf, hboth⟩ := List.any_eq_true.1 hany
  obtain ⟨hflags, hgenerates⟩ := of_decide_eq_true hboth
  obtain ⟨statements, hstatements, htexts⟩ := Traversal.exists_ok_of_toOption hgenerates
  exact ⟨findings, hfindings, f, hf, hflags, statements, hstatements, of_decide_eq_true htexts⟩

/-- The tables of the two indexes straddle their identifier. -/
theorem flagged_pair_shares_table_iff_straddled : ∃ findings,
    duplicatedIndexes.run straddledOrders {} = .ok findings ∧
      (∀ index ∈ straddledOrders.indexes, index.IsNamed) ∧ ∃ f ∈ findings,
        f.metadata.get "redundant_index" ≠ .null ∧
          ∃ redundant ∈ straddledOrders.indexes, ∃ kept ∈ straddledOrders.indexes,
            f.Flags redundant kept ∧
            (redundant.SharesTable kept ↔
              ¬(redundant.Straddles kept ∨ kept.Straddles redundant)) ∧
            ∃ statements, Statement.generate {} [f] = .ok statements ∧
              (statements = [] ↔
                f.metadata.get "schema" = .text "" ∨ redundant.name = .text "") ∧
              ∀ st ∈ statements, (st.DropsIndex {} redundant ↔ redundant.SharesTable kept ∨
                textLe redundant.qualifiedName kept.qualifiedName = true) := by
  obtain ⟨findings, hfindings, f, hf, hflags, -⟩ := straddledOrders_flags
  have hname := hflags.isRecorded rfl
  have hpair := flagged_pair_shares_table_iff hfindings straddledOrders_named hf hname {}
  exact ⟨findings, hfindings, straddledOrders_named, f, hf, hname, hpair⟩

/-- The two indexes of a finding may belong to different tables, and the statement may drop an index
in the schema of the wrong one. -/
theorem straddledOrders_dropped_elsewhere : ∃ findings,
    duplicatedIndexes.run straddledOrders {} = .ok findings ∧ ∃ f ∈ findings,
      ∃ redundant ∈ straddledOrders.indexes, ∃ kept ∈ straddledOrders.indexes,
        f.Flags redundant kept ∧ ¬redundant.SharesTable kept ∧
          ∃ statements, Statement.generate {} [f] = .ok statements ∧
            ∃ st ∈ statements, ¬st.DropsIndex {} redundant := by
  obtain ⟨findings, hfindings, f, hf, hflags, statements, hstatements, htexts⟩ :=
    straddledOrders_flags
  obtain ⟨st, rest, rfl, hdrops, -⟩ := List.map_eq_cons_iff.1 htexts
  have hschema : shopDays.tableSchema ≠ .text "shop.eu" := by decide
  refine ⟨findings, hfindings, f, hf, shopDays, by simp [straddledOrders], euDays,
    by simp [straddledOrders], hflags, fun hshares => hschema hshares.1, _, hstatements, st,
    List.mem_cons_self .., fun hown => ?_⟩
  exact hschema ((Statement.dropsIndex_iff hdrops rfl).1 hown)

end CatalogHealth
