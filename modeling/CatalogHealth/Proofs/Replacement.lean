import CatalogHealth.Proofs.Rebuilding

/-!
# What replaces a dropped index

An index is dropped as redundant because another one does all of its work. Which indexes are
unused is decided without regard to that, so the other one may be dropped as well, but
only for being unused itself. A drop that looks for a redundant index in the schema of its
partner and not in its own is outside the scope of this module.
-/

namespace CatalogHealth

variable {s : Snapshot} {t : Thresholds} {options : GeneratingOptions} {report : Report}
  {f : Finding}

/-- A redundant index of some name is looked for in a schema that is not its own. -/
def Snapshot.Misplaces (s : Snapshot) (schema name : Text) : Prop :=
  ∃ a b redundant redundancy, s.Spares a b redundant redundancy ∧
    a.tableSchema = .text schema ∧ redundant.name = .text name ∧
      redundant.tableSchema ≠ a.tableSchema

/-- A redundant index belongs to the snapshot. -/
theorem Snapshot.Spares.mem {a b redundant : Index} {redundancy : Redundancy}
    (h : s.Spares a b redundant redundancy) : redundant ∈ s.indexes := by
  rcases h.eq_or_eq with rfl | rfl
  · exact h.left_mem
  · exact h.right_mem

/-- A finding that asks for a redundant index to be dropped in its own place is about one that the
check reports. -/
theorem exists_redundant_of_asked (hreport : evaluate s { thresholds := t } = .ok report)
    (hf : f ∈ report.findings) (hname : f.checkName = duplicatedIndexesLabel.name)
    {schema name : Text}
    (hdrop : Repair.ofFinding? options f = .ok (some (.dropIndex schema name)))
    (hplace : ¬s.Misplaces schema name) : ∃ dropped ∈ s.indexes, dropped.At schema name ∧
      ∃ found, duplicatedIndexes.run s t = .ok found ∧
        dropped.qualifiedName ∈ redundantNames found := by
  rcases dropped_of_asked hreport hf hdrop with
    ⟨a, b, redundant, redundancy, hspares, -, hschema, hindex, found, hrun⟩ | ⟨x, -, hreports, -⟩
  · have hown : redundant.tableSchema = a.tableSchema := by
      by_contra hother
      exact hplace ⟨a, b, redundant, redundancy, hspares, hschema.1, hindex.1, hother⟩
    have hat : redundant.At schema name :=
      ⟨hown.trans hschema.1, hindex.1, hschema.2, hindex.2⟩
    have hnamed : redundant.name ≠ .null := by
      rw [hindex.1]
      exact Value.noConfusion
    exact ⟨redundant, hspares.mem, hat, found, hrun, (mem_redundantNames hrun).2
      ⟨a, b, redundancy, redundant, hspares.toCompares, hspares.judged, hspares.redundant_eq,
        hnamed, rfl⟩⟩
  · have hnames := hname.symm.trans hreports.checkName
    exact absurd hnames (by decide)

/-- A statement that drops an index which is not redundant was asked for because the index is
unused. -/
theorem unused_of_drops {statements : List Statement}
    (hreport : evaluate s { thresholds := t } = .ok report)
    (hstatements : Statement.generate options report.findings = .ok statements)
    {found : List Finding} (hrun : duplicatedIndexes.run s t = .ok found) {kept : Index}
    (hkept : kept ∈ s.indexes) (hfree : kept.qualifiedName ∉ redundantNames found)
    {schema name : Text} (hat : kept.At schema name) (hplace : ¬s.Misplaces schema name)
    {st : Statement} (hst : st ∈ statements) (hdrops : st.Drops options schema name) :
    st.checkName = unusedIndexesLabel.name ∧
      ∃ evidence, unusedEvidence? s t kept = .ok (some evidence) := by
  obtain ⟨g, hg, hasked⟩ := Statement.exists_finding_of_mem_generate hstatements hst
  have hreported : g ∈ report.findings := Finding.mem_of_mem_merge hg
  have hdrop := Statement.ofFinding?_of_drops hasked hdrops
  have hcheck : st.checkName = g.checkName := by
    obtain ⟨repair, -, rfl⟩ := Statement.asked?_eq_some.1 hasked
    rfl
  have hname := Repair.checkName_mem_askingChecks hdrop
  simp only [Repair.askingChecks, List.mem_cons, List.not_mem_nil, or_false] at hname
  rcases hname with hname | hname
  · -- A finding about a redundant index would have to be about this one.
    obtain ⟨other, hother, hotherAt, found', hrun', hredundant⟩ :=
      exists_redundant_of_asked hreport hreported hname hdrop hplace
    have hsame : other = kept := hotherAt.eq hat hother hkept
    have hfound : found' = found := Except.ok.inj (hrun'.symm.trans hrun)
    rw [hsame, hfound] at hredundant
    exact absurd hredundant hfree
  · obtain ⟨_, _, hnames, hrepair⟩ := (Repair.ofFinding?_unused hname).1 hdrop
    cases hrepair
    obtain ⟨x, hx, -, hxAt, hevidence⟩ := unused_of_names hreport hreported hname hnames
    have hsame : x = kept := hxAt.eq hat hx hkept
    rw [hsame] at hevidence
    exact ⟨hcheck.trans hname, hevidence⟩

/-- For every index that is dropped as redundant the snapshot holds a valid one that does all of
its work, and a statement of the list that drops this one was asked for because it is itself
unused. -/
theorem replacement_dropped_only_if_unused {statements : List Statement}
    (hreport : evaluate s { thresholds := t } = .ok report)
    (hstatements : Statement.generate options report.findings = .ok statements)
    (hf : f ∈ report.findings) (hname : f.checkName = duplicatedIndexesLabel.name)
    {schema name : Text}
    (hdrop : Repair.ofFinding? options f = .ok (some (.dropIndex schema name)))
    (hplace : ¬s.Misplaces schema name) :
    ∃ dropped ∈ s.indexes, dropped.At schema name ∧
      ∃ kept ∈ s.indexes, kept.isValid = true ∧ kept.Serves dropped ∧
        ∀ st ∈ statements, ∀ schema' name', kept.At schema' name' →
          ¬s.Misplaces schema' name' → st.Drops options schema' name' →
            st.checkName = unusedIndexesLabel.name ∧
              ∃ evidence, unusedEvidence? s t kept = .ok (some evidence) := by
  obtain ⟨dropped, hdropped, hat, found, hrun, hredundant⟩ :=
    exists_redundant_of_asked hreport hf hname hdrop hplace
  obtain ⟨kept, hkept, hcomparable, hfree, hserves⟩ :=
    exists_serves_not_redundant hrun hdropped hredundant
  have hvalid : kept.isValid = true := isValid_of_isComparable hcomparable
  refine ⟨dropped, hdropped, hat, kept, hkept, hvalid, hserves, ?_⟩
  intro st hst schema' name' hkeptAt hkeptPlace hdrops
  exact unused_of_drops hreport hstatements hrun hkept hfree hkeptAt hkeptPlace hst hdrops

/-- A scanned index and a longer one that was never scanned, on a large table. -/
def unusedExtension : Snapshot :=
  { bareSnapshot with
    tables := [{ schema := .text "public", name := .text "orders", sizeBytes := 20971520 }]
    indexes :=
      [{ plainIndex "public" "orders" "by_day" ["day"] with scanCount := some 5 },
       { plainIndex "public" "orders" "by_day_shop" ["day", "shop"] with scanCount := some 0 }]
    tables_nodup := by decide
    indexes_nodup := by decide }

/-- Both indexes are dropped, the one as redundant and the other one as unused. -/
theorem unusedExtension_statements : ∃ report statements,
    evaluate unusedExtension { thresholds := {} } = .ok report ∧
      Statement.generate {} report.findings = .ok statements ∧
      statements.map (fun st => (st.checkName, st.sql)) =
        [(duplicatedIndexesLabel.name, (Repair.dropIndex "public" "by_day").sql {}),
         (unusedIndexesLabel.name, (Repair.dropIndex "public" "by_day_shop").sql {})] := by
  have hruns : (evaluate unusedExtension { thresholds := {} } >>= fun report =>
      Statement.generate {} report.findings).toOption.any (fun statements =>
        statements.map (fun st => (st.checkName, st.sql)) =
          [(duplicatedIndexesLabel.name, (Repair.dropIndex "public" "by_day").sql {}),
           (unusedIndexesLabel.name, (Repair.dropIndex "public" "by_day_shop").sql {})])
      = true := by
    decide +kernel
  obtain ⟨report, statements, hreport, hstatements, htexts⟩ :=
    Statement.exists_report_of_toOption hruns
  exact ⟨report, statements, hreport, hstatements, of_decide_eq_true htexts⟩

/-- The drop of the shorter index is asked for by a finding about a redundant index. -/
theorem unusedExtension_finding {statements : List Statement}
    (hstatements : Statement.generate {} report.findings = .ok statements)
    (htexts : statements.map (fun st => (st.checkName, st.sql)) =
      [(duplicatedIndexesLabel.name, (Repair.dropIndex "public" "by_day").sql {}),
       (unusedIndexesLabel.name, (Repair.dropIndex "public" "by_day_shop").sql {})]) :
    ∃ f ∈ report.findings, f.checkName = duplicatedIndexesLabel.name ∧
      Repair.ofFinding? {} f = .ok (some (.dropIndex "public" "by_day")) := by
  obtain ⟨st, rest, rfl, hst, -⟩ := List.map_eq_cons_iff.1 htexts
  obtain ⟨f, hf, hasked⟩ :=
    Statement.exists_finding_of_mem_generate hstatements (List.mem_cons_self ..)
  obtain ⟨repair, -, hmade⟩ := Statement.asked?_eq_some.1 hasked
  have hname : f.checkName = st.checkName := by rw [hmade]; rfl
  exact ⟨f, Finding.mem_of_mem_merge hf, hname.trans (Prod.mk.inj hst).1,
    Statement.ofFinding?_of_drops hasked (Prod.mk.inj hst).2⟩

/-- A list of statements may drop a redundant index and all others of its snapshot. -/
theorem unusedExtension_all_dropped : ∃ report statements,
    evaluate unusedExtension { thresholds := {} } = .ok report ∧
      Statement.generate {} report.findings = .ok statements ∧
      (∃ f ∈ report.findings, f.checkName = duplicatedIndexesLabel.name ∧
        Repair.ofFinding? {} f = .ok (some (.dropIndex "public" "by_day"))) ∧
      ∀ index ∈ unusedExtension.indexes, ∃ schema name, index.At schema name ∧
        ∃ st ∈ statements, st.Drops {} schema name := by
  obtain ⟨report, statements, hreport, hstatements, htexts⟩ := unusedExtension_statements
  refine ⟨report, statements, hreport, hstatements, unusedExtension_finding hstatements htexts, ?_⟩
  obtain ⟨st, rest, rfl, hst, hrest⟩ := List.map_eq_cons_iff.1 htexts
  obtain ⟨st', tail, rfl, hst', -⟩ := List.map_eq_cons_iff.1 hrest
  intro index hindex
  simp only [unusedExtension, List.mem_cons, List.not_mem_nil, or_false] at hindex
  rcases hindex with rfl | rfl
  · exact ⟨"public", "by_day", ⟨rfl, rfl, by decide, by decide⟩, st, by simp, (Prod.mk.inj hst).2⟩
  · exact ⟨"public", "by_day_shop", ⟨rfl, rfl, by decide, by decide⟩, st', by simp,
      (Prod.mk.inj hst').2⟩

/-- The index that is dropped as redundant has its replacement, which is unused. -/
theorem replacement_dropped_only_if_unused_extension : ∃ report statements,
    evaluate unusedExtension { thresholds := {} } = .ok report ∧
      Statement.generate {} report.findings = .ok statements ∧
      ∃ dropped ∈ unusedExtension.indexes, dropped.At "public" "by_day" ∧
        ∃ kept ∈ unusedExtension.indexes, kept.isValid = true ∧ kept.Serves dropped ∧
          ∀ st ∈ statements, ∀ schema' name', kept.At schema' name' →
            ¬unusedExtension.Misplaces schema' name' → st.Drops {} schema' name' →
              st.checkName = unusedIndexesLabel.name ∧
                ∃ evidence, unusedEvidence? unusedExtension {} kept = .ok (some evidence) := by
  obtain ⟨report, statements, hreport, hstatements, htexts⟩ := unusedExtension_statements
  obtain ⟨f, hf, hname, hdrop⟩ := unusedExtension_finding hstatements htexts
  have hschema : ∀ index ∈ unusedExtension.indexes, index.tableSchema = .text "public" := by
    decide
  have hplace : ¬unusedExtension.Misplaces "public" "by_day" := by
    rintro ⟨a, b, redundant, redundancy, hspares, -, -, hother⟩
    exact hother ((hschema _ hspares.mem).trans (hschema _ hspares.left_mem).symm)
  exact ⟨report, statements, hreport, hstatements,
    replacement_dropped_only_if_unused hreport hstatements hf hname hdrop hplace⟩

end CatalogHealth
