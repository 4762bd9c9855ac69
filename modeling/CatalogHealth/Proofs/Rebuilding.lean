import CatalogHealth.Proofs.Generation

/-!
# Statements that drop and statements that rebuild

One finding may ask for an index to be dropped and another one for it to be built anew. A drop
stands where the first of the two indexes that are compared belongs, and a rebuild where the
index itself does. So a list of statements can drop an index and rebuild it afterwards, which
fails, and this module says exactly when. What the database does with the script is outside
the scope of this module.
-/

namespace CatalogHealth

variable {s : Snapshot} {t : Thresholds} {options : GeneratingOptions} {report : Report}
  {f g : Finding}

/-! ## What the findings of a report ask for -/

/-- One of two indexes that are compared is redundant. -/
structure Snapshot.Spares (s : Snapshot) (a b redundant : Index) (redundancy : Redundancy) :
    Prop extends s.Compares a b where
  /-- The two are judged to be redundant in some way. -/
  judged : redundancy? a b = .ok (some redundancy)
  /-- This way makes one of them superfluous. -/
  redundant_eq : redundancy.redundant? = some redundant

/-- A check that added a finding which records a schema ran to its end. -/
theorem Check.Adds.ran {check : Check} {key : String} {schema index : Text}
    (h : check.Adds s t f) (hnames : f.Names key schema index) :
    ∃ found, check.run s t = .ok found ∧ f ∈ found := by
  unfold Check.Adds at h
  cases hrun : check.run s t with
  | ok found =>
    rw [hrun] at h
    exact ⟨found, rfl, h⟩
  | error fault =>
    rw [hrun] at h
    have hschema := hnames.schema_recorded
    rw [h] at hschema
    cases hschema

/-- The finding that asks for a redundant index to be dropped is about a pair one of whose
indexes has the recorded name, while the recorded schema is that of the first one. -/
theorem spares_of_names (hreport : evaluate s { thresholds := t } = .ok report)
    (hf : f ∈ report.findings) (hname : f.checkName = duplicatedIndexesLabel.name)
    {schema name : Text} (hnames : f.Names "redundant_index" schema name) :
    ∃ a b redundant redundancy, s.Spares a b redundant redundancy ∧
      f.ReportsPair a b redundancy ∧ a.tableSchema = .text schema ∧
        redundant.name = .text name ∧
          ∃ found, duplicatedIndexes.run s t = .ok found ∧ f ∈ found := by
  have hmem : duplicatedIndexes ∈ builtinChecks := by simp [builtinChecks]
  obtain ⟨found, hrun, hfound⟩ := (adds_of_mem_report hreport hf hmem hname).ran hnames
  have hrecorded : f.metadata.get "redundant_index" ≠ .null := by
    rw [hnames.index_recorded]
    exact Value.noConfusion
  obtain ⟨a, b, redundancy, redundant, hab, hredundancy, hredundant, hfinding⟩ :=
    exists_redundant_of_recorded hrun hfound hrecorded
  have hreports := reportsPair_of_redundancyFinding hab.le hfinding
  have hschema := hreports.schema.symm.trans hnames.schema_recorded
  have hindex := hreports.redundant.symm.trans hnames.index_recorded
  simp only [hredundant, Option.map_some, Option.getD_some] at hindex
  exact ⟨a, b, redundant, redundancy, ⟨hab, hredundancy, hredundant⟩, hreports, hschema, hindex,
    found, hrun, hfound⟩

/-- An index stands under a schema and a name, both texts that are not empty. -/
structure Index.At (index : Index) (schema name : Text) : Prop where
  /-- The schema of the index. -/
  schema_eq : index.tableSchema = .text schema
  /-- The name of the index. -/
  name_eq : index.name = .text name
  /-- The schema is not empty. -/
  schema_ne : schema ≠ ""
  /-- The name is not empty. -/
  name_ne : name ≠ ""

/-- A finding about one index records its schema and its name. -/
theorem Finding.ReportsIndex.names_iff {label : CheckLabel} {severity : Severity} {x : Index}
    (h : f.ReportsIndex label severity x) {schema name : Text} :
    f.Names "index" schema name ↔ x.At schema name := by
  constructor
  · intro hnames
    exact ⟨h.schema.symm.trans hnames.schema_recorded, h.name.symm.trans hnames.index_recorded,
      hnames.schema_ne, hnames.index_ne⟩
  · intro hat
    exact ⟨h.schema.trans hat.schema_eq, h.name.trans hat.name_eq, hat.schema_ne, hat.name_ne⟩

/-- Indexes of a snapshot that stand in one place are one index. -/
theorem Index.At.eq {x y : Index} {schema name : Text} (hx : x.At schema name)
    (hy : y.At schema name) (hxs : x ∈ s.indexes) (hys : y ∈ s.indexes) : x = y := by
  refine s.index_eq hxs hys ?_
  rw [qualifiedName, qualifiedName, hx.schema_eq, hx.name_eq, hy.schema_eq, hy.name_eq]

/-- An index is bloated. -/
def Index.IsBloated (t : Thresholds) (index : Index) : Prop :=
  ∃ ratio, bloatVerdict t index.sizeBytes index.bloatRatio = .ok (.bloated ratio)

/-- The finding that asks for an unused index to be dropped is about an index in the recorded
place. -/
theorem unused_of_names (hreport : evaluate s { thresholds := t } = .ok report)
    (hf : f ∈ report.findings) (hname : f.checkName = unusedIndexesLabel.name)
    {schema name : Text} (hnames : f.Names "index" schema name) :
    ∃ x ∈ s.indexes, f.ReportsIndex unusedIndexesLabel .warning x ∧ x.At schema name ∧
      ∃ evidence, unusedEvidence? s t x = .ok (some evidence) := by
  have hmem : unusedIndexes ∈ builtinChecks := by simp [builtinChecks]
  obtain ⟨found, hrun, hfound⟩ := (adds_of_mem_report hreport hf hmem hname).ran hnames
  obtain ⟨x, hx, table, scans, hevidence, hfinding⟩ := (mem_unusedIndexes hrun).1 hfound
  have hreports := reportsIndex_of_unusedIndexFinding hfinding
  exact ⟨x, hx, hreports, hreports.names_iff.1 hnames, (table, scans), hevidence⟩

/-- The finding that asks for an invalid index to be rebuilt is about an index in the recorded
place. -/
theorem invalid_of_names (hreport : evaluate s { thresholds := t } = .ok report)
    (hf : f ∈ report.findings) (hname : f.checkName = invalidIndexesLabel.name)
    {schema name : Text} (hnames : f.Names "index" schema name) :
    ∃ x ∈ s.indexes, f.ReportsIndex invalidIndexesLabel .high x ∧ x.At schema name ∧
      x.isValid = false := by
  have hmem : invalidIndexes ∈ builtinChecks := by simp [builtinChecks]
  obtain ⟨found, hrun, hfound⟩ := (adds_of_mem_report hreport hf hmem hname).ran hnames
  obtain ⟨x, hx, hinvalid, rfl⟩ := (mem_invalidIndexes hrun).1 hfound
  have hreports := reportsIndex_of_invalidIndexFinding x
  exact ⟨x, hx, hreports, hreports.names_iff.1 hnames, hinvalid⟩

/-- The finding that asks for a bloated index to be rebuilt is about an index in the recorded
place. -/
theorem bloated_of_names (hreport : evaluate s { thresholds := t } = .ok report)
    (hf : f ∈ report.findings) (hname : f.checkName = bloatedIndexesLabel.name)
    {schema name : Text} (hnames : f.Names "index" schema name) :
    ∃ x ∈ s.indexes, f.ReportsIndex bloatedIndexesLabel .warning x ∧ x.At schema name ∧
      x.IsBloated t ∧ ∃ found, bloatedIndexes.run s t = .ok found := by
  have hmem : bloatedIndexes ∈ builtinChecks := by simp [builtinChecks]
  obtain ⟨found, hrun, hfound⟩ := (adds_of_mem_report hreport hf hmem hname).ran hnames
  obtain ⟨x, hx, verdict, hverdict, hmade⟩ := (mem_bloatedIndexes hrun).1 hfound
  cases verdict with
  | acceptable => exact hmade.elim
  | outOfRange ratio =>
    have hschema := hnames.schema_recorded
    rw [show f = _ from hmade] at hschema
    cases hschema
  | bloated ratio =>
    have hreports := reportsIndex_of_bloatedIndexFinding hmade
    exact ⟨x, hx, hreports, hreports.names_iff.1 hnames, ⟨ratio, hverdict⟩, found, hrun⟩

/-- A redundant index is one of the two that are compared. -/
theorem Snapshot.Spares.eq_or_eq {a b redundant : Index} {redundancy : Redundancy}
    (h : s.Spares a b redundant redundancy) : redundant = a ∨ redundant = b := by
  obtain ⟨kept, -, hpair, -⟩ := supersedes_of_redundancy h.table h.ne h.judged h.redundant_eq
  exact hpair.imp And.left And.left

/-- A statement that drops an index is asked for by a finding about a redundant or an unused
index. -/
theorem dropped_of_asked (hreport : evaluate s { thresholds := t } = .ok report)
    (hf : f ∈ report.findings) {schema name : Text}
    (h : Repair.ofFinding? options f = .ok (some (.dropIndex schema name))) :
    (∃ a b redundant redundancy, s.Spares a b redundant redundancy ∧
      f.ReportsPair a b redundancy ∧ (a.tableSchema = .text schema ∧ schema ≠ "") ∧
        (redundant.name = .text name ∧ name ≠ "") ∧
          ∃ found, duplicatedIndexes.run s t = .ok found) ∨
      ∃ x ∈ s.indexes, f.ReportsIndex unusedIndexesLabel .warning x ∧ x.At schema name ∧
        ∃ evidence, unusedEvidence? s t x = .ok (some evidence) := by
  have hname := Repair.checkName_mem_askingChecks h
  simp only [Repair.askingChecks, List.mem_cons, List.not_mem_nil, or_false] at hname
  rcases hname with hname | hname
  · obtain ⟨_, _, hnames, hrepair⟩ := (Repair.ofFinding?_redundant hname).1 h
    cases hrepair
    obtain ⟨a, b, redundant, redundancy, hspares, hreports, hschema, hindex, found, hrun, -⟩ :=
      spares_of_names hreport hf hname hnames
    exact .inl ⟨a, b, redundant, redundancy, hspares, hreports, ⟨hschema, hnames.schema_ne⟩,
      ⟨hindex, hnames.index_ne⟩, found, hrun⟩
  · obtain ⟨_, _, hnames, hrepair⟩ := (Repair.ofFinding?_unused hname).1 h
    cases hrepair
    exact .inr (unused_of_names hreport hf hname hnames)

/-- A statement that rebuilds an index is asked for by a finding about an invalid or a bloated
one. -/
theorem rebuilt_of_asked (hreport : evaluate s { thresholds := t } = .ok report)
    (hf : f ∈ report.findings) {schema name : Text}
    (h : Repair.ofFinding? options f = .ok (some (.reindex schema name))) :
    ∃ x ∈ s.indexes, x.At schema name ∧
      ((f.ReportsIndex invalidIndexesLabel .high x ∧ x.isValid = false) ∨
        f.ReportsIndex bloatedIndexesLabel .warning x ∧ x.IsBloated t ∧
          ∃ found, bloatedIndexes.run s t = .ok found) := by
  have hname := Repair.checkName_mem_askingChecks h
  simp only [Repair.askingChecks, List.mem_cons, List.not_mem_nil, or_false] at hname
  rcases hname with hname | hname
  · obtain ⟨_, _, hnames, hrepair⟩ := (Repair.ofFinding?_invalid hname).1 h
    cases hrepair
    obtain ⟨x, hx, hreports, hat, hinvalid⟩ := invalid_of_names hreport hf hname hnames
    exact ⟨x, hx, hat, .inl ⟨hreports, hinvalid⟩⟩
  · obtain ⟨_, _, hnames, hrepair⟩ := (Repair.ofFinding?_bloated hname).1 h
    cases hrepair
    obtain ⟨x, hx, hreports, hat, hbloated, hrun⟩ := bloated_of_names hreport hf hname hnames
    exact ⟨x, hx, hat, .inr ⟨hreports, hbloated, hrun⟩⟩

/-! ## What the report holds -/

/-- The redundancy of a pair is in the report. -/
theorem exists_mem_report_of_spares (hreport : evaluate s { thresholds := t } = .ok report)
    {found : List Finding} (hrun : duplicatedIndexes.run s t = .ok found) {a b redundant : Index}
    {redundancy : Redundancy} (h : s.Spares a b redundant redundancy) :
    ∃ f ∈ report.findings, f.ReportsPair a b redundancy := by
  have hmem : duplicatedIndexes ∈ builtinChecks := by simp [builtinChecks]
  obtain ⟨f, hf, hreports⟩ := h.toCompares.exists_finding hrun h.judged
  obtain ⟨g, hg, hfound, hkey⟩ := exists_mem_report hreport hmem hrun hf
  have hobjects : g.objects = [a.qualifiedName, b.qualifiedName] :=
    (Prod.mk.inj hkey).2.trans hreports.objects
  refine ⟨g, hg, ?_⟩
  rcases (mem_duplicatedIndexes hrun).1 hfound with ⟨index, -, -, rfl⟩ | hpair
  · have hone : [index.qualifiedName] = [a.qualifiedName, b.qualifiedName] :=
      (affectedObjects_index index).symm.trans hobjects
    simp at hone
  · obtain ⟨a', b', redundancy', hab, hredundancy, hfinding⟩ := hpair
    have hreports' := reportsPair_of_redundancyFinding hab.le hfinding
    have hnames := hreports'.objects.symm.trans hobjects
    simp only [List.cons.injEq, and_true] at hnames
    have ha : a' = a := s.index_eq hab.left_mem h.left_mem hnames.1
    have hb : b' = b := s.index_eq hab.right_mem h.right_mem hnames.2
    subst ha hb
    have hsame : redundancy' = redundancy :=
      Option.some.inj (Except.ok.inj (hredundancy.symm.trans h.judged))
    exact hsame ▸ hreports'

/-- A check that ran to its end has a finding about each bloated index. -/
theorem exists_bloatedIndexFinding {found : List Finding}
    (hrun : bloatedIndexes.run s t = .ok found) {x : Index} (hx : x ∈ s.indexes) {ratio : Binary64}
    (hratio : bloatVerdict t x.sizeBytes x.bloatRatio = .ok (.bloated ratio)) :
    ∃ f ∈ found, bloatedIndexFinding x ratio = .ok f := by
  obtain ⟨made, hmade⟩ := Traversal.exists_gathered.1 ⟨found, hrun⟩ x (mem_sortBy.2 hx)
  obtain ⟨verdict, hverdict, hmade⟩ := Traversal.bind_eq_ok.1 hmade
  have hsame : verdict = .bloated ratio := Except.ok.inj (hverdict.symm.trans hratio)
  rw [hsame] at hmade
  obtain ⟨f, hf, -⟩ := Traversal.bind_eq_ok.1 hmade
  exact ⟨f, (mem_bloatedIndexes hrun).2 ⟨x, hx, .bloated ratio, hratio, hf⟩, hf⟩

/-- A bloated index is in the report. -/
theorem exists_mem_report_of_bloated (hreport : evaluate s { thresholds := t } = .ok report)
    {found : List Finding} (hrun : bloatedIndexes.run s t = .ok found) {x : Index}
    (hx : x ∈ s.indexes) (hbloated : x.IsBloated t) :
    ∃ f ∈ report.findings, f.ReportsIndex bloatedIndexesLabel .warning x := by
  have hmem : bloatedIndexes ∈ builtinChecks := by simp [builtinChecks]
  obtain ⟨ratio, hratio⟩ := hbloated
  obtain ⟨f, hf, hmade⟩ := exists_bloatedIndexFinding hrun hx hratio
  obtain ⟨g, hg, hfound, hkey⟩ := exists_mem_report hreport hmem hrun hf
  have hobjects : g.objects = [x.qualifiedName] :=
    (Prod.mk.inj hkey).2.trans (reportsIndex_of_bloatedIndexFinding hmade).objects
  obtain ⟨x', hx', verdict, hverdict, hreports⟩ := (mem_bloatedIndexes hrun).1 hfound
  have hobjects' : g.objects = [x'.qualifiedName] := by
    cases verdict with
    | acceptable => exact hreports.elim
    | outOfRange ratio' =>
      rw [show g = _ from hreports]
      exact affectedObjects_index x'
    | bloated ratio' => exact (reportsIndex_of_bloatedIndexFinding hreports).objects
  have hsame : x' = x := s.index_eq hx' hx (List.cons.inj (hobjects'.symm.trans hobjects)).1
  subst hsame
  have hverdict' : verdict = .bloated ratio := Except.ok.inj (hverdict.symm.trans hratio)
  subst hverdict'
  exact ⟨g, hg, reportsIndex_of_bloatedIndexFinding hreports⟩

/-- An invalid index is in the report. -/
theorem exists_mem_report_of_invalid (hreport : evaluate s { thresholds := t } = .ok report)
    {x : Index} (hx : x ∈ s.indexes) (hinvalid : x.isValid = false) :
    ∃ f ∈ report.findings, f.ReportsIndex invalidIndexesLabel .high x := by
  have hmem : invalidIndexes ∈ builtinChecks := by simp [builtinChecks]
  have hrun : ∃ found, invalidIndexes.run s t = .ok found := ⟨_, rfl⟩
  obtain ⟨found, hrun⟩ := hrun
  have hmember := (mem_invalidIndexes hrun).2 ⟨x, hx, hinvalid, rfl⟩
  obtain ⟨g, hg, hfound, hkey⟩ := exists_mem_report hreport hmem hrun hmember
  obtain ⟨x', hx', -, rfl⟩ := (mem_invalidIndexes hrun).1 hfound
  have hreports := reportsIndex_of_invalidIndexFinding x'
  have hobjects : [x'.qualifiedName] = [x.qualifiedName] := by
    rw [← hreports.objects, ← (reportsIndex_of_invalidIndexFinding x).objects]
    exact (Prod.mk.inj hkey).2
  have hsame : x' = x := s.index_eq hx' hx (List.cons.inj hobjects).1
  exact ⟨_, hg, hsame ▸ hreports⟩

/-! ## The order of drops and rebuilds -/

/-- Urgent findings come first. -/
theorem Finding.rank_le_of_le (h : f.le g = true) : f.severity.rank ≤ g.severity.rank := by
  by_cases hrank : f.severity.rank = g.severity.rank
  · exact Nat.le_of_eq hrank
  · simpa [Finding.le, SortKey.le, byPart, Finding.sortKey, hrank] using h

/-- More urgent findings come first. -/
theorem Finding.le_of_rank_lt (h : f.severity.rank < g.severity.rank) : f.le g = true := by
  have hne : f.severity.rank ≠ g.severity.rank := Nat.ne_of_lt h
  simpa [Finding.le, SortKey.le, byPart, Finding.sortKey, hne] using Nat.le_of_lt h

/-- Findings of one severity follow their objects. -/
theorem Finding.le_eq_textsLe (hseverity : f.severity = g.severity)
    (hobjects : f.objects ≠ g.objects) : f.le g = textsLe f.objects g.objects := by
  simp [Finding.le, SortKey.le, SortKey.objectsLe, byPart, Finding.sortKey, hseverity, hobjects]

/-- Findings of one severity about the same objects follow their checks. -/
theorem Finding.le_eq_textLe (hseverity : f.severity = g.severity)
    (hobjects : f.objects = g.objects)
    (hname : (f.checkName : Text) ≠ g.checkName) : f.le g = textLe f.checkName g.checkName := by
  simp [Finding.le, SortKey.le, SortKey.objectsLe, SortKey.checkLe, byPart, Finding.sortKey,
    hseverity, hobjects, hname]

/-- Two texts come before a single one exactly if the first one does and is a different one. -/
theorem textsLe_pair_single {a b x : Text} :
    textsLe [a, b] [x] = true ↔ textLe a x = true ∧ a ≠ x := by
  by_cases h : a = x
  · simp [textsLe, dictionaryLe, h]
  · simp [textsLe, dictionaryLe, h]

/-- An index is dropped in the place of a valid one that is bloated and belongs behind the first
index of the pair, so that it is rebuilt afterwards. -/
structure Snapshot.DropsBloated (s : Snapshot) (t : Thresholds) (a b x : Index) : Prop where
  /-- The pair is compared, and its second index is the redundant one. -/
  spares : ∃ redundancy, s.Spares a b b redundancy
  /-- The check for redundant indexes runs to its end. -/
  redundant_run : ∃ found, duplicatedIndexes.run s t = .ok found
  /-- The check for bloated indexes runs to its end. -/
  bloated_run : ∃ found, bloatedIndexes.run s t = .ok found
  /-- The bloated index belongs to the snapshot. -/
  mem : x ∈ s.indexes
  /-- It is valid. -/
  valid : x.isValid = true
  /-- It is bloated. -/
  bloated : x.IsBloated t
  /-- It stands in the place where the redundant index is looked for: in the schema of the first
  index and under the name of the redundant one. -/
  place : ∃ schema name, x.At schema name ∧ a.tableSchema = .text schema ∧ b.name = .text name
  /-- Its identifier is greater than that of the first index of the pair. -/
  later : textLe a.qualifiedName x.qualifiedName = true ∧ a.qualifiedName ≠ x.qualifiedName

/-- Findings that ask for a drop are warnings. -/
theorem severity_of_asked_drop (hreport : evaluate s { thresholds := t } = .ok report)
    (hf : f ∈ report.findings) {schema name : Text}
    (h : Repair.ofFinding? options f = .ok (some (.dropIndex schema name))) :
    f.severity = .warning := by
  rcases dropped_of_asked hreport hf h with ⟨_, _, _, _, -, hreports, -⟩ | ⟨_, -, hreports, -⟩
  · exact hreports.severity
  · exact hreports.severity

/-- A bloated index is valid if nothing asks for it to be rebuilt earlier, since an invalid one is
more urgent. -/
theorem isValid_of_first_rebuild (hreport : evaluate s { thresholds := t } = .ok report) {x : Index}
    (hx : x ∈ s.indexes) {schema name : Text} (hat : x.At schema name)
    (hbloated : g.ReportsIndex bloatedIndexesLabel .warning x)
    (hfirst : ∀ e ∈ report.findings, e.Precedes g →
      Repair.ofFinding? options e ≠ .ok (some (.reindex schema name))) : x.isValid = true := by
  by_contra hinvalid
  obtain ⟨e, he, hreports⟩ := exists_mem_report_of_invalid hreport hx (by simpa using hinvalid)
  have hurgent : e.severity.rank < g.severity.rank := by
    rw [hreports.severity, hbloated.severity]
    decide
  have hbefore : e.Precedes g := by
    refine ⟨Finding.le_of_rank_lt hurgent, fun hkey => ?_⟩
    have hnames := (Prod.mk.inj hkey).1
    rw [hreports.checkName, hbloated.checkName] at hnames
    exact absurd hnames (by decide)
  have hnames := hreports.names_iff.2 hat
  exact hfirst e he hbefore
    ((Repair.ofFinding?_invalid hreports.checkName).2 ⟨schema, name, hnames, rfl⟩)

/-- A bloated index is reported before it is reported as unused. -/
theorem not_precedes_of_unused {x : Index} (hunused : f.ReportsIndex unusedIndexesLabel .warning x)
    (hbloated : g.ReportsIndex bloatedIndexesLabel .warning x) : ¬f.Precedes g := by
  intro hprecedes
  have hle := hprecedes.1
  have hseverity : f.severity = g.severity := hunused.severity.trans hbloated.severity.symm
  have hobjects : f.objects = g.objects := hunused.objects.trans hbloated.objects.symm
  have hname : (f.checkName : Text) ≠ g.checkName := by
    rw [hunused.checkName, hbloated.checkName]
    decide
  rw [Finding.le_eq_textLe hseverity hobjects hname, hunused.checkName, hbloated.checkName] at hle
  exact absurd hle (by decide)

/-- A pair is reported before a bloated index exactly if its first index belongs before it. -/
theorem le_iff_of_reportsPair {a b x : Index} {redundancy : Redundancy}
    (hpair : f.ReportsPair a b redundancy)
    (hbloated : g.ReportsIndex bloatedIndexesLabel .warning x) : f.le g = true ↔
      textLe a.qualifiedName x.qualifiedName = true ∧ a.qualifiedName ≠ x.qualifiedName := by
  have hseverity : f.severity = g.severity := hpair.severity.trans hbloated.severity.symm
  have hobjects : f.objects ≠ g.objects := by
    rw [hpair.objects, hbloated.objects]
    simp
  rw [Finding.le_eq_textsLe hseverity hobjects, hpair.objects, hbloated.objects,
    textsLe_pair_single]

/-- A drop in front of the first statement that rebuilds the same index is that of a bloated
index. -/
theorem exists_dropsBloated (hreport : evaluate s { thresholds := t } = .ok report)
    (hf : f ∈ report.findings) (hg : g ∈ report.findings) (hprecedes : f.Precedes g)
    {schema name : Text}
    (hdrop : Repair.ofFinding? options f = .ok (some (.dropIndex schema name)))
    (hrebuild : Repair.ofFinding? options g = .ok (some (.reindex schema name)))
    (hfirst : ∀ e ∈ report.findings, e.Precedes g →
      Repair.ofFinding? options e ≠ .ok (some (.reindex schema name))) :
    ∃ a b x, s.DropsBloated t a b x := by
  obtain ⟨x, hx, hat, hcase⟩ := rebuilt_of_asked hreport hg hrebuild
  rcases hcase with ⟨hinvalid, -⟩ | ⟨hbloated, hx_bloated, hbloated_run⟩
  · -- An invalid index is more urgent than any drop.
    have hrank := Finding.rank_le_of_le hprecedes.1
    rw [severity_of_asked_drop hreport hf hdrop, hinvalid.severity] at hrank
    exact absurd hrank (by decide)
  have hvalid := isValid_of_first_rebuild hreport hx hat hbloated hfirst
  rcases dropped_of_asked hreport hf hdrop with
    ⟨a, b, redundant, redundancy, hspares, hpair, hschema, hname, hrun⟩ |
      ⟨y, hy, hunused, hyat, -⟩
  · have hlater := (le_iff_of_reportsPair hpair hbloated).1 hprecedes.1
    rcases hspares.eq_or_eq with rfl | rfl
    · -- The first index of the pair would be the bloated one itself.
      have haat : redundant.At schema name := ⟨hschema.1, hname.1, hschema.2, hname.2⟩
      have hsame : redundant = x := haat.eq hat hspares.left_mem hx
      exact absurd (congrArg Index.qualifiedName hsame) hlater.2
    · exact ⟨a, redundant, x, ⟨redundancy, hspares⟩, hrun, hbloated_run, hx, hvalid, hx_bloated,
        ⟨schema, name, hat, hschema.1, hname.1⟩, hlater⟩
  · have hsame : y = x := hyat.eq hat hy hx
    subst hsame
    exact absurd hprecedes (not_precedes_of_unused hunused hbloated)

/-- The finding about a pair whose redundant index has a name asks for a drop of it in the schema
of the first one. -/
theorem ofFinding?_of_reportsPair {a b redundant : Index} {redundancy : Redundancy}
    (hreports : f.ReportsPair a b redundancy) (hredundant : redundancy.redundant? = some redundant)
    {schema name : Text} (hschema : a.tableSchema = .text schema ∧ schema ≠ "")
    (hname : redundant.name = .text name ∧ name ≠ "") :
    Repair.ofFinding? options f = .ok (some (.dropIndex schema name)) := by
  refine (Repair.ofFinding?_redundant hreports.checkName).2 ⟨schema, name, ?_, rfl⟩
  refine ⟨hreports.schema.trans hschema.1, ?_, hschema.2, hname.2⟩
  rw [hreports.redundant, hredundant]
  exact hname.1

/-- A bloated index in the place of a redundant one is rebuilt after the drop, and nothing asks
for it earlier. -/
theorem exists_asked_of_dropsBloated (options : GeneratingOptions)
    (hreport : evaluate s { thresholds := t } = .ok report)
    {a b x : Index} (h : s.DropsBloated t a b x) :
    ∃ f ∈ report.findings, ∃ g ∈ report.findings, f.Precedes g ∧ ∃ schema name,
      Repair.ofFinding? options f = .ok (some (.dropIndex schema name)) ∧
      Repair.ofFinding? options g = .ok (some (.reindex schema name)) ∧
      ∀ e ∈ report.findings, e.Precedes g →
        Repair.ofFinding? options e ≠ .ok (some (.reindex schema name)) := by
  obtain ⟨redundancy, hspares⟩ := h.spares
  obtain ⟨found, hrun⟩ := h.redundant_run
  obtain ⟨found', hrun'⟩ := h.bloated_run
  obtain ⟨schema, name, hat, hschema, hname⟩ := h.place
  obtain ⟨f, hf, hpair⟩ := exists_mem_report_of_spares hreport hrun hspares
  obtain ⟨g, hg, hindex⟩ := exists_mem_report_of_bloated hreport hrun' h.mem h.bloated
  have hprecedes : f.Precedes g := by
    refine ⟨(le_iff_of_reportsPair hpair hindex).2 h.later, fun hkey => ?_⟩
    have hobjects := hpair.objects.symm.trans ((Prod.mk.inj hkey).2.trans hindex.objects)
    simp at hobjects
  refine ⟨f, hf, g, hg, hprecedes, schema, name, ?_, ?_, ?_⟩
  · exact ofFinding?_of_reportsPair hpair hspares.redundant_eq ⟨hschema, hat.schema_ne⟩
      ⟨hname, hat.name_ne⟩
  · exact (Repair.ofFinding?_bloated hindex.checkName).2 ⟨schema, name, hindex.names_iff.2 hat, rfl⟩
  · intro e he hbefore hasked
    obtain ⟨y, hy, hyat, ⟨hreports, hinvalid⟩ | ⟨hreports, -⟩⟩ := rebuilt_of_asked hreport he hasked
    · rw [hyat.eq hat hy h.mem, h.valid] at hinvalid
      cases hinvalid
    · have hkey : e.key = g.key := by
        rw [Finding.key, Finding.key, hreports.checkName, hindex.checkName, hreports.objects,
          hindex.objects, hyat.eq hat hy h.mem]
      exact hbefore.2 hkey

/-- A list of statements rebuilds no index that it dropped before, unless an index is dropped in
the place of a valid bloated one that belongs behind the first index of its pair. -/
theorem rebuilds_follow_no_drop_iff {statements : List Statement}
    (hreport : evaluate s { thresholds := t } = .ok report)
    (hstatements : Statement.generate options report.findings = .ok statements) :
    (statements.Pairwise fun earlier later => ∀ schema name,
      earlier.Drops options schema name → ¬later.Rebuilds options schema name) ↔
        ¬∃ a b x, s.DropsBloated t a b x := by
  have hmerge : ∀ f, f ∈ Finding.merge report.findings ↔ f ∈ report.findings := fun f =>
    Finding.mem_merge_iff (report_keys_nodup hreport)
  have hasks : ∀ {repair : Repair} {f : Finding}, Repair.ofFinding? options f = .ok (some repair) →
      Statement.asked? options f = some (Statement.ofRepair options f repair) := fun hrepair =>
    Statement.asked?_eq_some.2 ⟨_, hrepair, rfl⟩
  rw [Statement.generate_pairwise_iff hstatements fun d d' r hsql hdr schema name hdrops =>
    hdr schema name (hsql.trans hdrops)]
  simp only [hmerge]
  constructor
  · rintro hall ⟨a, b, x, hbad⟩
    obtain ⟨f, hf, g, hg, hprecedes, schema, name, hdrop, hrebuild, hfirst⟩ :=
      exists_asked_of_dropsBloated options hreport hbad
    refine hall f hf g hg hprecedes _ _ (hasks hdrop) (hasks hrebuild) ?_ schema name rfl rfl
    intro e he hbefore st hst hsql
    exact hfirst e he hbefore (Statement.ofFinding?_of_rebuilds hst hsql)
  · intro hnone f hf g hg hprecedes d r hd hr hfirst schema name hdrops hrebuilds
    refine hnone (exists_dropsBloated hreport hf hg hprecedes
      (Statement.ofFinding?_of_drops hd hdrops) (Statement.ofFinding?_of_rebuilds hr hrebuilds) ?_)
    intro e he hbefore hasked
    refine hfirst e he hbefore _ (hasks hasked) ?_
    exact Eq.symm hrebuilds

/-- Two identical indexes, the second one of which is bloated. -/
def bloatedTwin : Snapshot :=
  { bareSnapshot with
    indexes :=
      [plainIndex "public" "orders" "by_day" ["day"],
       { plainIndex "public" "orders" "by_day_twin" ["day"] with
         sizeBytes := 8192, bloatRatio := some (Binary64.ofRatio false 9 10) }]
    indexes_nodup := by decide }

/-- The second of the two indexes is dropped and rebuilt afterwards. -/
theorem bloatedTwin_statements : ∃ report statements,
    evaluate bloatedTwin { thresholds := {} } = .ok report ∧
      Statement.generate {} report.findings = .ok statements ∧ statements.map Statement.sql =
        [(Repair.dropIndex "public" "by_day_twin").sql {},
         (Repair.reindex "public" "by_day_twin").sql {}] := by
  have hruns : (evaluate bloatedTwin { thresholds := {} } >>= fun report =>
      Statement.generate {} report.findings).toOption.any (fun statements =>
        statements.map Statement.sql = [(Repair.dropIndex "public" "by_day_twin").sql {},
          (Repair.reindex "public" "by_day_twin").sql {}]) = true := by
    decide +kernel
  obtain ⟨report, statements, hreport, hstatements, htexts⟩ :=
    Statement.exists_report_of_toOption hruns
  exact ⟨report, statements, hreport, hstatements, of_decide_eq_true htexts⟩

/-- A list whose two statements drop an index and rebuild it does so in the wrong order. -/
theorem not_pairwise_of_texts {statements : List Statement} {schema name : Text}
    (h : statements.map Statement.sql = [(Repair.dropIndex schema name).sql options,
      (Repair.reindex schema name).sql options]) :
    ¬statements.Pairwise fun earlier later => ∀ schema name,
      earlier.Drops options schema name → ¬later.Rebuilds options schema name := by
  obtain ⟨d, rest, rfl, hd, hrest⟩ := List.map_eq_cons_iff.1 h
  obtain ⟨r, tail, rfl, hr, -⟩ := List.map_eq_cons_iff.1 hrest
  intro hpairwise
  exact (List.pairwise_cons.1 hpairwise).1 r (List.mem_cons_self ..) schema name hd hr

/-- A list of statements may rebuild an index that it dropped before. -/
theorem bloatedTwin_rebuilt_after_drop : ∃ report statements,
    evaluate bloatedTwin { thresholds := {} } = .ok report ∧
      Statement.generate {} report.findings = .ok statements ∧
      ¬statements.Pairwise fun earlier later => ∀ schema name,
        earlier.Drops {} schema name → ¬later.Rebuilds {} schema name := by
  obtain ⟨report, statements, hreport, hstatements, htexts⟩ := bloatedTwin_statements
  exact ⟨report, statements, hreport, hstatements, not_pairwise_of_texts htexts⟩

/-- The second of the two indexes is dropped in the place of a bloated index. -/
theorem rebuilds_follow_no_drop_iff_bloatedTwin : ∃ report statements,
    evaluate bloatedTwin { thresholds := {} } = .ok report ∧
      Statement.generate {} report.findings = .ok statements ∧
      ((statements.Pairwise fun earlier later => ∀ schema name,
        earlier.Drops {} schema name → ¬later.Rebuilds {} schema name) ↔
          ¬∃ a b x, bloatedTwin.DropsBloated {} a b x) ∧
      ∃ a b x, bloatedTwin.DropsBloated {} a b x := by
  obtain ⟨report, statements, hreport, hstatements, htexts⟩ := bloatedTwin_statements
  have hiff := rebuilds_follow_no_drop_iff hreport hstatements
  have hbad : ∃ a b x, bloatedTwin.DropsBloated {} a b x := by
    by_contra hnone
    exact not_pairwise_of_texts htexts (hiff.2 hnone)
  exact ⟨report, statements, hreport, hstatements, hiff, hbad⟩

end CatalogHealth
