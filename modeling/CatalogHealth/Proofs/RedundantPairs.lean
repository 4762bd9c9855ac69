import Mathlib.Data.Sym.Sym2
import CatalogHealth.Proofs.FindingKeys
import CatalogHealth.Proofs.Judging

/-!
# Which pairs of indexes are reported as redundant

The check for redundant indexes sorts, groups and compares in a fixed order, but what it reports
is a relation between two indexes that does not depend on which of them comes first. The relation
is spelled out here without the order of comparison: what takes part, what two indexes have to
share, and which of the two is redundant. The warnings of the check correspond one to one to the
unordered pairs that are so related, and its other findings to the indexes without keys. When the
check has an answer, and the sizes in the texts of findings, are outside the scope of this module.
-/

namespace CatalogHealth

variable {s : Snapshot} {t : Thresholds} {findings : List Finding} {f : Finding}
  {a b index shorter longer redundant kept : Index} {redundancy : Redundancy}

/-! ## The relation between two indexes -/

namespace Index

/-- An index takes part in the comparison. -/
structure TakesPart (index : Index) : Prop where
  /-- There is something to compare. -/
  keys : index.keys ≠ []
  /-- The planner may use the index. -/
  valid : index.isValid = true
  /-- Hash indexes are left alone. -/
  notHash : index.method ≠ .text "hash"

/-- Two indexes have the same keys in the same order. -/
def Matches (a b : Index) : Prop := KeySignature.allSame a.signature b.signature = true

/-- One index does only the beginning of the work of another one, and neither uniqueness nor a
constraint would go with it. -/
structure Begins (shorter longer : Index) : Prop where
  /-- Only the keys of btree indexes can be used from the first one on. -/
  btree : shorter.method = .text "btree"
  /-- The longer index has more keys. -/
  length_lt : shorter.signature.length < longer.signature.length
  /-- The longer index begins with the keys of the shorter one. -/
  leads : KeySignature.Leads shorter.signature longer.signature
  /-- The shorter index is not unique. -/
  shorter_plain : shorter.isUnique = false
  /-- The longer index is not unique. -/
  longer_plain : longer.isUnique = false
  /-- No constraint needs the shorter index. -/
  free : shorter.isConstraintBacking = false

/-- Which of two identical indexes is kept: the one that backs a constraint if the other one does
not, else the unique one, else the one scanned more often, else the one named first. -/
def KeptBefore (a b : Index) : Prop :=
  a.isConstraintBacking = true ∧ b.isConstraintBacking = false ∨
    a.isConstraintBacking = b.isConstraintBacking ∧
      (a.isUnique = true ∧ b.isUnique = false ∨
        a.isUnique = b.isUnique ∧
          (b.scanCount.getD 0 < a.scanCount.getD 0 ∨
            a.scanCount.getD 0 = b.scanCount.getD 0 ∧
              textLe a.qualifiedName b.qualifiedName = true))

/-- Two indexes overlap: both take part in the comparison, they share table, method and condition,
and they have the same keys or those of one begin with those of the other. -/
structure Overlaps (a b : Index) : Prop where
  /-- The first index takes part. -/
  left : a.TakesPart
  /-- The second index takes part. -/
  right : b.TakesPart
  /-- Both belong to the same table. -/
  table : a.tableQualifiedName = b.tableQualifiedName
  /-- Both have the same access method. -/
  method : a.method.equals b.method = true
  /-- Both have the same condition up to blank characters. -/
  condition : ∃ condition, a.condition = .ok condition ∧ b.condition = .ok condition
  /-- One does all that the other one does. -/
  keys : a.Matches b ∨ a.Begins b ∨ b.Begins a

theorem isComparable_iff : isComparable index = true ↔ index.TakesPart := by
  simp only [isComparable, Bool.and_eq_true, Bool.not_eq_true', List.isEmpty_eq_false_iff,
    bne_iff_ne]
  exact ⟨fun h => ⟨h.1.1, h.1.2, h.2⟩, fun h => ⟨⟨h.keys, h.valid⟩, h.notHash⟩⟩

theorem Matches.symm (h : a.Matches b) : b.Matches a := KeySignature.allSame_symm h

/-- Indexes with the same keys have as many of them. -/
theorem Matches.length_eq (h : a.Matches b) : a.signature.length = b.signature.length :=
  KeySignature.length_eq_of_allSame h

theorem Begins.not_matches (h : shorter.Begins longer) : ¬shorter.Matches longer :=
  fun hmatches => h.length_lt.ne hmatches.length_eq

/-- It does not matter which of two overlapping indexes comes first. -/
theorem Overlaps.symm (h : a.Overlaps b) : b.Overlaps a := by
  obtain ⟨condition, ha, hb⟩ := h.condition
  have hkeys : b.Matches a ∨ b.Begins a ∨ a.Begins b := by
    rcases h.keys with hmatches | hbegins | hbegins
    · exact .inl hmatches.symm
    · exact .inr (.inr hbegins)
    · exact .inr (.inl hbegins)
  exact ⟨h.right, h.left, h.table.symm, Value.equals_symm h.method, ⟨condition, hb, ha⟩, hkeys⟩

theorem isBeginning_iff : isBeginning shorter longer = true ↔ shorter.Begins longer := by
  have hlength : ∀ index : Index, index.signature.length = index.keys.length := by
    intro index
    simp [signature]
  simp only [isBeginning, Bool.and_eq_true, decide_eq_true_eq, bne_iff_ne, Bool.not_eq_true']
  constructor
  · intro h
    obtain ⟨⟨⟨⟨⟨hbtree, hne⟩, hsame⟩, hshorter⟩, hlonger⟩, hfree⟩ := h
    have hleads : KeySignature.Leads shorter.signature longer.signature := by
      rw [KeySignature.Leads, hlength]
      exact hsame
    have hle := hleads.length_le
    have hlt : shorter.signature.length < longer.signature.length := by
      rw [hlength, hlength] at hle ⊢
      omega
    exact ⟨hbtree, hlt, hleads, hshorter, hlonger, hfree⟩
  · intro h
    have hlt := h.length_lt
    have hsame := h.leads
    rw [KeySignature.Leads, hlength] at hsame
    rw [hlength, hlength] at hlt
    exact ⟨⟨⟨⟨⟨h.btree, hlt.ne⟩, hsame⟩, h.shorter_plain⟩, h.longer_plain⟩, h.free⟩

/-- The index that is kept is the one of the lower rank. -/
theorem keptBefore_iff : a.KeptBefore b ↔ a.keepRank.le b.keepRank = true := by
  have hscans : b.scanCount.getD 0 < a.scanCount.getD 0 ↔
      a.keepRank.disuse ≠ b.keepRank.disuse ∧
        decide (a.keepRank.disuse ≤ b.keepRank.disuse) = true := by
    rw [decide_eq_true_eq]
    change _ ↔ -a.scanCount.getD 0 ≠ -b.scanCount.getD 0 ∧
      -a.scanCount.getD 0 ≤ -b.scanCount.getD 0
    omega
  have hequal : a.scanCount.getD 0 = b.scanCount.getD 0 ↔
      a.keepRank.disuse = b.keepRank.disuse := Int.neg_inj.symm
  rw [KeepRank.le, byPart_iff, byPart_iff, byPart_iff, KeepRank.flag_before_iff,
    KeepRank.flag_before_iff, ← hscans, ← hequal]
  simp only [KeptBefore, keepRank, Bool.not_eq_false', Bool.not_eq_true', Bool.not_inj_iff]

end Index

/-! ## Which of the two is redundant -/

/-- What there is to say about two indexes with the same table, method and condition: either they
have the same keys, and then both are needed if both back constraints and the lower rank is kept
otherwise, or one of them begins the other one and is redundant. -/
def Redundancy.Holds (a b : Index) : Redundancy → Prop
  | .bothNeeded =>
    a.Matches b ∧ a.isConstraintBacking = true ∧ b.isConstraintBacking = true
  | .identical redundant kept =>
    s(redundant, kept) = s(a, b) ∧ a.Matches b ∧
      ¬(a.isConstraintBacking = true ∧ b.isConstraintBacking = true) ∧ kept.KeptBefore redundant
  | .beginning redundant kept => s(redundant, kept) = s(a, b) ∧ redundant.Begins kept

/-- What there is to say about two indexes does not depend on which of them comes first. -/
theorem Redundancy.holds_comm : redundancy.Holds a b ↔ redundancy.Holds b a := by
  have hswap : s(a, b) = s(b, a) := Sym2.eq_swap
  have hmatches : a.Matches b ↔ b.Matches a := ⟨Index.Matches.symm, Index.Matches.symm⟩
  have hboth : a.isConstraintBacking = true ∧ b.isConstraintBacking = true ↔
      b.isConstraintBacking = true ∧ a.isConstraintBacking = true := and_comm
  cases redundancy with
  | bothNeeded => exact and_congr hmatches hboth
  | identical redundant kept => rw [Holds, Holds, hswap, hmatches, hboth]
  | beginning redundant kept => rw [Holds, Holds, hswap]

/-- Both of two identical indexes are needed if both back constraints. -/
theorem amongIdentical_eq_bothNeeded_iff : amongIdentical a b = .bothNeeded ↔
    a.isConstraintBacking = true ∧ b.isConstraintBacking = true := by
  unfold amongIdentical
  rw [← Bool.and_eq_true]
  by_cases hboth : (a.isConstraintBacking && b.isConstraintBacking) = true
  · exact iff_of_true (if_pos hboth) hboth
  · rw [if_neg hboth]
    refine iff_of_false (fun h => ?_) hboth
    split at h <;> cases h

/-- An index that begins another one is what their signatures tell, in either order. -/
theorem signatureRedundancy?_eq_beginning (hpair : s(redundant, kept) = s(a, b))
    (h : redundant.Begins kept) : signatureRedundancy? a b = some (.beginning redundant kept) := by
  have hbeginning := Index.isBeginning_iff.2 h
  have hlt := h.length_lt
  simp only [Index.signature, List.length_map] at hlt
  rcases Sym2.eq_iff.1 hpair with ⟨rfl, rfl⟩ | ⟨rfl, rfl⟩
  · have hnot := h.not_matches
    rw [Index.Matches] at hnot
    simp [signatureRedundancy?, hnot, hlt, hbeginning]
  · have hnot : ¬Index.Matches kept redundant := fun hmatches => h.not_matches hmatches.symm
    rw [Index.Matches] at hnot
    simp [signatureRedundancy?, hnot, hlt.not_gt, hbeginning]

/-- The signatures of two indexes tell what there is to say about them. -/
theorem Redundancy.holds_iff (hne : a.qualifiedName ≠ b.qualifiedName) :
    redundancy.Holds a b ↔ signatureRedundancy? a b = some redundancy := by
  by_cases hmatches : a.Matches b
  · have hsame : signatureRedundancy? a b = some (amongIdentical a b) := if_pos hmatches
    rw [hsame, Option.some.injEq]
    cases redundancy with
    | bothNeeded =>
      rw [amongIdentical_eq_bothNeeded_iff]
      exact and_iff_right hmatches
    | identical redundant kept =>
      rw [amongIdentical_eq_identical_iff hne, Holds, Sym2.eq_iff, and_iff_right hmatches,
        Index.keptBefore_iff, ← Bool.and_eq_true, Bool.not_eq_true]
    | beginning redundant kept =>
      refine iff_of_false (fun h => ?_) amongIdentical_ne_beginning
      rcases Sym2.eq_iff.1 h.1 with ⟨rfl, rfl⟩ | ⟨rfl, rfl⟩
      · exact h.2.not_matches hmatches
      · exact h.2.not_matches hmatches.symm
  · constructor
    · intro h
      cases redundancy with
      | bothNeeded => exact (hmatches h.1).elim
      | identical redundant kept => exact (hmatches h.2.1).elim
      | beginning redundant kept => exact signatureRedundancy?_eq_beginning h.1 h.2
    · intro h
      rcases signatureRedundancy?_eq_some h with
        ⟨hsame, -⟩ | ⟨shorter, longer, hpair, -, hbeginning, rfl⟩
      · exact (hmatches hsame).elim
      · exact ⟨Sym2.eq_iff.2 hpair, Index.isBeginning_iff.1 hbeginning⟩

/-- There is something to say about two indexes if they have the same keys or one begins the
other. -/
theorem Redundancy.exists_holds_iff (hne : a.qualifiedName ≠ b.qualifiedName) :
    (∃ redundancy : Redundancy, redundancy.Holds a b) ↔
      a.Matches b ∨ a.Begins b ∨ b.Begins a := by
  constructor
  · intro h
    obtain ⟨redundancy, hholds⟩ := h
    cases redundancy with
    | bothNeeded => exact .inl hholds.1
    | identical redundant kept => exact .inl hholds.2.1
    | beginning redundant kept =>
      rcases Sym2.eq_iff.1 hholds.1 with ⟨rfl, rfl⟩ | ⟨rfl, rfl⟩
      · exact .inr (.inl hholds.2)
      · exact .inr (.inr hholds.2)
  · intro h
    rcases h with hmatches | hbegins | hbegins
    · exact ⟨amongIdentical a b, (holds_iff hne).2 (if_pos hmatches)⟩
    · exact ⟨.beginning a b, rfl, hbegins⟩
    · exact ⟨.beginning b a, Sym2.eq_swap, hbegins⟩

/-! ## The warnings of the check -/

/-- The comparison of two indexes of a snapshot that was checked tells whether they overlap, and
what there is to say about them. -/
theorem Snapshot.Compares.redundancy?_iff (hab : s.Compares a b)
    (h : duplicatedIndexes.run s t = .ok findings) :
    redundancy? a b = .ok (some redundancy) ↔ a.Overlaps b ∧ redundancy.Holds a b := by
  rw [Redundancy.holds_iff hab.ne]
  constructor
  · intro hredundancy
    obtain ⟨hmethod, hcondition, hsignature⟩ := redundancy?_eq_some hredundancy
    have hkeys := (Redundancy.exists_holds_iff hab.ne).1
      ⟨redundancy, (Redundancy.holds_iff hab.ne).2 hsignature⟩
    exact ⟨⟨Index.isComparable_iff.1 hab.left_comparable,
      Index.isComparable_iff.1 hab.right_comparable, hab.table, hmethod, hcondition, hkeys⟩,
      hsignature⟩
  · intro hoverlaps
    obtain ⟨condition, ha, hb⟩ := hoverlaps.1.condition
    have hjudgeable := exists_duplicatedIndexes_iff.1 ⟨findings, h⟩ a b hab
    have hwritable := hjudgeable.signatures hoverlaps.1.method (ha.trans hb.symm)
    exact (redundancy?_eq_ok_iff hoverlaps.1.method ha hb).2 ⟨hwritable, hoverlaps.2⟩

/-- The order of the comparison is that of the identifiers, so a pair is compared only once. -/
theorem Snapshot.Compares.eq_of_mk_eq {a' b' : Index} (hab : s.Compares a b)
    (hab' : s.Compares a' b') (h : s(a, b) = s(a', b')) : a = a' ∧ b = b' := by
  rcases Sym2.eq_iff.1 h with hsame | ⟨rfl, rfl⟩
  · exact hsame
  · exact (hab.ne (textLe_antisymm hab.le hab'.le)).elim

/-- A finding of the check reports two indexes of a snapshot. -/
def Snapshot.Reports (s : Snapshot) (pair : Sym2 Index) (f : Finding) : Prop :=
  ∃ a b redundancy, pair = s(a, b) ∧ s.Compares a b ∧
    redundancy? a b = .ok (some redundancy) ∧ f.ReportsPair a b redundancy

/-- What reports a pair names it. -/
theorem Snapshot.Reports.objects_eq {pair : Sym2 Index} {g : Finding} (hf : s.Reports pair f)
    (hg : s.Reports pair g) : f.objects = g.objects := by
  obtain ⟨a, b, _, hpair, hab, -, hreports⟩ := hf
  obtain ⟨a', b', _, hpair', hab', -, hreports'⟩ := hg
  obtain ⟨rfl, rfl⟩ := hab.eq_of_mk_eq hab' (hpair.symm.trans hpair')
  rw [hreports.objects, hreports'.objects]

/-- What names a pair reports no other one. -/
theorem Snapshot.Reports.pair_eq {pair pair' : Sym2 Index} (h : s.Reports pair f)
    (h' : s.Reports pair' f) : pair = pair' := by
  obtain ⟨a, b, _, rfl, hab, -, hreports⟩ := h
  obtain ⟨a', b', _, rfl, hab', -, hreports'⟩ := h'
  have hobjects := hreports.objects.symm.trans hreports'.objects
  rw [List.cons.injEq, List.cons.injEq] at hobjects
  rw [s.index_eq hab.left_mem hab'.left_mem hobjects.1,
    s.index_eq hab.right_mem hab'.right_mem hobjects.2.1]

/-- The warnings of the check are its findings about pairs. -/
theorem Snapshot.exists_reports (h : duplicatedIndexes.run s t = .ok findings)
    (hf : f ∈ findings.filter fun f => f.severity = .warning) : ∃ pair, s.Reports pair f := by
  have hmem := List.mem_filter.1 hf
  rcases (mem_duplicatedIndexes h).1 hmem.1 with ⟨index, -, -, rfl⟩ | hpair
  · cases of_decide_eq_true hmem.2
  · obtain ⟨a, b, redundancy, hab, hredundancy, hfinding⟩ := hpair
    exact ⟨s(a, b), a, b, redundancy, rfl, hab, hredundancy,
      reportsPair_of_redundancyFinding hab.le hfinding⟩

/-- Two indexes of a snapshot that was checked are reported exactly if they overlap. -/
theorem Snapshot.exists_reports_iff (h : duplicatedIndexes.run s t = .ok findings) :
    (∃ f ∈ findings.filter (fun f => f.severity = .warning), s.Reports s(a, b) f) ↔
      a ∈ s.indexes ∧ b ∈ s.indexes ∧ a ≠ b ∧ a.Overlaps b := by
  constructor
  · intro hreported
    obtain ⟨f, -, a', b', redundancy, hpair, hab, hredundancy, -⟩ := hreported
    have hoverlaps := ((hab.redundancy?_iff h).1 hredundancy).1
    have hne : a' ≠ b' := fun heq => hab.ne (congrArg Index.qualifiedName heq)
    rcases Sym2.eq_iff.1 hpair with ⟨rfl, rfl⟩ | ⟨rfl, rfl⟩
    · exact ⟨hab.left_mem, hab.right_mem, hne, hoverlaps⟩
    · exact ⟨hab.right_mem, hab.left_mem, hne.symm, hoverlaps.symm⟩
  · intro hpair
    obtain ⟨ha, hb, hne, hoverlaps⟩ := hpair
    have hnames : a.qualifiedName ≠ b.qualifiedName := fun heq => hne (s.index_eq ha hb heq)
    have hreported : ∀ x y : Index, s.Compares x y → x.Overlaps y →
        ∃ f ∈ findings.filter (fun f => f.severity = .warning), s.Reports s(x, y) f := by
      intro x y hxy hoverlaps
      obtain ⟨redundancy, hholds⟩ := (Redundancy.exists_holds_iff hxy.ne).2 hoverlaps.keys
      have hredundancy := (hxy.redundancy?_iff h).2 ⟨hoverlaps, hholds⟩
      obtain ⟨f, hf, hreports⟩ := hxy.exists_finding h hredundancy
      exact ⟨f, List.mem_filter.2 ⟨hf, decide_eq_true hreports.severity⟩,
        x, y, redundancy, rfl, hxy, hredundancy, hreports⟩
    -- The index with the lesser identifier comes first in the comparison.
    rcases textLe_total a.qualifiedName b.qualifiedName with hle | hle
    · exact hreported a b ⟨ha, hb, Index.isComparable_iff.2 hoverlaps.left,
        Index.isComparable_iff.2 hoverlaps.right, hoverlaps.table, hle, hnames⟩ hoverlaps
    · rw [Sym2.eq_swap]
      exact hreported b a ⟨hb, ha, Index.isComparable_iff.2 hoverlaps.right,
        Index.isComparable_iff.2 hoverlaps.left, hoverlaps.table.symm, hle, hnames.symm⟩
        hoverlaps.symm

/-- What is not a warning is about an index without keys. -/
theorem filter_not_warning (h : duplicatedIndexes.run s t = .ok findings) :
    (findings.filter fun f => f.severity ≠ .warning).Perm
      ((s.indexes.filter fun index => index.keys.isEmpty).map keylessFinding) := by
  obtain ⟨reports, hreports, rfl⟩ := duplicatedIndexes_run.1 h
  have hkeyless : ((s.sortedIndexes.filter fun index => index.keys.isEmpty).map
      keylessFinding).filter (fun f => f.severity ≠ .warning) =
        (s.sortedIndexes.filter fun index => index.keys.isEmpty).map keylessFinding := by
    refine List.filter_eq_self.2 fun f hf => ?_
    obtain ⟨index, -, rfl⟩ := List.mem_map.1 hf
    rfl
  have hpairs : reports.flatten.filter (fun f => f.severity ≠ .warning) = [] := by
    refine List.filter_eq_nil_iff.2 fun f hf => ?_
    obtain ⟨a, b, redundancy, hab, -, hfinding⟩ := (mem_redundancyReports hreports).1 hf
    have hwarning := (reportsPair_of_redundancyFinding hab.le hfinding).severity
    simp [hwarning]
  rw [List.filter_append, hkeyless, hpairs, List.append_nil]
  exact ((sortBy_perm s.indexes).filter _).map keylessFinding

section Sources

variable {α β γ : Type}

/-- Where everything in a list without repetition belongs to one thing, these things can be
listed in its order. -/
theorem exists_sources {R : α → β → Prop} {key : β → γ} {ys : List β}
    (hnodup : (ys.map key).Nodup) (hsource : ∀ y ∈ ys, ∃ x, R x y)
    (hkey : ∀ x y y', R x y → R x y' → key y = key y')
    (hunique : ∀ x x' y, R x y → R x' y → x = x') :
    ∃ xs : List α, xs.Nodup ∧ List.Forall₂ R xs ys ∧ ∀ x, x ∈ xs ↔ ∃ y ∈ ys, R x y := by
  induction ys with
  | nil => exact ⟨[], List.nodup_nil, .nil, by simp⟩
  | cons y rest ih =>
    obtain ⟨hy, hrest⟩ := List.nodup_cons.1 hnodup
    obtain ⟨x, hx⟩ := hsource y (List.mem_cons_self ..)
    obtain ⟨xs, hxs, hall, hmem⟩ := ih hrest fun z hz => hsource z (List.mem_cons_of_mem _ hz)
    have hnew : x ∉ xs := by
      intro hlisted
      obtain ⟨z, hz, hxz⟩ := (hmem x).1 hlisted
      exact hy (hkey x z y hxz hx ▸ List.mem_map_of_mem hz)
    refine ⟨x :: xs, List.nodup_cons.2 ⟨hnew, hxs⟩, .cons hx hall, fun z => ?_⟩
    have hhead : z = x ↔ R z y := ⟨fun heq => heq ▸ hx, fun hz => hunique z x y hz hx⟩
    simp only [List.mem_cons, hmem, hhead, exists_eq_or_imp]

end Sources

/-- A finding reports an unordered pair of indexes: it says what there is to say about the two,
whichever of them comes first, and names both. -/
def Finding.ReportsOverlap (f : Finding) (pair : Sym2 Index) : Prop :=
  ∃ redundancy : Redundancy, (∀ a b, pair = s(a, b) → redundancy.Holds a b) ∧
    ∃ a b, pair = s(a, b) ∧ f.ReportsPair a b redundancy

/-- The warnings of the check correspond one to one to the unordered pairs of distinct indexes that
overlap, each of them says which of the two is redundant, and all other findings
say that an index without keys cannot be evaluated, one for each of these. -/
theorem overlapping_pairs_reported (h : duplicatedIndexes.run s t = .ok findings) :
    (∃ pairs : List (Sym2 Index), pairs.Nodup ∧
      (∀ a b, s(a, b) ∈ pairs ↔ a ∈ s.indexes ∧ b ∈ s.indexes ∧ a ≠ b ∧ a.Overlaps b) ∧
        List.Forall₂ (fun pair f => f.ReportsOverlap pair) pairs
          (findings.filter fun f => f.severity = .warning)) ∧
      (findings.filter fun f => f.severity ≠ .warning).Perm
        ((s.indexes.filter fun index => index.keys.isEmpty).map keylessFinding) := by
  refine ⟨?_, filter_not_warning h⟩
  have hnodup : ((findings.filter fun f => f.severity = .warning).map Finding.objects).Nodup :=
    (objects_nodup_duplicatedIndexes h).sublist (List.filter_sublist.map _)
  obtain ⟨pairs, hpairs, hall, hmem⟩ := exists_sources hnodup
    (fun f hf => s.exists_reports h hf) (fun _ _ _ => Snapshot.Reports.objects_eq)
    fun _ _ _ => Snapshot.Reports.pair_eq
  refine ⟨pairs, hpairs, fun a b => (hmem s(a, b)).trans (s.exists_reports_iff h), ?_⟩
  refine hall.imp fun pair f hreports => ?_
  obtain ⟨a, b, redundancy, hpair, hab, hredundancy, hsays⟩ := hreports
  have hholds := ((hab.redundancy?_iff h).1 hredundancy).2
  refine ⟨redundancy, fun x y hpair' => ?_, a, b, hpair, hsays⟩
  rcases Sym2.eq_iff.1 (hpair.symm.trans hpair') with ⟨rfl, rfl⟩ | ⟨rfl, rfl⟩
  · exact hholds
  · exact Redundancy.holds_comm.1 hholds

/-- A table with an index that begins another one, two identical indexes, two that each back a
constraint, and one index without keys. -/
def overlappingIndexes : Snapshot :=
  { bareSnapshot with
    indexes :=
      [plainIndex "public" "orders" "by_day" ["day"],
       plainIndex "public" "orders" "by_day_shop" ["day", "shop"],
       plainIndex "public" "orders" "by_till" ["till"],
       { plainIndex "public" "orders" "by_till_again" ["till"] with scanCount := some 3 },
       { plainIndex "public" "orders" "code_key" ["code"] with
         isUnique := true, constraintName := .text "code_key" },
       { plainIndex "public" "orders" "code_key_again" ["code"] with
         isUnique := true, constraintName := .text "code_key_again" },
       plainIndex "public" "orders" "of_nothing" []]
    indexes_nodup := by decide }

/-- Each of the three pairs is reported, mainly for the index that is redundant if one is. -/
theorem overlapping_pairs_reported_orders : ∃ findings,
    duplicatedIndexes.run overlappingIndexes {} = .ok findings ∧
      findings.map (·.objectName) = [("public.of_nothing" : Text), "public.by_day",
        "public.by_till", "public.code_key"] ∧
      (∃ pairs : List (Sym2 Index), pairs.Nodup ∧
        (∀ a b, s(a, b) ∈ pairs ↔ a ∈ overlappingIndexes.indexes ∧
          b ∈ overlappingIndexes.indexes ∧ a ≠ b ∧ a.Overlaps b) ∧
          List.Forall₂ (fun pair f => f.ReportsOverlap pair) pairs
            (findings.filter fun f => f.severity = .warning)) ∧
        (findings.filter fun f => f.severity ≠ .warning).Perm
          ((overlappingIndexes.indexes.filter fun index => index.keys.isEmpty).map
            keylessFinding) := by
  have hruns : (duplicatedIndexes.run overlappingIndexes {}).toOption.any (fun findings =>
      findings.map (·.objectName) = [("public.of_nothing" : Text), "public.by_day",
        "public.by_till", "public.code_key"]) = true := by
    decide +kernel
  obtain ⟨findings, hfindings, hnames⟩ := Traversal.exists_ok_of_toOption hruns
  have hreported := overlapping_pairs_reported hfindings
  exact ⟨findings, hfindings, of_decide_eq_true hnames, hreported⟩

end CatalogHealth
