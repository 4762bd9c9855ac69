import Mathlib.Data.List.Nodup
import CatalogHealth.Proofs.Sameness
import CatalogHealth.Proofs.Traversal

/-!
# What the check for redundant indexes reports

Pairs of indexes are judged one at a time, and all redundant ones are dropped together. What
keeps this sound is an order of preference: more keys come first, and among equally many the
lower rank. An index is redundant only beside one that does all of its work and is
preferred to it, so no chain of redundant indexes closes. The sizes in the texts of
findings are outside the scope of this module.
-/

namespace CatalogHealth

section Pairs

variable {α : Type}

/-- The pairs of a list whose members stand in an asymmetric order are those that the order
relates. -/
theorem mem_pairs_iff {R : α → α → Prop} (hR : ∀ x y, R x y → ¬R y x) {xs : List α}
    (h : xs.Pairwise R) {a b : α} : (a, b) ∈ pairs xs ↔ a ∈ xs ∧ b ∈ xs ∧ R a b := by
  induction xs with
  | nil => simp [pairs]
  | cons x rest ih =>
    obtain ⟨hx, hrest⟩ := List.pairwise_cons.1 h
    have hself : ∀ z, R z z → False := fun z hz => hR z z hz hz
    simp only [pairs, List.mem_append, List.mem_map, ih hrest, List.mem_cons, Prod.mk.injEq]
    constructor
    · rintro (⟨y, hy, rfl, rfl⟩ | ⟨ha, hb, hab⟩)
      · exact ⟨.inl rfl, .inr hy, hx y hy⟩
      · exact ⟨.inr ha, .inr hb, hab⟩
    · rintro ⟨rfl | ha, rfl | hb, hab⟩
      · exact (hself _ hab).elim
      · exact .inl ⟨b, hb, rfl, rfl⟩
      · exact (hR _ _ hab (hx a ha)).elim
      · exact .inr ⟨ha, hb, hab⟩

/-- Under a total and transitive order some member of a kind comes before all others of it. -/
theorem exists_preferred {le : α → α → Bool}
    (trans : ∀ a b c, le a b = true → le b c = true → le a c = true)
    (total : ∀ a b, le a b = true ∨ le b a = true) {p : α → Prop} {xs : List α}
    (h : ∃ x ∈ xs, p x) : ∃ m ∈ xs, p m ∧ ∀ x ∈ xs, p x → le m x = true := by
  classical
  obtain ⟨x, hx, hpx⟩ := h
  have hmem : ∀ z, z ∈ sortBy le (xs.filter fun z => decide (p z)) ↔ z ∈ xs ∧ p z := by
    intro z
    rw [mem_sortBy, List.mem_filter, decide_eq_true_eq]
  have hsorted := sortBy_pairwise trans total (xs.filter fun z => decide (p z))
  cases hfirst : sortBy le (xs.filter fun z => decide (p z)) with
  | nil => exact absurd ((hmem x).2 ⟨hx, hpx⟩) (by simp [hfirst])
  | cons m rest =>
    rw [hfirst] at hmem hsorted
    obtain ⟨hm, hpm⟩ := (hmem m).1 (List.mem_cons_self ..)
    refine ⟨m, hm, hpm, fun z hz hpz => ?_⟩
    rcases List.mem_cons.1 ((hmem z).2 ⟨hz, hpz⟩) with rfl | hrest
    · exact (total z z).elim id id
    · exact (List.pairwise_cons.1 hsorted).1 z hrest

end Pairs

namespace KeepRank

theorem flagLe_total (a b : Bool) : flagLe a b = true ∨ flagLe b a = true := by
  cases a <;> cases b <;> simp [flagLe]

theorem flagLe_trans (a b c : Bool) (hab : flagLe a b = true) (hbc : flagLe b c = true) :
    flagLe a c = true := by
  cases a <;> cases b <;> cases c <;> simp_all [flagLe]

theorem flagLe_antisymm (a b : Bool) (hab : flagLe a b = true) (hba : flagLe b a = true) :
    a = b := by
  cases a <;> cases b <;> simp_all [flagLe]

/-- Only what does not hold comes strictly before what holds. -/
theorem flag_before_iff {x y : Bool} : x ≠ y ∧ flagLe x y = true ↔ x = false ∧ y = true := by
  cases x <;> cases y <;> simp [flagLe]

/-- Any two ranks can be compared. -/
theorem le_total (a b : KeepRank) : a.le b = true ∨ b.le a = true :=
  byPart_total flagLe_total (byPart_total flagLe_total
    (byPart_total (fun x y => by simpa using Int.le_total x y) fun x y =>
      textLe_total x.identifier y.identifier)) a b

/-- The order of ranks is transitive. -/
theorem le_trans (a b c : KeepRank) (hab : a.le b = true) (hbc : b.le c = true) :
    a.le c = true :=
  byPart_trans flagLe_trans flagLe_antisymm
    (byPart_trans flagLe_trans flagLe_antisymm
      (byPart_trans (fun x y z => by simpa using Int.le_trans)
        (fun x y => by simpa using Int.le_antisymm)
        fun x y z => textLe_trans x.identifier y.identifier z.identifier)) a b c hab hbc

/-- Ranks before each other belong to the same identifier. -/
theorem identifier_eq_of_le {a b : KeepRank} (hab : a.le b = true) (hba : b.le a = true) :
    a.identifier = b.identifier := by
  obtain ⟨-, hab, hba⟩ := byPart_antisymm flagLe_antisymm hab hba
  obtain ⟨-, hab, hba⟩ := byPart_antisymm flagLe_antisymm hab hba
  obtain ⟨-, hab, hba⟩ :=
    byPart_antisymm (fun x y => by simpa using Int.le_antisymm) hab hba
  exact textLe_antisymm hab hba

/-- What a constraint needs comes before what none needs. -/
theorem isFree_of_le {a b : KeepRank} (h : a.le b = true) (hb : b.isFree = false) :
    a.isFree = false := by
  cases ha : a.isFree with
  | false => rfl
  | true => simp [le, byPart, flagLe, ha, hb] at h

end KeepRank

namespace Index

/-- The order of preference among indexes that do the same work: more keys first, and among
equally many keys the lower rank. -/
def preferLe : Index → Index → Bool :=
  byPart (fun index => index.keys.length) (fun m n => decide (n ≤ m)) fun a b =>
    a.keepRank.le b.keepRank

theorem preferLe_total (a b : Index) : preferLe a b = true ∨ preferLe b a = true :=
  byPart_total (fun m n => by simpa using Nat.le_total n m)
    (fun x y => KeepRank.le_total x.keepRank y.keepRank) a b

theorem preferLe_trans (a b c : Index) (hab : preferLe a b = true) (hbc : preferLe b c = true) :
    preferLe a c = true :=
  byPart_trans (fun l m n => by simpa using fun h k => Nat.le_trans k h)
    (fun m n => by simpa using fun h k => Nat.le_antisymm k h)
    (fun x y z => KeepRank.le_trans x.keepRank y.keepRank z.keepRank) a b c hab hbc

/-- One index does all the work of another one of its table: it has the same access method
and condition, and its signature begins with that of the other. -/
structure Serves (kept index : Index) : Prop where
  /-- Both belong to the same table. -/
  table : kept.tableQualifiedName = index.tableQualifiedName
  /-- Both have the same access method. -/
  method : kept.method.equals index.method = true
  /-- Both have the same condition up to blank characters. -/
  condition : ∃ condition, kept.condition = .ok condition ∧ index.condition = .ok condition
  /-- One signature begins with the other. -/
  leads : KeySignature.Leads index.signature kept.signature

/-- What does all the work of an index does all the work of those that it serves. -/
theorem Serves.trans {a b c : Index} (hab : a.Serves b) (hbc : b.Serves c) : a.Serves c := by
  obtain ⟨condition, ha, hb⟩ := hab.condition
  obtain ⟨condition', hb', hc⟩ := hbc.condition
  have heq : condition' = condition := Except.ok.inj (hb'.symm.trans hb)
  exact ⟨hab.table.trans hbc.table, Value.equals_trans hab.method hbc.method,
    ⟨condition, ha, heq ▸ hc⟩, hbc.leads.trans hab.leads⟩

/-- One index makes another one superfluous: it does all of its work, is preferred to it, and
no constraint needs the other one. -/
structure Supersedes (kept redundant : Index) : Prop extends Serves kept redundant where
  /-- The redundant index is not preferred. -/
  notPreferred : preferLe redundant kept = false
  /-- No constraint needs the redundant index. -/
  isFree : redundant.isConstraintBacking = false

end Index

/-- Two indexes have to agree in method and condition for one of them to be redundant. -/
theorem redundancy?_eq_some {a b : Index} {redundancy : Redundancy}
    (h : redundancy? a b = .ok (some redundancy)) :
    a.method.equals b.method = true ∧
      (∃ condition, a.condition = .ok condition ∧ b.condition = .ok condition) ∧
      signatureRedundancy? a b = some redundancy := by
  unfold redundancy? at h
  cases hmethod : a.method.equals b.method with
  | false => simp [hmethod, pure, Except.pure] at h
  | true =>
    simp only [hmethod, Bool.not_true, Bool.false_eq_true, if_false] at h
    obtain ⟨condition, ha, h⟩ := Traversal.bind_eq_ok.1 h
    obtain ⟨condition', hb, h⟩ := Traversal.bind_eq_ok.1 h
    by_cases hcondition : condition = condition'
    · simp only [hcondition, ne_eq, not_true_eq_false, if_false] at h
      obtain ⟨-, -, h⟩ := Traversal.bind_eq_ok.1 h
      obtain ⟨-, -, h⟩ := Traversal.bind_eq_ok.1 h
      exact ⟨rfl, ⟨condition, ha, hcondition ▸ hb⟩, Traversal.pure_eq_ok.1 h⟩
    · simp only [ne_eq, hcondition, not_false_eq_true, if_true] at h
      cases Traversal.pure_eq_ok.1 h

/-- Two indexes are redundant if their signatures are the same, or if that of the shorter one
is the beginning of that of the longer one. -/
theorem signatureRedundancy?_eq_some {a b : Index} {redundancy : Redundancy}
    (h : signatureRedundancy? a b = some redundancy) :
    (KeySignature.allSame a.signature b.signature = true ∧ redundancy = amongIdentical a b) ∨
      ∃ shorter longer, (shorter = a ∧ longer = b ∨ shorter = b ∧ longer = a) ∧
        shorter.keys.length < longer.keys.length ∧ isBeginning shorter longer = true ∧
        redundancy = .beginning shorter longer := by
  unfold signatureRedundancy? at h
  by_cases hsame : KeySignature.allSame a.signature b.signature = true
  · rw [if_pos hsame] at h
    exact .inl ⟨hsame, (Option.some.inj h).symm⟩
  · rw [if_neg hsame] at h
    right
    by_cases hlength : a.keys.length < b.keys.length
    · simp only [if_pos hlength, Option.ite_none_right_eq_some, Option.some.injEq] at h
      exact ⟨a, b, .inl ⟨rfl, rfl⟩, hlength, h.1, h.2.symm⟩
    · simp only [if_neg hlength, Option.ite_none_right_eq_some, Option.some.injEq] at h
      have hne : b.keys.length ≠ a.keys.length := by
        have hbeginning := h.1
        simp only [isBeginning, Bool.and_eq_true, bne_iff_ne] at hbeginning
        exact hbeginning.1.1.1.1.2
      exact ⟨b, a, .inr ⟨rfl, rfl⟩, by omega, h.1, h.2.symm⟩

/-- Of two identical indexes one is dropped unless both back constraints, and then it is the one
that does not have the lower rank. -/
theorem amongIdentical_eq_identical_iff {a b redundant kept : Index}
    (hne : a.qualifiedName ≠ b.qualifiedName) : amongIdentical a b = .identical redundant kept ↔
      (redundant = a ∧ kept = b ∨ redundant = b ∧ kept = a) ∧
        (a.isConstraintBacking && b.isConstraintBacking) = false ∧
          kept.keepRank.le redundant.keepRank = true := by
  -- Of two indexes with different identifiers exactly one has the lower rank.
  have hexclusive : a.keepRank.le b.keepRank = true → b.keepRank.le a.keepRank = true → False :=
    fun hab hba => hne (KeepRank.identifier_eq_of_le hab hba)
  have htotal := KeepRank.le_total a.keepRank b.keepRank
  unfold amongIdentical
  cases hboth : a.isConstraintBacking && b.isConstraintBacking with
  | true => simp
  | false =>
    rw [if_neg Bool.false_ne_true]
    cases hle : a.keepRank.le b.keepRank with
    | true =>
      rw [if_pos rfl, Redundancy.identical.injEq]
      constructor
      · rintro ⟨rfl, rfl⟩
        exact ⟨.inr ⟨rfl, rfl⟩, rfl, hle⟩
      · rintro ⟨⟨rfl, rfl⟩ | ⟨rfl, rfl⟩, -, hkept⟩
        · exact (hexclusive hle hkept).elim
        · exact ⟨rfl, rfl⟩
    | false =>
      have hback := htotal.resolve_left (by simp [hle])
      rw [if_neg Bool.false_ne_true, Redundancy.identical.injEq]
      constructor
      · rintro ⟨rfl, rfl⟩
        exact ⟨.inl ⟨rfl, rfl⟩, rfl, hback⟩
      · rintro ⟨⟨rfl, rfl⟩ | ⟨rfl, rfl⟩, -, hkept⟩
        · exact ⟨rfl, rfl⟩
        · exact (hexclusive hkept hback).elim

/-- The index that is dropped of two identical ones has the higher rank and backs no
constraint. -/
theorem amongIdentical_eq {a b redundant kept : Index} (hne : a.qualifiedName ≠ b.qualifiedName)
    (h : amongIdentical a b = .identical redundant kept) :
    (redundant = a ∧ kept = b ∨ redundant = b ∧ kept = a) ∧
      redundant.keepRank.le kept.keepRank = false ∧ redundant.isConstraintBacking = false := by
  obtain ⟨hpair, hboth, hkept⟩ := (amongIdentical_eq_identical_iff hne).1 h
  have hnames : redundant.qualifiedName ≠ kept.qualifiedName := by
    rcases hpair with ⟨rfl, rfl⟩ | ⟨rfl, rfl⟩
    · exact hne
    · exact hne.symm
  have hneeded : (redundant.isConstraintBacking && kept.isConstraintBacking) = false := by
    rcases hpair with ⟨rfl, rfl⟩ | ⟨rfl, rfl⟩
    · exact hboth
    · rw [Bool.and_comm]
      exact hboth
  refine ⟨hpair, ?_, ?_⟩
  · cases hback : redundant.keepRank.le kept.keepRank with
    | false => rfl
    | true => exact absurd (KeepRank.identifier_eq_of_le hback hkept) hnames
  -- If the lower rank belongs to the index that is kept, a constraint that needs the other one
  -- needs both.
  · cases hredundant : redundant.isConstraintBacking with
    | false => rfl
    | true =>
      have hfree := KeepRank.isFree_of_le hkept (by simp [Index.keepRank, hredundant])
      simp only [Index.keepRank, Bool.not_eq_eq_eq_not, Bool.not_false] at hfree
      simp [hfree, hredundant] at hneeded

/-- Of two identical indexes neither is the beginning of the other one. -/
theorem amongIdentical_ne_beginning {a b redundant kept : Index} :
    amongIdentical a b ≠ .beginning redundant kept := by
  intro h
  unfold amongIdentical at h
  split at h
  · cases h
  · split at h <;> cases h

/-- One of two identical indexes is redundant only beside the other one. -/
theorem exists_identical_of_redundant {a b redundant : Index}
    (h : (amongIdentical a b).redundant? = some redundant) :
    ∃ kept, amongIdentical a b = .identical redundant kept := by
  cases hcase : amongIdentical a b with
  | bothNeeded =>
    rw [hcase] at h
    cases h
  | beginning x y => exact (amongIdentical_ne_beginning hcase).elim
  | identical x y =>
    rw [hcase] at h
    cases h
    exact ⟨y, rfl⟩

/-- Of two indexes of a table one supersedes the other whenever one is redundant. -/
theorem supersedes_of_redundancy {a b redundant : Index} {redundancy : Redundancy}
    (htable : a.tableQualifiedName = b.tableQualifiedName)
    (hne : a.qualifiedName ≠ b.qualifiedName)
    (h : redundancy? a b = .ok (some redundancy)) (hx : redundancy.redundant? = some redundant) :
    ∃ kept, redundancy.kept? = some kept ∧
      (redundant = a ∧ kept = b ∨ redundant = b ∧ kept = a) ∧ kept.Supersedes redundant := by
  obtain ⟨hmethod, ⟨condition, ha, hb⟩, hsignature⟩ := redundancy?_eq_some h
  -- Whichever of the two is kept, table, method and condition agree.
  have hserves : ∀ x y : Index, (x = a ∧ y = b ∨ x = b ∧ y = a) →
      KeySignature.Leads x.signature y.signature → y.Serves x := by
    rintro x y (⟨rfl, rfl⟩ | ⟨rfl, rfl⟩) hleads
    · exact ⟨htable.symm, Value.equals_symm hmethod, ⟨condition, hb, ha⟩, hleads⟩
    · exact ⟨htable, hmethod, ⟨condition, ha, hb⟩, hleads⟩
  rcases signatureRedundancy?_eq_some hsignature with
    ⟨hsame, rfl⟩ | ⟨shorter, longer, hpair, hlength, hbeginning, rfl⟩
  · obtain ⟨kept, hcase⟩ := exists_identical_of_redundant hx
    obtain ⟨hpair, hrank, hfree⟩ := amongIdentical_eq hne hcase
    have hsame' : KeySignature.allSame redundant.signature kept.signature = true := by
      rcases hpair with ⟨rfl, rfl⟩ | ⟨rfl, rfl⟩
      · exact hsame
      · exact KeySignature.allSame_symm hsame
    have hleads := KeySignature.leads_of_allSame (KeySignature.allSame_symm hsame')
    have hequal : redundant.keys.length = kept.keys.length := by
      simpa [Index.signature] using KeySignature.length_eq_of_allSame hsame'
    refine ⟨kept, by rw [hcase]; rfl, hpair, hserves _ _ hpair hleads, ?_, hfree⟩
    simp [Index.preferLe, byPart, hequal, hrank]
  · cases hx
    simp only [isBeginning, Bool.and_eq_true, Bool.not_eq_true'] at hbeginning
    have hleads : KeySignature.Leads redundant.signature longer.signature := by
      simpa [KeySignature.Leads, Index.signature] using hbeginning.1.1.1.2
    refine ⟨longer, rfl, hpair, hserves _ _ hpair hleads, ?_, hbeginning.2⟩
    have hne' : redundant.keys.length ≠ longer.keys.length := by omega
    simp only [Index.preferLe, byPart, if_neg hne', decide_eq_false_iff_not]
    omega

/-! ## The findings of the check -/

/-- Two indexes of a snapshot are compared, the first one being that with the lesser
identifier. -/
structure Snapshot.Compares (s : Snapshot) (a b : Index) : Prop where
  /-- The first index belongs to the snapshot. -/
  left_mem : a ∈ s.indexes
  /-- The second index belongs to the snapshot. -/
  right_mem : b ∈ s.indexes
  /-- The first index takes part in the comparison. -/
  left_comparable : isComparable a = true
  /-- The second index takes part in the comparison. -/
  right_comparable : isComparable b = true
  /-- Both belong to the same table. -/
  table : a.tableQualifiedName = b.tableQualifiedName
  /-- The first identifier is not greater. -/
  le : textLe a.qualifiedName b.qualifiedName = true
  /-- The identifiers are different. -/
  ne : a.qualifiedName ≠ b.qualifiedName

/-- Only valid indexes take part in the comparison. -/
theorem isValid_of_isComparable {index : Index} (h : isComparable index = true) :
    index.isValid = true := by
  simp only [isComparable, Bool.and_eq_true] at h
  exact h.1.2

/-- Two indexes of a snapshot with one identifier are one index. -/
theorem Snapshot.index_eq {s : Snapshot} {a b : Index} (ha : a ∈ s.indexes) (hb : b ∈ s.indexes)
    (h : a.qualifiedName = b.qualifiedName) : a = b :=
  List.inj_on_of_nodup_map s.indexes_nodup ha hb h

/-- The indexes of a snapshot in the order of their identifiers. -/
def Snapshot.sortedIndexes (s : Snapshot) : List Index :=
  sortByText Index.qualifiedName s.indexes

theorem Snapshot.mem_sortedIndexes {s : Snapshot} {a : Index} :
    a ∈ s.sortedIndexes ↔ a ∈ s.indexes := mem_sortBy

/-- Sorted indexes have strictly ascending identifiers. -/
theorem Snapshot.sortedIndexes_pairwise (s : Snapshot) :
    s.sortedIndexes.Pairwise fun a b =>
      textLe a.qualifiedName b.qualifiedName = true ∧ a.qualifiedName ≠ b.qualifiedName := by
  have hle : s.sortedIndexes.Pairwise fun a b =>
      textLe a.qualifiedName b.qualifiedName = true :=
    sortBy_pairwise (fun a b c => textLe_trans a.qualifiedName b.qualifiedName c.qualifiedName)
      (fun a b => textLe_total a.qualifiedName b.qualifiedName) s.indexes
  have hnodup : (s.sortedIndexes.map Index.qualifiedName).Nodup :=
    ((sortBy_perm s.indexes).map _).nodup_iff.2 s.indexes_nodup
  exact hle.and (List.pairwise_map.1 hnodup)

/-- The pairs that are judged for a table are those that are compared. -/
theorem mem_pairs_iff_compares {s : Snapshot} {table : Text} {a b : Index} :
    (a, b) ∈ pairs ((s.sortedIndexes.filter isComparable).filter fun index =>
      index.tableQualifiedName = table) ↔ s.Compares a b ∧ a.tableQualifiedName = table := by
  have hsorted := (s.sortedIndexes_pairwise.filter isComparable).filter fun index =>
    decide (index.tableQualifiedName = table)
  rw [mem_pairs_iff (fun x y hxy hyx => hxy.2 (textLe_antisymm hxy.1 hyx.1)) hsorted]
  simp only [List.mem_filter, Snapshot.mem_sortedIndexes, decide_eq_true_eq]
  constructor
  · rintro ⟨⟨⟨ha, hac⟩, hat⟩, ⟨⟨hb, hbc⟩, hbt⟩, hle, hne⟩
    exact ⟨⟨ha, hb, hac, hbc, hat.trans hbt.symm, hle, hne⟩, hat⟩
  · rintro ⟨h, hat⟩
    exact ⟨⟨⟨h.left_mem, h.left_comparable⟩, hat⟩,
      ⟨⟨h.right_mem, h.right_comparable⟩, h.table.symm.trans hat⟩, h.le, h.ne⟩

/-- The finding about an index without keys. -/
def keylessFinding (index : Index) : Finding :=
  duplicatedIndexesLabel.cannotEvaluate index.qualifiedName "index has no key columns"

/-- The reports about the pairs of a snapshot, table by table. -/
def redundancyReports (s : Snapshot) : Except Fault (List (List Finding)) :=
  (sortedTexts ((s.sortedIndexes.filter isComparable).map Index.tableQualifiedName)).mapM
    fun table => redundancyFindings table
      ((s.sortedIndexes.filter isComparable).filter fun index => index.tableQualifiedName = table)

/-- The check succeeds exactly when all tables can be judged, and it reports the indexes
without keys first. -/
theorem duplicatedIndexes_run {s : Snapshot} {t : Thresholds} {findings : List Finding} :
    duplicatedIndexes.run s t = .ok findings ↔ ∃ reports, redundancyReports s = .ok reports ∧
      findings =
        (s.sortedIndexes.filter fun index => index.keys.isEmpty).map keylessFinding ++
          reports.flatten := by
  constructor
  · intro h
    obtain ⟨reports, hreports, h⟩ := Traversal.bind_eq_ok.1 h
    exact ⟨reports, hreports, (Traversal.pure_eq_ok.1 h).symm⟩
  · rintro ⟨reports, hreports, rfl⟩
    exact Traversal.bind_eq_ok.2 ⟨reports, hreports, rfl⟩

/-- The tables that are judged are those of the indexes that take part. -/
theorem Snapshot.Compares.table_mem {s : Snapshot} {a b : Index} (h : s.Compares a b) :
    a.tableQualifiedName ∈
      sortedTexts ((s.sortedIndexes.filter isComparable).map Index.tableQualifiedName) := by
  have ha : a ∈ s.sortedIndexes.filter isComparable :=
    List.mem_filter.2 ⟨s.mem_sortedIndexes.2 h.left_mem, h.left_comparable⟩
  exact mem_sortedTexts.2 (List.mem_map_of_mem ha)

/-- The check succeeds exactly when every pair that is compared can be judged. -/
theorem exists_duplicatedIndexes_run {s : Snapshot} {t : Thresholds} :
    (∃ findings, duplicatedIndexes.run s t = .ok findings) ↔
      ∀ a b, s.Compares a b →
        ∃ found, redundancyReport a.tableQualifiedName (a, b) = .ok found := by
  constructor
  · rintro ⟨findings, h⟩ a b hab
    obtain ⟨reports, hreports, -⟩ := duplicatedIndexes_run.1 h
    obtain ⟨found, -, hfound⟩ := Traversal.exists_result_of_mem hreports hab.table_mem
    exact Traversal.exists_gathered.1 ⟨found, hfound⟩ (a, b) (mem_pairs_iff_compares.2 ⟨hab, rfl⟩)
  · intro h
    have htables : ∃ reports, redundancyReports s = .ok reports := by
      refine Traversal.exists_mapM fun table _ => Traversal.exists_gathered.2 ?_
      rintro ⟨a, b⟩ hpair
      obtain ⟨hab, htable⟩ := mem_pairs_iff_compares.1 hpair
      exact htable ▸ h a b hab
    obtain ⟨reports, hreports⟩ := htables
    exact ⟨_, duplicatedIndexes_run.2 ⟨reports, hreports, rfl⟩⟩

/-- A pair is reported if one of its indexes is redundant or both are needed. -/
theorem mem_redundancyReport {table : Text} {a b : Index} {found : List Finding} {f : Finding}
    (h : redundancyReport table (a, b) = .ok found) :
    f ∈ found ↔ ∃ redundancy, redundancy? a b = .ok (some redundancy) ∧
      redundancyFinding table a b redundancy = .ok f := by
  obtain ⟨judged, hjudged, h⟩ := Traversal.bind_eq_ok.1 h
  cases judged with
  | none =>
    cases Traversal.pure_eq_ok.1 h
    simp [hjudged]
  | some redundancy =>
    obtain ⟨g, hg, h⟩ := Traversal.bind_eq_ok.1 h
    cases Traversal.pure_eq_ok.1 h
    have hjudged' : redundancy? a b = .ok (some redundancy) := hjudged
    constructor
    · intro hf
      rw [List.mem_singleton.1 hf]
      exact ⟨redundancy, hjudged', hg⟩
    · rintro ⟨redundancy', hredundancy, hf⟩
      have heq : redundancy' = redundancy :=
        Option.some.inj (Except.ok.inj (hredundancy.symm.trans hjudged'))
      rw [heq, hg] at hf
      exact List.mem_singleton.2 (Except.ok.inj hf).symm

/-- The reports about pairs are those about the pairs that are compared and redundant. -/
theorem mem_redundancyReports {s : Snapshot} {reports : List (List Finding)}
    (h : redundancyReports s = .ok reports) {f : Finding} :
    f ∈ reports.flatten ↔ ∃ a b redundancy, s.Compares a b ∧
      redundancy? a b = .ok (some redundancy) ∧
        redundancyFinding a.tableQualifiedName a b redundancy = .ok f := by
  rw [Traversal.mem_gathered (Traversal.map_eq_ok.2 ⟨reports, h, rfl⟩)]
  constructor
  · rintro ⟨table, -, found, hfound, hf⟩
    obtain ⟨⟨a, b⟩, hpair, report, hreport, hf⟩ := (Traversal.mem_gathered hfound).1 hf
    obtain ⟨hab, rfl⟩ := mem_pairs_iff_compares.1 hpair
    obtain ⟨redundancy, hredundancy, hf⟩ := (mem_redundancyReport hreport).1 hf
    exact ⟨a, b, redundancy, hab, hredundancy, hf⟩
  · rintro ⟨a, b, redundancy, hab, hredundancy, hf⟩
    obtain ⟨found, -, hfound⟩ := Traversal.exists_result_of_mem h hab.table_mem
    have hpair := mem_pairs_iff_compares.2 ⟨hab, rfl⟩
    obtain ⟨report, hreport⟩ := Traversal.exists_gathered.1 ⟨found, hfound⟩ (a, b) hpair
    exact ⟨_, hab.table_mem, found, hfound, (Traversal.mem_gathered hfound).2
      ⟨(a, b), hpair, report, hreport,
        (mem_redundancyReport hreport).2 ⟨redundancy, hredundancy, hf⟩⟩⟩

/-- What the check reports: the indexes without keys, and the pairs that are compared and
redundant. -/
theorem mem_duplicatedIndexes {s : Snapshot} {t : Thresholds} {findings : List Finding}
    (h : duplicatedIndexes.run s t = .ok findings) {f : Finding} :
    f ∈ findings ↔ (∃ index ∈ s.indexes, index.keys = [] ∧ f = keylessFinding index) ∨
      ∃ a b redundancy, s.Compares a b ∧ redundancy? a b = .ok (some redundancy) ∧
        redundancyFinding a.tableQualifiedName a b redundancy = .ok f := by
  obtain ⟨reports, hreports, rfl⟩ := duplicatedIndexes_run.1 h
  rw [List.mem_append, List.mem_map, mem_redundancyReports hreports]
  refine or_congr_left ?_
  simp only [List.mem_filter, Snapshot.mem_sortedIndexes, List.isEmpty_iff]
  constructor
  · rintro ⟨index, ⟨hmem, hkeys⟩, rfl⟩
    exact ⟨index, hmem, hkeys, rfl⟩
  · rintro ⟨index, hmem, hkeys, rfl⟩
    exact ⟨index, ⟨hmem, hkeys⟩, rfl⟩

/-- What the finding about a pair of indexes says. -/
structure Finding.ReportsPair (f : Finding) (a b : Index) (redundancy : Redundancy) : Prop where
  /-- Redundancy is a warning. -/
  severity : f.severity = .warning
  /-- The finding is one of the check for redundant indexes. -/
  checkName : f.checkName = duplicatedIndexesLabel.name
  /-- Both indexes are named. -/
  objects : f.objects = [a.qualifiedName, b.qualifiedName]
  /-- The finding is mainly about the redundant index, or about the first one if there is none. -/
  objectName : f.objectName =
    (redundancy.redundant?.map Index.qualifiedName).getD a.qualifiedName
  /-- The schema recorded is that of the first index. -/
  schema : f.metadata.get "schema" = a.tableSchema
  /-- The name recorded is that of the redundant index, absent if there is none. -/
  redundant : f.metadata.get "redundant_index" =
    (redundancy.redundant?.map (·.name)).getD .null

/-- The finding about a redundant index says which one it is. -/
theorem reportsPair_of_superfluousFinding {table : Text} {a b redundant kept : Index}
    {redundancy : Redundancy} {metadata : Metadata} {f : Finding}
    (hredundant : redundancy.redundant? = some redundant)
    (hschema : metadata.get "schema" = a.tableSchema)
    (hname : metadata.get "redundant_index" = redundant.name)
    (h : superfluousFinding table [a.qualifiedName, b.qualifiedName] redundancy redundant kept
      metadata = .ok f) : f.ReportsPair a b redundancy := by
  obtain ⟨size, -, h⟩ := Traversal.bind_eq_ok.1 h
  cases Traversal.pure_eq_ok.1 h
  exact ⟨rfl, rfl, rfl, by simp [hredundant], hschema, by simp [hredundant, hname]⟩

/-- The finding about a pair whose identifiers ascend says what it is to say. -/
theorem reportsPair_of_redundancyFinding {table : Text} {a b : Index} {redundancy : Redundancy}
    {f : Finding} (hle : textLe a.qualifiedName b.qualifiedName = true)
    (h : redundancyFinding table a b redundancy = .ok f) : f.ReportsPair a b redundancy := by
  unfold redundancyFinding at h
  rw [if_pos hle] at h
  cases redundancy with
  | bothNeeded =>
    cases h
    exact ⟨rfl, rfl, rfl, rfl, rfl, rfl⟩
  | identical redundant kept => exact reportsPair_of_superfluousFinding rfl rfl rfl h
  | beginning redundant kept => exact reportsPair_of_superfluousFinding rfl rfl rfl h

/-- Every redundancy of a snapshot that could be checked has its finding. -/
theorem Snapshot.Compares.exists_finding {s : Snapshot} {t : Thresholds} {findings : List Finding}
    (h : duplicatedIndexes.run s t = .ok findings) {a b : Index} (hab : s.Compares a b)
    {redundancy : Redundancy} (hredundancy : redundancy? a b = .ok (some redundancy)) :
    ∃ f ∈ findings, f.ReportsPair a b redundancy := by
  obtain ⟨found, hfound⟩ := exists_duplicatedIndexes_run.1 ⟨findings, h⟩ a b hab
  obtain ⟨judged, hjudged, hreport⟩ := Traversal.bind_eq_ok.1 hfound
  have hsome : judged = some redundancy := Except.ok.inj (hjudged.symm.trans hredundancy)
  rw [hsome] at hreport
  obtain ⟨f, hf, -⟩ := Traversal.bind_eq_ok.1 hreport
  exact ⟨f, (mem_duplicatedIndexes h).2 (.inr ⟨a, b, redundancy, hab, hredundancy, hf⟩),
    reportsPair_of_redundancyFinding hab.le hf⟩

/-! ## Dropping all redundant indexes at once -/

/-- The identifiers of the indexes that some findings report as redundant. -/
def redundantNames (findings : List Finding) : List Text :=
  (findings.filter fun f =>
    f.severity = .warning && f.metadata.get "redundant_index" != .null).map (·.objectName)

/-- A finding that records a redundant index was made about a pair one of whose indexes is
redundant. -/
theorem exists_redundant_of_recorded {s : Snapshot} {t : Thresholds} {findings : List Finding}
    (h : duplicatedIndexes.run s t = .ok findings) {f : Finding} (hf : f ∈ findings)
    (hname : f.metadata.get "redundant_index" ≠ .null) :
    ∃ a b redundancy redundant, s.Compares a b ∧ redundancy? a b = .ok (some redundancy) ∧
      redundancy.redundant? = some redundant ∧
        redundancyFinding a.tableQualifiedName a b redundancy = .ok f := by
  rcases (mem_duplicatedIndexes h).1 hf with ⟨index, -, -, rfl⟩ | hpair
  · exact absurd rfl hname
  · obtain ⟨a, b, redundancy, hab, hredundancy, hfinding⟩ := hpair
    rw [(reportsPair_of_redundancyFinding hab.le hfinding).redundant] at hname
    cases hredundant : redundancy.redundant? with
    | none => simp [hredundant] at hname
    | some redundant => exact ⟨a, b, redundancy, redundant, hab, hredundancy, hredundant, hfinding⟩

/-- The reported identifiers are those of the redundant indexes of the pairs that are compared,
as far as these have a name. -/
theorem mem_redundantNames {s : Snapshot} {t : Thresholds} {findings : List Finding}
    (h : duplicatedIndexes.run s t = .ok findings) {name : Text} :
    name ∈ redundantNames findings ↔ ∃ a b redundancy redundant, s.Compares a b ∧
      redundancy? a b = .ok (some redundancy) ∧ redundancy.redundant? = some redundant ∧
      redundant.name ≠ .null ∧ redundant.qualifiedName = name := by
  simp only [redundantNames, List.mem_map, List.mem_filter, Bool.and_eq_true, decide_eq_true_eq,
    bne_iff_ne]
  constructor
  · rintro ⟨f, ⟨hf, -, hname⟩, rfl⟩
    obtain ⟨a, b, redundancy, redundant, hab, hredundancy, hredundant, hfinding⟩ :=
      exists_redundant_of_recorded h hf hname
    have hreports := reportsPair_of_redundancyFinding hab.le hfinding
    rw [hreports.redundant] at hname
    refine ⟨a, b, redundancy, redundant, hab, hredundancy, hredundant, ?_, ?_⟩
    · simpa [hredundant] using hname
    · simp [hreports.objectName, hredundant]
  · rintro ⟨a, b, redundancy, redundant, hab, hredundancy, hredundant, hname, rfl⟩
    obtain ⟨f, hf, hreports⟩ := hab.exists_finding h hredundancy
    refine ⟨f, ⟨hf, hreports.severity, ?_⟩, ?_⟩
    · simpa [hreports.redundant, hredundant] using hname
    · simp [hreports.objectName, hredundant]

/-- A reported index is superseded by another one of the snapshot. -/
theorem exists_supersedes {s : Snapshot} {t : Thresholds} {findings : List Finding}
    (h : duplicatedIndexes.run s t = .ok findings) {name : Text}
    (hname : name ∈ redundantNames findings) :
    ∃ redundant ∈ s.indexes, redundant.qualifiedName = name ∧
      ∃ kept ∈ s.indexes, isComparable kept = true ∧ kept.Supersedes redundant := by
  obtain ⟨a, b, redundancy, redundant, hab, hredundancy, hredundant, -, rfl⟩ :=
    (mem_redundantNames h).1 hname
  obtain ⟨kept, -, hpair, hsupersedes⟩ :=
    supersedes_of_redundancy hab.table hab.ne hredundancy hredundant
  rcases hpair with ⟨rfl, rfl⟩ | ⟨rfl, rfl⟩
  · exact ⟨_, hab.left_mem, rfl, _, hab.right_mem, hab.right_comparable, hsupersedes⟩
  · exact ⟨_, hab.right_mem, rfl, _, hab.left_mem, hab.left_comparable, hsupersedes⟩

/-- Behind every reported index stands one that does all of its work and is not reported
itself, at whatever length of the chain of redundant indexes. -/
theorem exists_serves_not_redundant {s : Snapshot} {t : Thresholds} {findings : List Finding}
    (h : duplicatedIndexes.run s t = .ok findings) {index : Index} (hindex : index ∈ s.indexes)
    (hname : index.qualifiedName ∈ redundantNames findings) :
    ∃ kept ∈ s.indexes, isComparable kept = true ∧ kept.qualifiedName ∉ redundantNames findings ∧
      kept.Serves index := by
  have hfirst : ∃ kept ∈ s.indexes, isComparable kept = true ∧ kept.Serves index := by
    obtain ⟨redundant, hmem, hredundant, kept, hkept, hcomparable, hsupersedes⟩ :=
      exists_supersedes h hname
    rw [s.index_eq hmem hindex hredundant] at hsupersedes
    exact ⟨kept, hkept, hcomparable, hsupersedes.toServes⟩
  -- Of all indexes that do its work the preferred one cannot be redundant: the index that
  -- superseded it would do the same work and be preferred to it.
  obtain ⟨best, hbest, ⟨hcomparable, hserves⟩, hleast⟩ :=
    exists_preferred Index.preferLe_trans Index.preferLe_total hfirst
  refine ⟨best, hbest, hcomparable, fun hredundant => ?_, hserves⟩
  obtain ⟨other, hmem, hother, kept, hkept, hkeptComparable, hsupersedes⟩ :=
    exists_supersedes h hredundant
  rw [s.index_eq hmem hbest hother] at hsupersedes
  have hle := hleast kept hkept ⟨hkeptComparable, hsupersedes.toServes.trans hserves⟩
  rw [hsupersedes.notPreferred] at hle
  cases hle

/-- The snapshot without the indexes of some identifiers. -/
def Snapshot.withoutIndexes (s : Snapshot) (names : List Text) : Snapshot :=
  s.filtered fun
    | .index index => !names.contains index.qualifiedName
    | _ => true

/-- A condition that every table satisfies drops no table. -/
theorem Snapshot.droppedTables_eq_nil {s : Snapshot} {keep : SchemaObject → Bool}
    (h : ∀ table ∈ s.tables, keep (.table table) = true) : s.droppedTables keep = [] := by
  have hall : (s.tables.filter fun table => keep (.table table)) = s.tables :=
    List.filter_eq_self.2 h
  simp [droppedTables, hall]

/-- An index passes a filter if it satisfies the condition and its table is not dropped. -/
theorem Snapshot.mem_indexes_filtered {s : Snapshot} {keep : SchemaObject → Bool}
    {index : Index} : index ∈ (s.filtered keep).indexes ↔ index ∈ s.indexes ∧
      index.tableQualifiedName ∉ s.droppedTables keep ∧ keep (.index index) = true := by
  change index ∈ s.indexes.filter _ ↔ _
  simp [List.mem_filter]

/-- No table goes with the indexes that are left out, so all other indexes stay. -/
theorem Snapshot.mem_withoutIndexes {s : Snapshot} {names : List Text} {index : Index} :
    index ∈ (s.withoutIndexes names).indexes ↔
      index ∈ s.indexes ∧ index.qualifiedName ∉ names := by
  rw [withoutIndexes, mem_indexes_filtered, droppedTables_eq_nil fun _ _ => rfl]
  simp

/-- What is compared without some indexes was compared with them. -/
theorem Snapshot.Compares.of_withoutIndexes {s : Snapshot} {names : List Text} {a b : Index}
    (h : (s.withoutIndexes names).Compares a b) :
    s.Compares a b ∧ a.qualifiedName ∉ names ∧ b.qualifiedName ∉ names := by
  obtain ⟨ha, hna⟩ := Snapshot.mem_withoutIndexes.1 h.left_mem
  obtain ⟨hb, hnb⟩ := Snapshot.mem_withoutIndexes.1 h.right_mem
  exact ⟨⟨ha, hb, h.left_comparable, h.right_comparable, h.table, h.le, h.ne⟩, hna, hnb⟩

/-- The indexes reported as redundant can all be dropped: each belongs to the snapshot and backs
no constraint, a valid index that is not reported does all of its work, and the check
finds no redundant index among those that are left. -/
theorem redundant_indexes_dispensable {s : Snapshot} {t : Thresholds} {findings : List Finding}
    (h : duplicatedIndexes.run s t = .ok findings) :
    (∀ name ∈ redundantNames findings, ∃ index ∈ s.indexes, index.qualifiedName = name ∧
      index.isConstraintBacking = false ∧ ∃ kept ∈ s.indexes, kept.isValid = true ∧
        kept.qualifiedName ∉ redundantNames findings ∧ kept.Serves index) ∧
      ∃ rest, duplicatedIndexes.run (s.withoutIndexes (redundantNames findings)) t = .ok rest ∧
        ∀ f ∈ rest, f.metadata.get "redundant_index" = .null := by
  constructor
  · intro name hname
    obtain ⟨index, hindex, rfl, _, _, _, hsupersedes⟩ := exists_supersedes h hname
    obtain ⟨kept, hkept, hcomparable, hfree, hserves⟩ := exists_serves_not_redundant h hindex hname
    exact ⟨index, hindex, rfl, hsupersedes.isFree, kept, hkept,
      isValid_of_isComparable hcomparable, hfree, hserves⟩
  · have hruns : ∃ rest,
        duplicatedIndexes.run (s.withoutIndexes (redundantNames findings)) t = .ok rest := by
      refine exists_duplicatedIndexes_run.2 fun a b hab => ?_
      exact exists_duplicatedIndexes_run.1 ⟨findings, h⟩ a b hab.of_withoutIndexes.1
    obtain ⟨rest, hrest⟩ := hruns
    refine ⟨rest, hrest, fun f hf => ?_⟩
    rcases (mem_duplicatedIndexes hrest).1 hf with ⟨index, -, -, rfl⟩ | hpair
    · rfl
    · obtain ⟨a, b, redundancy, hab, hredundancy, hfinding⟩ := hpair
      obtain ⟨habs, hna, hnb⟩ := hab.of_withoutIndexes
      have hreports := reportsPair_of_redundancyFinding hab.le hfinding
      rw [hreports.redundant]
      cases hredundant : redundancy.redundant? with
      | none => rfl
      | some redundant =>
        -- A named redundant index would have been reported and left out.
        by_contra hname
        have hreported := (mem_redundantNames h).2
          ⟨a, b, redundancy, redundant, habs, hredundancy, hredundant, hname, rfl⟩
        obtain ⟨kept, -, hpair, -⟩ :=
          supersedes_of_redundancy hab.table hab.ne hredundancy hredundant
        rcases hpair with ⟨rfl, -⟩ | ⟨rfl, -⟩
        · exact hna hreported
        · exact hnb hreported

/-- An index of a table on some columns. -/
def plainIndex (schema table name : String) (columns : List String) : Index where
  name := .text name
  tableSchema := .text schema
  tableName := .text table
  keys := columns.map fun column => { name := .text column }

/-- A snapshot of nothing. -/
def bareSnapshot : Snapshot := {}

/-- A table with indexes on the first one, two and three of its columns. -/
def nestedIndexes : Snapshot :=
  { bareSnapshot with
    indexes :=
      [plainIndex "public" "orders" "by_day" ["day"],
       plainIndex "public" "orders" "by_day_shop" ["day", "shop"],
       plainIndex "public" "orders" "by_day_shop_till" ["day", "shop", "till"]]
    indexes_nodup := by decide }

/-- Of nested indexes only the longest one is left. -/
theorem redundant_indexes_dispensable_nested : ∃ findings,
    duplicatedIndexes.run nestedIndexes {} = .ok findings ∧
      redundantNames findings = [("public.by_day" : Text), "public.by_day", "public.by_day_shop"] ∧
      (∀ name ∈ redundantNames findings, ∃ index ∈ nestedIndexes.indexes,
        index.qualifiedName = name ∧ index.isConstraintBacking = false ∧
          ∃ kept ∈ nestedIndexes.indexes, kept.isValid = true ∧
            kept.qualifiedName ∉ redundantNames findings ∧ kept.Serves index) ∧
      ∃ rest, duplicatedIndexes.run (nestedIndexes.withoutIndexes (redundantNames findings)) {} =
          .ok rest ∧ ∀ f ∈ rest, f.metadata.get "redundant_index" = .null := by
  have hruns : (duplicatedIndexes.run nestedIndexes {}).toOption.any (fun findings =>
      redundantNames findings = [("public.by_day" : Text), "public.by_day", "public.by_day_shop"])
      = true := by
    decide +kernel
  obtain ⟨findings, hfindings, hnames⟩ := Traversal.exists_ok_of_toOption hruns
  have hdispensable := redundant_indexes_dispensable hfindings
  exact ⟨findings, hfindings, of_decide_eq_true hnames, hdispensable⟩

end CatalogHealth
