import CatalogHealth.Proofs.Covering

/-!
# Foreign keys that lose their cover

When all redundant indexes are dropped, each of them leaves behind an index that does all of its
work. The check for foreign keys may still miss it: it looks at whole key lists, at conditions as
they are written and at as many columns as the foreign key names. So a foreign key is newly
reported only where the index that is kept has an expression among its keys, has a condition of
blank characters, or where the foreign key names some column twice. Dropping indexes never covers
a foreign key. The database itself, and whether it accepts such objects, is outside the scope of
this module.
-/

namespace CatalogHealth

variable {s : Snapshot} {t : Thresholds} {names : List Text} {key : Constraint}
  {dups found : List Finding}

/-! ## The snapshot without some indexes -/

namespace Snapshot

theorem constraints_withoutIndexes : (s.withoutIndexes names).constraints = s.constraints := by
  refine List.filter_eq_self.2 fun con _ => ?_
  rw [droppedTables_eq_nil fun _ _ => rfl]
  rfl

theorem mem_constraints_withoutIndexes :
    key ∈ (s.withoutIndexes names).constraints ↔ key ∈ s.constraints := by
  rw [constraints_withoutIndexes]

/-- Without some indexes there are no new paths to the rows of a table. -/
theorem accessPaths_withoutIndexes_subset (table : Text) (count : Nat) :
    accessPaths (s.withoutIndexes names) table count ⊆ accessPaths s table count := by
  intro path hpath
  rcases mem_accessPaths.1 hpath with ⟨index, hindex, hserves⟩ | ⟨con, hcon, hpath⟩
  · exact mem_accessPaths.2 (.inl ⟨index, (mem_withoutIndexes.1 hindex).1, hserves⟩)
  · exact mem_accessPaths.2 (.inr ⟨con, mem_constraints_withoutIndexes.1 hcon, hpath⟩)

end Snapshot

namespace Constraint

/-- What is covered without some indexes is covered with them. -/
theorem HasPlainCover.of_withoutIndexes (h : key.HasPlainCover (s.withoutIndexes names)) :
    key.HasPlainCover s := by
  rcases h with ⟨index, hindex, hcover⟩ | ⟨con, hcon, hcovers⟩
  · exact .inl ⟨index, (Snapshot.mem_withoutIndexes.1 hindex).1, hcover⟩
  · exact .inr ⟨con, Snapshot.mem_constraints_withoutIndexes.1 hcon, hcovers⟩

/-- All columns that are compared with those of an uncovered foreign key can be members of a
set. -/
theorem CoverJudgeable.scalar_of_isUncovered (h : key.CoverJudgeable s)
    (huncovered : key.IsUncovered s) {path : List Value}
    (hpath : path ∈ accessPaths s key.tableQualifiedName key.columns.length) :
    ∀ column ∈ path.take key.columns.length, column.isScalar = true := by
  obtain ⟨front, back, hsplit⟩ := List.append_of_mem hpath
  refine h.leading_scalar front path back hsplit fun earlier hearlier => ?_
  exact huncovered earlier (hsplit ▸ List.mem_append_left _ hearlier)

/-- An uncovered foreign key that can be judged can be judged without some indexes. -/
theorem CoverJudgeable.withoutIndexes (h : key.CoverJudgeable s)
    (huncovered : key.IsUncovered s) : key.CoverJudgeable (s.withoutIndexes names) := by
  refine ⟨h.columns_scalar, fun front path back hsplit _ => ?_,
    fun _ => h.columns_text huncovered, fun _ => h.reference_writable huncovered⟩
  have hpath : path ∈ accessPaths (s.withoutIndexes names) key.tableQualifiedName
      key.columns.length := by
    rw [hsplit]
    exact List.mem_append_right _ (List.mem_cons_self ..)
  exact h.scalar_of_isUncovered huncovered (Snapshot.accessPaths_withoutIndexes_subset _ _ hpath)

end Constraint

/-! ## What an index that does the work of another one covers -/

/-- Values that are the same are the same as the same values. -/
theorem Value.same_congr_left {x y : Value} (h : Value.same x y = true) :
    Value.same x = Value.same y := by
  funext z
  rw [Bool.eq_iff_iff]
  exact ⟨fun hxz => same_trans y x z (same_symm x y h) hxz, fun hyz => same_trans x y z h hyz⟩

theorem Value.same_congr_right {x y : Value} (h : Value.same x y = true) (z : Value) :
    Value.same z x = Value.same z y := by
  rw [Bool.eq_iff_iff]
  exact ⟨fun hzx => same_trans z x y hzx h, fun hzy => same_trans z y x hzy (same_symm x y h)⟩

/-- Lists that are the same place by place hold the same values. -/
theorem Value.sameSet_congr_left {xs ys : List Value}
    (h : List.Forall₂ (fun x y => Value.same x y = true) xs ys) (zs : List Value) :
    Value.sameSet xs zs = Value.sameSet ys zs := by
  have hany : ∀ z, isAmong z xs = isAmong z ys := by
    intro z
    unfold isAmong
    induction h with
    | nil => rfl
    | cons hxy _ ih => rw [List.any_cons, List.any_cons, ih, same_congr_right hxy]
  have hall : xs.all (fun x => isAmong x zs) = ys.all (fun y => isAmong y zs) := by
    clear hany
    induction h with
    | nil => rfl
    | cons hxy _ ih => rw [List.all_cons, List.all_cons, ih, isAmong, isAmong, same_congr_left hxy]
  simp only [sameSet, hall, hany]

/-- A key without an expression has its column for the signature. -/
theorem IndexKey.key_signature_of_plain {leading : IndexKey}
    (h : leading.isExpression = false) : leading.signature.key = leading.name := by
  simp [signature, h]

/-- Of two indexes of plain columns one of which does all the work of the other one, the first
columns are the same, as many as the other one has. -/
theorem Index.Serves.leading_columns {kept index : Index} (h : kept.Serves index)
    (hkept : kept.IsPlain) (hindex : index.IsPlain) {count : Nat}
    (hcount : count ≤ index.keys.length) :
    List.Forall₂ (fun x y => Value.same x y = true)
      ((kept.keys.take count).map (·.name)) ((index.keys.take count).map (·.name)) := by
  have hnames : ∀ other : Index, other.IsPlain →
      (other.keys.take count).map (·.name) = (other.signature.take count).map (·.key) := by
    intro other hplain
    rw [signature, ← List.map_take, List.map_map]
    refine List.map_congr_left fun leading hleading => ?_
    exact (IndexKey.key_signature_of_plain (hplain leading (List.mem_of_mem_take hleading))).symm
  have hleading : List.Forall₂ (fun a b => a.same b = true) (kept.signature.take count)
      (index.signature.take count) := by
    have hlength : index.signature.length = index.keys.length := by simp [signature]
    have htaken := List.forall₂_take count (KeySignature.allSame_iff.1 h.leads)
    rwa [List.take_take, hlength, Nat.min_eq_left hcount] at htaken
  rw [hnames kept hkept, hnames index hindex, List.forall₂_map_left_iff,
    List.forall₂_map_right_iff]
  refine hleading.imp fun a b hsame => ?_
  simp only [KeySignature.same, Bool.and_eq_true] at hsame
  exact hsame.1.1.1.1

/-- A condition that does not count is no condition up to blank characters. -/
theorem Index.condition_of_unconditional {index : Index} (h : index.predicate.truthy = false) :
    index.condition = .ok "" := by
  unfold condition
  split
  · rename_i text hpredicate
    rw [hpredicate] at h
    have hempty : text = "" := by simpa [Value.truthy] using h
    rw [hempty]
    rfl
  · rw [h]
    rfl

/-- A condition is written in blank characters only. -/
def Index.HasBlankCondition (index : Index) : Prop :=
  ∃ blanks : Text, index.predicate = .text blanks ∧ blanks ≠ "" ∧ Text.collapse blanks = ""

/-- An index of the same condition as one without a condition has none either, unless it is
written in blank characters. -/
theorem Index.Serves.unconditional_or_blank {kept index : Index} (h : kept.Serves index)
    (hindex : index.predicate.truthy = false) :
    kept.predicate.truthy = false ∨ kept.HasBlankCondition := by
  obtain ⟨condition, hkept, hcondition⟩ := h.condition
  have hempty : condition = "" :=
    (Except.ok.inj ((condition_of_unconditional hindex).symm.trans hcondition)).symm
  subst hempty
  cases htruthy : kept.predicate.truthy with
  | false => exact .inl rfl
  | true =>
    unfold Index.condition at hkept
    split at hkept
    · rename_i blanks hpredicate
      rw [hpredicate] at htruthy
      exact .inr ⟨blanks, hpredicate, by simpa [Value.truthy] using htruthy, Except.ok.inj hkept⟩
    · rw [htruthy] at hkept
      cases hkept

/-- A compared index that does all the work of another one covers what that one covers, if it has
plain columns and no condition and the foreign key has not more columns than the other index. -/
theorem Index.Covers.of_serves {kept index : Index} (hcovers : index.Covers key)
    (hserves : kept.Serves index) (hcomparable : isComparable kept = true)
    (hkept : kept.IsPlain) (hindex : index.IsPlain) (hfull : kept.predicate.truthy = false)
    (hcount : key.columns.length ≤ index.keys.length) : kept.Covers key := by
  have hmethod : kept.method = .text "btree" := by
    have hequal := Value.equals_symm hserves.method
    simp only [isComparable, Bool.and_eq_true, bne_iff_ne] at hcomparable
    rcases hcovers.method with hbtree | ⟨hhash, -⟩
    · rw [hbtree, Value.equals_text, decide_eq_true_eq] at hequal
      exact hequal.symm
    · rw [hhash, Value.equals_text, decide_eq_true_eq] at hequal
      exact absurd hequal.symm hcomparable.2
  refine ⟨hserves.table.trans hcovers.table, isValid_of_isComparable hcomparable, hfull,
    .inl hmethod, fun leading hleading => hkept leading (List.mem_of_mem_take hleading), ?_⟩
  rw [Value.sameSet_congr_left (hserves.leading_columns hkept hindex hcount)]
  exact hcovers.leading_same

/-! ## The foreign keys that are reported after the drop -/

/-- What stands in the way of an index that does all the work of another one when it is to cover
a foreign key that the other one covers. -/
def Index.FallsShort (kept index : Index) (key : Constraint) : Prop :=
  ¬kept.IsPlain ∨ kept.HasBlankCondition ∨ index.keys.length < key.columns.length

/-- Where a foreign key loses its cover, every index that covered it was redundant, and something
stands in the way of the index that was kept. -/
theorem exists_fallsShort_of_cover_lost (hdups : duplicatedIndexes.run s t = .ok dups)
    (hlost : ¬key.HasPlainCover (s.withoutIndexes (redundantNames dups))) {index : Index}
    (hindex : index ∈ s.indexes) (hplain : index.IsPlain) (hcovers : index.Covers key) :
    index.qualifiedName ∈ redundantNames dups ∧
      ∃ kept ∈ (s.withoutIndexes (redundantNames dups)).indexes,
        kept.Serves index ∧ kept.FallsShort index key := by
  have hredundant : index.qualifiedName ∈ redundantNames dups := by
    by_contra hstays
    exact hlost (.inl ⟨index, Snapshot.mem_withoutIndexes.2 ⟨hindex, hstays⟩, hplain, hcovers⟩)
  obtain ⟨kept, hkept, hcomparable, hstays, hserves⟩ :=
    exists_serves_not_redundant hdups hindex hredundant
  have hrest : kept ∈ (s.withoutIndexes (redundantNames dups)).indexes :=
    Snapshot.mem_withoutIndexes.2 ⟨hkept, hstays⟩
  refine ⟨hredundant, kept, hrest, hserves, ?_⟩
  by_contra hnothing
  simp only [Index.FallsShort, not_or, not_not, Nat.not_lt] at hnothing
  obtain ⟨hkeptPlain, hblank, hcount⟩ := hnothing
  have hfull : kept.predicate.truthy = false :=
    (hserves.unconditional_or_blank hcovers.unconditional).resolve_right hblank
  have hkeptCovers := hcovers.of_serves hserves hcomparable hkeptPlain hplain hfull hcount
  exact hlost (.inl ⟨kept, hrest, hkeptPlain, hkeptCovers⟩)

/-- A foreign key that was uncovered with some indexes is uncovered without them. -/
theorem Constraint.IsReported.withoutIndexes (hrun : foreignKeysWithoutIndex.run s t = .ok found)
    {rest : List Finding}
    (hrest : foreignKeysWithoutIndex.run (s.withoutIndexes names) t = .ok rest)
    (hkey : key ∈ s.constraints) (h : key.IsReported found) : key.IsReported rest := by
  have hstays : key ∈ (s.withoutIndexes names).constraints :=
    Snapshot.mem_constraints_withoutIndexes.2 hkey
  obtain ⟨hkind, hne, huncovered⟩ := (isReported_iff hrun hkey).1 h
  have hlost : ¬key.HasPlainCover (s.withoutIndexes names) :=
    fun hcover => huncovered hcover.of_withoutIndexes
  exact (isReported_iff hrest hstays).2 ⟨hkind, hne, hlost⟩

/-- Without some indexes the check runs to its end and reports the same foreign keys exactly if
every foreign key that was covered still is, and can be judged. -/
theorem exists_run_withoutIndexes_iff (hrun : foreignKeysWithoutIndex.run s t = .ok found) :
    (∃ rest, foreignKeysWithoutIndex.run (s.withoutIndexes names) t = .ok rest ∧
      ∀ key ∈ s.constraints, key.IsReported rest ↔ key.IsReported found) ↔
    ∀ key ∈ s.constraints, key.kind = .foreignKey → key.columns ≠ [] → key.HasPlainCover s →
      key.HasPlainCover (s.withoutIndexes names) ∧
        key.CoverJudgeable (s.withoutIndexes names) := by
  have hmem : ∀ {key : Constraint}, key ∈ s.constraints →
      key ∈ (s.withoutIndexes names).constraints :=
    Snapshot.mem_constraints_withoutIndexes.2
  constructor
  · rintro ⟨rest, hrest, hsame⟩ key hkey hkind hne hcover
    refine ⟨?_, exists_foreignKeysWithoutIndex_iff.1 ⟨rest, hrest⟩ key (hmem hkey) hkind hne⟩
    by_contra hlost
    have hreported := (Constraint.isReported_iff hrest (hmem hkey)).2 ⟨hkind, hne, hlost⟩
    have hbefore := (Constraint.isReported_iff hrun hkey).1 ((hsame key hkey).1 hreported)
    exact hbefore.2.2 hcover
  · intro hcovers
    have hjudgeable : ∀ key ∈ (s.withoutIndexes names).constraints, key.kind = .foreignKey →
        key.columns ≠ [] → key.CoverJudgeable (s.withoutIndexes names) := by
      intro key hkey hkind hne
      rw [Snapshot.constraints_withoutIndexes] at hkey
      by_cases hcover : key.HasPlainCover s
      · exact (hcovers key hkey hkind hne hcover).2
      · have hbefore := exists_foreignKeysWithoutIndex_iff.1 ⟨found, hrun⟩ key hkey hkind hne
        exact hbefore.withoutIndexes ((Constraint.isUncovered_iff hne).2 hcover)
    obtain ⟨rest, hrest⟩ := (exists_foreignKeysWithoutIndex_iff (t := t)).2 hjudgeable
    refine ⟨rest, hrest, fun key hkey => ⟨fun hreported => ?_, fun hreported => ?_⟩⟩
    · obtain ⟨hkind, hne, hlost⟩ := (Constraint.isReported_iff hrest (hmem hkey)).1 hreported
      refine (Constraint.isReported_iff hrun hkey).2 ⟨hkind, hne, fun hcover => ?_⟩
      exact hlost (hcovers key hkey hkind hne hcover).1
    · exact hreported.withoutIndexes hrun hrest hkey

/-- Dropping the redundant indexes leaves the reported foreign keys as they are exactly if every
foreign key that was covered is covered by an index of plain columns that is not redundant, or by
a constraint, and can be judged so. What was reported stays reported. A foreign key that is newly
reported was covered by indexes only, and something stands in the way of each index that was kept
for one of them: an expression, a condition of blank characters, or a column that the foreign key
repeats. -/
theorem reported_keys_unchanged_iff (hdups : duplicatedIndexes.run s t = .ok dups)
    (hrun : foreignKeysWithoutIndex.run s t = .ok found) :
    ((∃ rest,
        foreignKeysWithoutIndex.run (s.withoutIndexes (redundantNames dups)) t = .ok rest ∧
          ∀ key ∈ s.constraints, key.IsReported rest ↔ key.IsReported found) ↔
      ∀ key ∈ s.constraints, key.kind = .foreignKey → key.columns ≠ [] → key.HasPlainCover s →
        key.HasPlainCover (s.withoutIndexes (redundantNames dups)) ∧
          key.CoverJudgeable (s.withoutIndexes (redundantNames dups))) ∧
    ∀ rest, foreignKeysWithoutIndex.run (s.withoutIndexes (redundantNames dups)) t = .ok rest →
      ∀ key ∈ s.constraints, (key.IsReported found → key.IsReported rest) ∧
        (key.IsReported rest → ¬key.IsReported found →
          (∃ index ∈ s.indexes, index.IsPlain ∧ index.Covers key) ∧
          ∀ index ∈ s.indexes, index.IsPlain → index.Covers key →
            index.qualifiedName ∈ redundantNames dups ∧
              ∃ kept ∈ (s.withoutIndexes (redundantNames dups)).indexes,
                kept.Serves index ∧ kept.FallsShort index key) := by
  refine ⟨exists_run_withoutIndexes_iff hrun, fun rest hrest key hkey => ⟨fun hreported => ?_, ?_⟩⟩
  · exact hreported.withoutIndexes hrun hrest hkey
  · intro hreported hbefore
    have hstays : key ∈ (s.withoutIndexes (redundantNames dups)).constraints :=
      Snapshot.mem_constraints_withoutIndexes.2 hkey
    obtain ⟨hkind, hne, hlost⟩ := (Constraint.isReported_iff hrest hstays).1 hreported
    have hcover : key.HasPlainCover s := by
      by_contra huncovered
      exact hbefore ((Constraint.isReported_iff hrun hkey).2 ⟨hkind, hne, huncovered⟩)
    have hindexes : ∃ index ∈ s.indexes, index.IsPlain ∧ index.Covers key := by
      refine hcover.resolve_right fun hconstraint => hlost (.inr ?_)
      rwa [Snapshot.constraints_withoutIndexes]
    exact ⟨hindexes, fun index hindex hplain hcovers =>
      exists_fallsShort_of_cover_lost hdups hlost hindex hplain hcovers⟩

/-- The index on the column of one foreign key. -/
def byShop : Index := plainIndex "public" "orders" "by_shop" ["shop"]

/-- A table with the same two foreign keys, each covered by an index that is the beginning of
another one: of an index with an expression for the first foreign key, and of one of plain columns
for the second one. -/
def prefixedOrders : Snapshot :=
  { notedOrders with
    indexes :=
      [byShop, shopNoteIndex, plainIndex "public" "orders" "by_till" ["till", "day"],
       plainIndex "public" "orders" "by_till_shop" ["till", "day", "shop"]]
    indexes_nodup := by decide }

/-- Both foreign keys are covered at first, and two of the four indexes are redundant. -/
theorem prefixedOrders_runs : ∃ dups found rest,
    duplicatedIndexes.run prefixedOrders {} = .ok dups ∧
      redundantNames dups = [("public.by_shop" : Text), "public.by_till"] ∧
      foreignKeysWithoutIndex.run prefixedOrders {} = .ok found ∧
      foreignKeysWithoutIndex.run (prefixedOrders.withoutIndexes (redundantNames dups)) {} =
        .ok rest ∧
      (¬shopKey.IsReported found ∧ shopKey.IsReported rest) ∧ ¬dayTillKey.IsReported rest := by
  have hruns : (duplicatedIndexes.run prefixedOrders {}).toOption.any (fun dups =>
      redundantNames dups = [("public.by_shop" : Text), "public.by_till"]) = true := by
    decide +kernel
  have hchecks : (foreignKeysWithoutIndex.run prefixedOrders {}).toOption.any (fun found =>
      ¬shopKey.IsReported found) = true := by
    decide +kernel
  have hdrops : (foreignKeysWithoutIndex.run (prefixedOrders.withoutIndexes
      [("public.by_shop" : Text), "public.by_till"]) {}).toOption.any (fun rest =>
        shopKey.IsReported rest ∧ ¬dayTillKey.IsReported rest) = true := by
    decide +kernel
  obtain ⟨dups, hdups, hnames⟩ := Traversal.exists_ok_of_toOption hruns
  obtain ⟨found, hfound, hcovered⟩ := Traversal.exists_ok_of_toOption hchecks
  obtain ⟨rest, hrest, hreported⟩ := Traversal.exists_ok_of_toOption hdrops
  rw [decide_eq_true_eq] at hnames hcovered hreported
  rw [← hnames] at hrest
  exact ⟨dups, found, rest, hdups, hnames, hfound, hrest, ⟨hcovered, hreported.1⟩, hreported.2⟩

/-- The foreign key that is newly reported has lost its cover to an index with an expression. -/
theorem reported_keys_unchanged_iff_prefixedOrders : ∃ dups found rest,
    duplicatedIndexes.run prefixedOrders {} = .ok dups ∧
      foreignKeysWithoutIndex.run prefixedOrders {} = .ok found ∧
      foreignKeysWithoutIndex.run (prefixedOrders.withoutIndexes (redundantNames dups)) {} =
        .ok rest ∧
      (shopKey.IsReported rest ∧ ¬shopKey.IsReported found) ∧
      byShop.qualifiedName ∈ redundantNames dups ∧
      ∃ kept ∈ (prefixedOrders.withoutIndexes (redundantNames dups)).indexes,
        kept.Serves byShop ∧ kept.FallsShort byShop shopKey := by
  obtain ⟨dups, found, rest, hdups, -, hfound, hrest, ⟨hcovered, hreported⟩, -⟩ :=
    prefixedOrders_runs
  have hkey : shopKey ∈ prefixedOrders.constraints := by decide
  obtain ⟨-, hcauses⟩ := (reported_keys_unchanged_iff hdups hfound).2 rest hrest shopKey hkey
  obtain ⟨-, hcause⟩ := hcauses hreported hcovered
  obtain ⟨hredundant, hkept⟩ :=
    hcause byShop (by decide) (by decide +kernel) (by decide +kernel)
  exact ⟨dups, found, rest, hdups, hfound, hrest, ⟨hreported, hcovered⟩, hredundant, hkept⟩

/-- Dropping the redundant indexes uncovers a foreign key that was covered. -/
theorem prefixedOrders_uncovered_by_drop : ∃ dups found rest,
    duplicatedIndexes.run prefixedOrders {} = .ok dups ∧
      redundantNames dups = [("public.by_shop" : Text), "public.by_till"] ∧
      foreignKeysWithoutIndex.run prefixedOrders {} = .ok found ∧
      foreignKeysWithoutIndex.run (prefixedOrders.withoutIndexes (redundantNames dups)) {} =
        .ok rest ∧
      shopKey ∈ prefixedOrders.constraints ∧ ¬shopKey.IsReported found ∧
        shopKey.IsReported rest := by
  obtain ⟨dups, found, rest, hdups, hnames, hfound, hrest, ⟨hcovered, hreported⟩, -⟩ :=
    prefixedOrders_runs
  exact ⟨dups, found, rest, hdups, hnames, hfound, hrest, by decide, hcovered, hreported⟩

end CatalogHealth
