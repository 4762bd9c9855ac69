import CatalogHealth.Proofs.FlaggedIndexes
import CatalogHealth.Proofs.Spacing

/-!
# When identical indexes can stand in for each other

Two indexes are reported as identical if their signatures are the same and their conditions are
after collapsing blanks. Both comparisons forget something. A column whose name is an expression in
parentheses has the signature of that expression, and blanks between quotes belong to a literal or
to a name. So indexes that are reported as identical can stand in for each other exactly if no
column of one poses as an expression of the other and the quoted parts of their conditions are the
same. What the database makes of an expression or a condition is outside the scope of this module.
-/

namespace CatalogHealth

variable {s : Snapshot} {t : Thresholds} {findings : List Finding} {f : Finding} {a b : Index}
  {x y : IndexKey}

/-! ## Keys -/

namespace IndexKey

/-- What stands in the parentheses of an expression. -/
def expressionWords (key : IndexKey) : Text :=
  if key.expression.truthy then key.expression.display else ""

/-- What a key says: the name of its column, or its expression. -/
def wording (key : IndexKey) : Value :=
  if key.isExpression then .text key.expressionWords else key.name

/-- Two keys have the same direction, place of nulls, operator class and collation. -/
structure SharesOptions (x y : IndexKey) : Prop where
  /-- The direction is the same. -/
  descending : x.descending = y.descending
  /-- The place of nulls is the same. -/
  nullsFirst : x.nullsFirst.same y.nullsFirst = true
  /-- The operator class is the same. -/
  opclass : x.opclass.same y.opclass = true
  /-- The collation is the same. -/
  collation : x.collation.same y.collation = true

/-- Two keys are columns or expressions alike and say the same. -/
structure Agrees (x y : IndexKey) : Prop extends SharesOptions x y where
  /-- Both are columns, or both are expressions. -/
  kind : x.isExpression = y.isExpression
  /-- Both say the same. -/
  wording : x.wording.same y.wording = true

/-- A column poses as an expression: its name is the expression in parentheses. -/
structure PosesAs (x y : IndexKey) : Prop extends SharesOptions x y where
  /-- The one key is a column. -/
  column : x.isExpression = false
  /-- The other key is an expression. -/
  expression : y.isExpression = true
  /-- The name of the column is the expression in parentheses. -/
  name : x.name = .text y.expressionText

theorem SharesOptions.symm (h : x.SharesOptions y) : y.SharesOptions x :=
  ⟨h.descending.symm, Value.same_symm _ _ h.nullsFirst, Value.same_symm _ _ h.opclass,
    Value.same_symm _ _ h.collation⟩

/-- A key poses only as one of the other kind. -/
theorem PosesAs.kind_ne (h : x.PosesAs y) : x.isExpression ≠ y.isExpression := by
  rw [h.column, h.expression]
  exact Bool.false_ne_true

/-- What agrees with a key does not pose as it. -/
theorem Agrees.not_posesAs (h : x.Agrees y) : ¬(x.PosesAs y ∨ y.PosesAs x) := by
  rintro (hposes | hposes)
  · exact hposes.kind_ne h.kind
  · exact hposes.kind_ne h.kind.symm

/-- Expressions in parentheses are the same if they are so without them. -/
theorem expressionText_eq_iff :
    x.expressionText = y.expressionText ↔ x.expressionWords = y.expressionWords := by
  have htext : ∀ key : IndexKey, key.expressionText = "(" ++ key.expressionWords ++ ")" :=
    fun _ => rfl
  constructor
  · intro h
    rw [htext, htext] at h
    have hpoints := List.append_cancel_right (congrArg Text.points h)
    exact congrArg Text.mk (List.append_cancel_left hpoints)
  · intro h
    rw [htext, htext, h]

/-- Signatures are the same in their keys and in their options. -/
theorem signature_same_iff : x.signature.same y.signature = true ↔
    x.signature.key.same y.signature.key = true ∧ x.SharesOptions y := by
  simp only [KeySignature.same, signature, Bool.and_eq_true, beq_iff_eq]
  constructor
  · rintro ⟨⟨⟨⟨hkey, hdescending⟩, hnulls⟩, hopclass⟩, hcollation⟩
    exact ⟨hkey, hdescending, hnulls, hopclass, hcollation⟩
  · rintro ⟨hkey, hdescending, hnulls, hopclass, hcollation⟩
    exact ⟨⟨⟨⟨hkey, hdescending⟩, hnulls⟩, hopclass⟩, hcollation⟩

/-- Keys of one kind have the same signature exactly if they agree. -/
theorem signature_same_iff_of_kind (hkind : x.isExpression = y.isExpression) :
    x.signature.same y.signature = true ↔ x.Agrees y := by
  have hwording :
      x.signature.key.same y.signature.key = true ↔ x.wording.same y.wording = true := by
    cases hy : y.isExpression with
    | false => simp [signature, wording, hkind, hy]
    | true => simp [signature, wording, hkind, hy, Value.same_text, expressionText_eq_iff]
  rw [signature_same_iff, hwording]
  constructor
  · rintro ⟨hsame, hoptions⟩
    exact ⟨hoptions, hkind, hsame⟩
  · intro hagrees
    exact ⟨hagrees.wording, hagrees.toSharesOptions⟩

/-- A column and an expression have the same signature exactly if the column poses as the
expression. -/
theorem signature_same_iff_posesAs (hx : x.isExpression = false) (hy : y.isExpression = true) :
    y.signature.same x.signature = true ↔ x.PosesAs y := by
  have hkey : y.signature.key.same x.signature.key = true ↔ x.name = .text y.expressionText := by
    simp [signature, hx, hy, Value.same_text, eq_comm]
  rw [signature_same_iff, hkey]
  constructor
  · rintro ⟨hname, hoptions⟩
    exact ⟨hoptions.symm, hx, hy, hname⟩
  · intro hposes
    exact ⟨hposes.name, hposes.toSharesOptions.symm⟩

/-- Keys with the same signature agree, or one of them is a column that poses as the other one. -/
theorem agrees_or_poses (h : x.signature.same y.signature = true) :
    x.Agrees y ∨ x.PosesAs y ∨ y.PosesAs x := by
  by_cases hkind : x.isExpression = y.isExpression
  · exact .inl ((signature_same_iff_of_kind hkind).1 h)
  · right
    cases hx : x.isExpression with
    | false =>
      have hy : y.isExpression = true := by simpa [hx] using hkind
      exact .inl ((signature_same_iff_posesAs hx hy).1 (KeySignature.same_symm h))
    | true =>
      have hy : y.isExpression = false := by simpa [hx] using hkind
      exact .inr ((signature_same_iff_posesAs hy hx).1 h)

end IndexKey

/-! ## Indexes -/

namespace Index

/-- The text of the condition of an index, empty if it has none. -/
def conditionText (index : Index) : Text :=
  match index.predicate with
  | .text condition => condition
  | _ => ""

/-- Two indexes can stand in for each other: they have the same keys, columns as columns and
expressions as expressions, and the same condition up to blanks outside quotes. -/
structure Interchangeable (a b : Index) : Prop where
  /-- The keys agree, one by one. -/
  keys : List.Forall₂ IndexKey.Agrees a.keys b.keys
  /-- The conditions are the same up to blanks outside quotes. -/
  condition : a.conditionText.collapseOutside = b.conditionText.collapseOutside

/-- The condition that is compared is the text of it with all blanks collapsed. -/
theorem condition_eq_collapse {index : Index} {condition : Text}
    (h : index.condition = .ok condition) : condition = index.conditionText.collapse := by
  cases hpredicate : index.predicate with
  | text text =>
    simp only [Index.condition, hpredicate, Except.ok.injEq] at h
    simp only [conditionText, hpredicate, h]
  | null | bool _ | int _ | float _ | list _ | map _ =>
    have hnothing : index.conditionText.collapse = "" := by
      simp only [conditionText, hpredicate]
      rfl
    simp only [Index.condition, hpredicate] at h
    rw [hnothing]
    split at h
    · cases h
    · exact (Except.ok.inj h).symm

/-- Where each key agrees with its counterpart or one of the two poses as the other one, all agree
exactly if none poses. -/
theorem all_agree_iff
    (h : List.Forall₂ (fun x y => x.Agrees y ∨ x.PosesAs y ∨ y.PosesAs x) a.keys b.keys) :
    List.Forall₂ IndexKey.Agrees a.keys b.keys ↔
      ∀ pair ∈ a.keys.zip b.keys, ¬(pair.1.PosesAs pair.2 ∨ pair.2.PosesAs pair.1) := by
  rw [List.forall₂_iff_zip] at h
  rw [List.forall₂_iff_zip, and_iff_right h.1]
  constructor
  · rintro hagrees ⟨x, y⟩ hpair
    exact (hagrees hpair).not_posesAs
  · intro hnone x y hpair
    exact (h.2 hpair).resolve_right (hnone (x, y) hpair)

/-- The keys of indexes with the same signature agree one by one, or one poses as the other. -/
theorem Matches.keys_agree_or_pose (h : a.Matches b) :
    List.Forall₂ (fun x y => x.Agrees y ∨ x.PosesAs y ∨ y.PosesAs x) a.keys b.keys := by
  have hsame := KeySignature.allSame_iff.1 h
  rw [signature, signature, List.forall₂_map_left_iff, List.forall₂_map_right_iff] at hsame
  exact hsame.imp fun _ _ => IndexKey.agrees_or_poses

end Index

/-- A finding that gives identity as its reason was made about a pair with the same signature and
the same condition up to blanks. -/
theorem exists_matches_of_identical (h : duplicatedIndexes.run s t = .ok findings)
    (hf : f ∈ findings) (hreason : f.metadata.get "reason" = .text "identical") :
    ∃ a b, s.Compares a b ∧ f.objects = [a.qualifiedName, b.qualifiedName] ∧ a.Matches b ∧
      ∃ condition, a.condition = .ok condition ∧ b.condition = .ok condition := by
  rcases (mem_duplicatedIndexes h).1 hf with ⟨index, -, -, rfl⟩ | hpair
  · cases hreason
  · obtain ⟨a, b, redundancy, hab, hredundancy, hfinding⟩ := hpair
    obtain ⟨hoverlaps, hholds⟩ := (hab.redundancy?_iff h).1 hredundancy
    have hobjects := (reportsPair_of_redundancyFinding hab.le hfinding).objects
    have hrecorded := (recorded_of_redundancyFinding hfinding).1
    have hmatches : a.Matches b := by
      cases redundancy with
      | bothNeeded => exact hholds.1
      | identical redundant kept => exact hholds.2.1
      | beginning shorter longer =>
        have hdiffers : (.text "identical" : Value) ≠ .text "prefix" := by decide
        exact (hdiffers (hreason.symm.trans hrecorded)).elim
    exact ⟨a, b, hab, hobjects, hmatches, hoverlaps.condition⟩

/-- Two indexes that are reported as identical have as many keys, each of which agrees with its
counterpart or is a column that poses as an expression, and conditions that are the same up to all
blanks. They can stand in for each other exactly if no key poses as its counterpart and
the quoted parts of the conditions are the same. -/
theorem identical_interchangeable_iff (h : duplicatedIndexes.run s t = .ok findings)
    (hf : f ∈ findings) (hreason : f.metadata.get "reason" = .text "identical") :
    ∃ a ∈ s.indexes, ∃ b ∈ s.indexes, a ≠ b ∧ f.objects = [a.qualifiedName, b.qualifiedName] ∧
      List.Forall₂ (fun x y => x.Agrees y ∨ x.PosesAs y ∨ y.PosesAs x) a.keys b.keys ∧
      a.conditionText.collapse = b.conditionText.collapse ∧
      (a.Interchangeable b ↔
        (∀ pair ∈ a.keys.zip b.keys, ¬(pair.1.PosesAs pair.2 ∨ pair.2.PosesAs pair.1)) ∧
          a.conditionText.quotedPart = b.conditionText.quotedPart) := by
  obtain ⟨a, b, hab, hobjects, hmatches, condition, ha, hb⟩ :=
    exists_matches_of_identical h hf hreason
  have hkeys := hmatches.keys_agree_or_pose
  have hcollapse : a.conditionText.collapse = b.conditionText.collapse := by
    rw [← Index.condition_eq_collapse ha, ← Index.condition_eq_collapse hb]
  have hne : a ≠ b := fun heq => hab.ne (congrArg Index.qualifiedName heq)
  refine ⟨a, hab.left_mem, b, hab.right_mem, hne, hobjects, hkeys, hcollapse, ?_⟩
  rw [← Index.all_agree_iff hkeys]
  constructor
  · intro hinterchangeable
    exact ⟨hinterchangeable.keys, (Text.collapseOutside_eq_iff.1 hinterchangeable.condition).2⟩
  · rintro ⟨hagree, hquoted⟩
    exact ⟨hagree, Text.collapseOutside_eq_iff.2 ⟨hcollapse, hquoted⟩⟩

/-- An index on a column whose name is an expression in parentheses. -/
def lowerColumn : Index := plainIndex "public" "orders" "by_lower_column" ["(lower(note))"]

/-- An index on this expression. -/
def lowerNote : Index :=
  { plainIndex "public" "orders" "by_lower_note" [] with
    keys := [{ expression := .text "lower(note)" }] }

/-- An index of the days on which a note was made. -/
def notedDays (name note : String) : Index :=
  { plainIndex "public" "orders" name ["day"] with
    predicate := .text ("note = '" ++ note ++ "'" : String) }

/-- A table with both indexes on what looks like the expression, and with two indexes of days for
notes that differ in a blank. -/
def lookalikeOrders : Snapshot :=
  { bareSnapshot with
    indexes := [lowerColumn, lowerNote, notedDays "by_day_one" "a b", notedDays "by_day_two" "a  b"]
    indexes_nodup := by decide }

/-- Both pairs are reported as identical. -/
theorem lookalikeOrders_reported : ∃ findings,
    duplicatedIndexes.run lookalikeOrders {} = .ok findings ∧
      (∃ f ∈ findings, f.metadata.get "reason" = .text "identical" ∧
        f.objects = [lowerColumn.qualifiedName, lowerNote.qualifiedName]) ∧
      ∃ f ∈ findings, f.metadata.get "reason" = .text "identical" ∧
        f.objects = [(notedDays "by_day_one" "a b").qualifiedName,
          (notedDays "by_day_two" "a  b").qualifiedName] := by
  have hruns : (duplicatedIndexes.run lookalikeOrders {}).toOption.any (fun findings =>
      findings.any (fun f => f.metadata.get "reason" = .text "identical" ∧
        f.objects = [lowerColumn.qualifiedName, lowerNote.qualifiedName]) &&
      findings.any fun f => f.metadata.get "reason" = .text "identical" ∧
        f.objects = [(notedDays "by_day_one" "a b").qualifiedName,
          (notedDays "by_day_two" "a  b").qualifiedName]) = true := by
    decide +kernel
  obtain ⟨findings, hfindings, hboth⟩ := Traversal.exists_ok_of_toOption hruns
  rw [Bool.and_eq_true, List.any_eq_true, List.any_eq_true] at hboth
  obtain ⟨⟨f, hf, hsays⟩, g, hg, hsays'⟩ := hboth
  exact ⟨findings, hfindings, ⟨f, hf, of_decide_eq_true hsays⟩, g, hg, of_decide_eq_true hsays'⟩

/-- One of the two pairs is not interchangeable for what its keys are. -/
theorem identical_interchangeable_iff_lookalike : ∃ findings,
    duplicatedIndexes.run lookalikeOrders {} = .ok findings ∧ ∃ f ∈ findings,
      f.metadata.get "reason" = .text "identical" ∧
        ∃ a ∈ lookalikeOrders.indexes, ∃ b ∈ lookalikeOrders.indexes, a ≠ b ∧
          f.objects = [a.qualifiedName, b.qualifiedName] ∧
          List.Forall₂ (fun x y => x.Agrees y ∨ x.PosesAs y ∨ y.PosesAs x) a.keys b.keys ∧
          a.conditionText.collapse = b.conditionText.collapse ∧
          (a.Interchangeable b ↔
            (∀ pair ∈ a.keys.zip b.keys, ¬(pair.1.PosesAs pair.2 ∨ pair.2.PosesAs pair.1)) ∧
              a.conditionText.quotedPart = b.conditionText.quotedPart) := by
  obtain ⟨findings, hfindings, ⟨f, hf, hreason, -⟩, -⟩ := lookalikeOrders_reported
  have hpair := identical_interchangeable_iff hfindings hf hreason
  exact ⟨findings, hfindings, f, hf, hreason, hpair⟩

/-- A column is not interchangeable with an expression. -/
theorem lowerColumn_not_interchangeable : ¬lowerColumn.Interchangeable lowerNote := by
  intro h
  obtain ⟨hagrees, -⟩ := List.forall₂_cons.1 h.keys
  exact absurd hagrees.kind (by decide)

/-- Notes that differ in a blank are different notes. -/
theorem notedDays_not_interchangeable :
    ¬(notedDays "by_day_one" "a b").Interchangeable (notedDays "by_day_two" "a  b") := by
  intro h
  exact absurd h.condition (by decide)

/-- Indexes that are reported as identical may not be interchangeable, for their keys or for their
conditions. -/
theorem lookalikeOrders_not_interchangeable : ∃ findings,
    duplicatedIndexes.run lookalikeOrders {} = .ok findings ∧
      (∃ f ∈ findings, f.metadata.get "reason" = .text "identical" ∧
        f.objects = [lowerColumn.qualifiedName, lowerNote.qualifiedName] ∧
          ¬lowerColumn.Interchangeable lowerNote) ∧
      ∃ f ∈ findings, f.metadata.get "reason" = .text "identical" ∧
        f.objects = [(notedDays "by_day_one" "a b").qualifiedName,
          (notedDays "by_day_two" "a  b").qualifiedName] ∧
          ¬(notedDays "by_day_one" "a b").Interchangeable (notedDays "by_day_two" "a  b") := by
  obtain ⟨findings, hfindings, ⟨f, hf, hreason, hobjects⟩, g, hg, hreason', hobjects'⟩ :=
    lookalikeOrders_reported
  exact ⟨findings, hfindings,
    ⟨f, hf, hreason, hobjects, lowerColumn_not_interchangeable⟩,
    g, hg, hreason', hobjects', notedDays_not_interchangeable⟩

end CatalogHealth
