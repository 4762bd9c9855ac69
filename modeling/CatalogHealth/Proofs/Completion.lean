import CatalogHealth.Proofs.Locality
import CatalogHealth.Proofs.SequenceRoom
import CatalogHealth.Snapshot.Document

/-!
# When no check fails

A document may put any value in the place of a name, a condition or a position, and an integer in
it may have any size. With accepted thresholds the built-in checks all run to their end exactly on
the snapshots in which every object that they come to judge can be judged. Which values can be read
from a document is outside the scope of this module.
-/

namespace CatalogHealth

/-- What it takes to judge all objects of a snapshot. -/
structure Snapshot.Judgeable (s : Snapshot) (t : Thresholds) : Prop where
  /-- The indexes that are compared with each other. -/
  pairs : ∀ a b, s.Compares a b → PairJudgeable a b
  /-- The indexes that are unused. -/
  unused : ∀ index ∈ s.indexes, index.UseJudgeable s t
  /-- The indexes that are bloated. -/
  bloatedIndexes : ∀ index ∈ s.indexes, BloatJudgeable t index.sizeBytes index.bloatRatio
  /-- The tables that are bloated. -/
  bloatedTables : ∀ table ∈ s.tables, BloatJudgeable t table.sizeBytes table.bloatRatio
  /-- The foreign keys that have columns. -/
  foreignKeys : ∀ key ∈ s.constraints, key.kind = .foreignKey → key.columns ≠ [] →
    key.CoverJudgeable s
  /-- The sequences that move, stop at their end and have a position. -/
  sequences : ∀ seq ∈ s.sequences, seq.cycle = false → seq.lastValue ≠ .null →
    seq.increment ≠ 0 → seq.RoomJudgeable t

/-- With accepted thresholds the built-in checks run to their end exactly if all objects can be
judged: invalid indexes, tables without a primary key and unvalidated constraints always can. -/
theorem exists_run_iff_judgeable {s : Snapshot} {t : Thresholds} (ht : t.AreNumbers) :
    (∀ check ∈ builtinChecks, ∃ found, check.run s t = .ok found) ↔ s.Judgeable t := by
  have hinvalid : ∃ found, invalidIndexes.run s t = .ok found := ⟨_, rfl⟩
  have hkeyless : ∃ found, tablesWithoutPrimaryKey.run s t = .ok found := ⟨_, rfl⟩
  have hunvalidated : ∃ found, notValidConstraints.run s t = .ok found := ⟨_, rfl⟩
  simp only [builtinChecks, List.forall_mem_cons, hinvalid, hkeyless, hunvalidated,
    exists_duplicatedIndexes_iff, exists_unusedIndexes_iff ht, exists_bloatedIndexes_iff ht,
    exists_bloatedTables_iff ht, exists_foreignKeysWithoutIndex_iff,
    exists_sequenceOverflow_iff ht]
  constructor
  · rintro ⟨-, hpairs, hunused, hindexes, -, htables, hkeys, -, hsequences, -⟩
    exact ⟨hpairs, hunused, hindexes, htables, hkeys, hsequences⟩
  · intro h
    exact ⟨trivial, h.pairs, h.unused, h.bloatedIndexes, trivial, h.bloatedTables, h.foreignKeys,
      trivial, h.sequences, List.forall_mem_nil _⟩

/-- Accepted thresholds always lead to a report, in which no check failed exactly if every object
of the snapshot that the checks come to judge can be judged. -/
theorem failedCount_eq_zero_iff_judgeable (s : Snapshot) {t : Thresholds}
    (hvalid : t.validate = .ok ()) : ∃ report, evaluate s { thresholds := t } = .ok report ∧
      (report.failedCount = 0 ↔ s.Judgeable t) := by
  refine ⟨_, evaluate_builtin.2 ⟨hvalid, rfl⟩, ?_⟩
  rw [failedCount_reportOf_eq_zero_iff,
    exists_run_iff_judgeable (Thresholds.areNumbers_of_validate hvalid)]

/-- A sequence near its end beside nested indexes. -/
def spentSequence : Snapshot :=
  { nestedIndexes with
    sequences :=
      [{ schema := .text "public", name := .text "order_ids", dataType := .text "integer"
         lastValue := .int 2147483000 }]
    sequences_nodup := by decide }

/-- On a sequence near its end and nested indexes every check runs to its end, and both are
reported. -/
theorem failedCount_eq_zero_iff_judgeable_spentSequence :
    Thresholds.validate {} = .ok () ∧ spentSequence.Judgeable {} ∧
      ∃ report, evaluate spentSequence {} = .ok report ∧ report.failedCount = 0 ∧
        report.findings.map Finding.checkName =
          ["sequence_overflow", "duplicated_indexes", "duplicated_indexes",
           "duplicated_indexes"] := by
  have hvalid : Thresholds.validate {} = .ok () := by decide +kernel
  have hruns : (evaluate spentSequence {}).toOption.any (fun report =>
      report.failedCount = 0 ∧ report.findings.map Finding.checkName =
        ["sequence_overflow", "duplicated_indexes", "duplicated_indexes",
         "duplicated_indexes"]) = true := by
    decide +kernel
  obtain ⟨report, hreport, hfacts⟩ := Traversal.exists_ok_of_toOption hruns
  obtain ⟨hfailed, hnames⟩ := of_decide_eq_true hfacts
  obtain ⟨report', hreport', hiff⟩ := failedCount_eq_zero_iff_judgeable spentSequence hvalid
  cases hreport.symm.trans hreport'
  exact ⟨hvalid, hiff.1 hfailed, report, hreport, hfailed, hnames⟩

/-- A document with a sequence whose position is a text. -/
def textPosition : Value :=
  .map [(.text "sequences", .list
    [.map [(.text "name", .text "order_ids"), (.text "last_value", .text "5")]])]

/-- The document is accepted, and so are the thresholds by default, but the check for sequences
fails. -/
theorem textPosition_fails : ∃ s report, Snapshot.ofDocument textPosition = .ok s ∧
    Thresholds.validate {} = .ok () ∧ evaluate s { thresholds := {} } = .ok report ∧
      report.failedCount = 1 ∧
      report.findings.map Finding.checkName = [sequenceOverflow.name] := by
  have hfails : (Snapshot.ofDocument textPosition).toOption.any (fun s =>
      (evaluate s {}).toOption.any fun report => report.failedCount = 1 ∧
        report.findings.map Finding.checkName = [sequenceOverflow.name]) = true := by
    decide +kernel
  obtain ⟨s, hs, hreport⟩ := Traversal.exists_ok_of_toOption hfails
  obtain ⟨report, hreport, hfacts⟩ := Traversal.exists_ok_of_toOption hreport
  obtain ⟨hone, hnames⟩ := of_decide_eq_true hfacts
  exact ⟨s, report, hs, by decide +kernel, hreport, hone, hnames⟩

end CatalogHealth
