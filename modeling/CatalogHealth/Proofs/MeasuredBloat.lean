import CatalogHealth.Proofs.Judging
import CatalogHealth.Proofs.Measuring
import CatalogHealth.Proofs.Rebuilding

/-!
# What is made of a measured density

The density of the leaf pages of an index tells the share of them that is free, and this share is
kept between zero and one. An index that was not measured, or whose measurement has no density, has
no share and is not reported. NaN, the density of an index without leaf pages, is no density either,
but it passes for a share of one. How near a share is to the exact one is outside the scope.
-/

namespace CatalogHealth

/-! ## Shares -/

/-- What is less than a number is at most that number. -/
theorem Number.le_of_lt {a b : Number} (h : a.lt b = true) : a.le b = true := by
  unfold lt at h
  unfold le
  split at h
  · rename_i x y _ _
    rcases x.le_total y with hle | hle
    · exact hle
    · simp [hle] at h
  · cases h

/-- A share of at most one is a ratio once it is no longer below zero. -/
theorem isRatio_of_le_one {share : Binary64} (h : (Number.float share).le (.int 1) = true) :
    isRatio (if (Number.int 0).lt (.float share) then share else .finite false 0) = true := by
  by_cases hpositive : (Number.int 0).lt (.float share) = true
  · rw [if_pos hpositive, isRatio, Number.le_of_lt hpositive, h]
    rfl
  · rw [if_neg hpositive]
    decide +kernel

/-- The share of free space is always a ratio. -/
theorem isRatio_unusedShare (density : Binary64) : isRatio (unusedShare density) = true := by
  refine isRatio_of_le_one ?_
  split
  · rename_i hless
    exact Number.le_of_lt hless
  · decide +kernel

/-- NaN passes for a share of one: it is not less than one, and one is more than zero. -/
theorem unusedShare_nan : unusedShare .nan = .one := by decide +kernel

/-! ## Densities -/

/-- The density that an answer holds in the first place of its first row. -/
def density? : Answer → Option Binary64
  | .ok ((value :: _) :: _) => value.real.toOption
  | _ => none

/-- The density that was measured; NaN is none. -/
def measuredDensity? (answer : Answer) : Option Binary64 := (density? answer).filter (· ≠ .nan)

/-- The answers of a measurement: a refusal, no row, or one row that holds a density or nothing. -/
inductive IsReading : Answer → Prop
  /-- The database refuses to measure. -/
  | refused {fault : Fault} (h : fault.kind = .database) : IsReading (.error fault)
  /-- There is no row. -/
  | noRow : IsReading (.ok [])
  /-- There is no density. -/
  | noDensity : IsReading (.ok [[.null]])
  /-- There is what is read as a density, which may be NaN. -/
  | density {value : Value} {x : Binary64} (h : value.real = .ok x) : IsReading (.ok [[value]])

/-- Something is made of every answer of a measurement. -/
theorem IsReading.exists_bloat {answer : Answer} (h : IsReading answer) :
    ∃ estimate, bloatOfAnswer answer = .ok estimate := by
  cases h with
  | refused hkind => exact ⟨none, if_pos hkind⟩
  | noRow => exact ⟨none, rfl⟩
  | noDensity => exact ⟨none, rfl⟩
  | @density value x hdensity =>
    have hvalue : value ≠ .null := by
      rintro rfl
      cases hdensity
    exact ⟨some (unusedShare x), by rw [bloatOfAnswer, if_neg hvalue, hdensity]; rfl⟩

/-- What is made of an answer is the share of free space that its density tells. -/
theorem eq_of_bloatOfAnswer {answer : Answer} {estimate : Option Binary64}
    (h : bloatOfAnswer answer = .ok estimate) : estimate = (density? answer).map unusedShare := by
  unfold bloatOfAnswer at h
  split at h
  · split at h
    · cases h
      rfl
    · cases h
  · cases h
    rfl
  · cases h
  · rename_i value others rows
    split at h
    · rename_i hnull
      cases h
      rw [hnull]
      rfl
    · obtain ⟨x, hx, rfl⟩ := Traversal.map_eq_ok.1 h
      rw [density?, hx]
      rfl

/-- An estimate is one of a measurement: there is none without a measured density, and with one it
is a share between zero and one. -/
structure ShowsMeasurement (answer : Answer) (estimate : Option Binary64) : Prop where
  /-- Without a measured density there is no estimate. -/
  unmeasured : measuredDensity? answer = none → estimate = none
  /-- With one the estimate is a ratio. -/
  measured : ∀ x, measuredDensity? answer = some x →
    ∃ ratio, estimate = some ratio ∧ isRatio ratio = true

/-- Only NaN is taken for a measured density without being one. -/
theorem showsMeasurement_iff {answer : Answer} {estimate : Option Binary64}
    (h : bloatOfAnswer answer = .ok estimate) :
    ShowsMeasurement answer estimate ↔ density? answer ≠ some .nan := by
  rw [eq_of_bloatOfAnswer h]
  constructor
  · intro hshows hnan
    have hnone := hshows.unmeasured (by rw [measuredDensity?, hnan]; rfl)
    rw [hnan] at hnone
    cases hnone
  · intro hnan
    refine ⟨fun hnone => ?_, fun x hx => ?_⟩
    · cases hdensity : density? answer with
      | none => rfl
      | some x =>
        rw [hdensity, ne_eq, Option.some.injEq] at hnan
        simp [measuredDensity?, hdensity, hnan] at hnone
    · rw [measuredDensity?, Option.filter_eq_some_iff] at hx
      rw [hx.1]
      exact ⟨_, rfl, isRatio_unusedShare x⟩

/-! ## Reports -/

variable {t : Thresholds} {s : Snapshot} {index : Index}

/-- Without an estimate an index is not bloated. -/
theorem Index.not_isBloated (h : index.bloatRatio = none) : ¬index.IsBloated t := by
  rintro ⟨ratio, hverdict⟩
  rw [h] at hverdict
  cases hverdict

/-- An index is bloated exactly if its estimate reaches both thresholds. -/
theorem Index.isBloated_iff {ratio : Binary64} (h : index.bloatRatio = some ratio)
    (hratio : isRatio ratio = true) : index.IsBloated t ↔ t.ReachedBy index.sizeBytes ratio := by
  rw [IsBloated, h]
  constructor
  · rintro ⟨reported, hreported⟩
    obtain hverdict | ⟨_, ⟨rfl⟩, ⟨hverdict, -⟩ | ⟨-, -, hreached⟩⟩ := bloatVerdict_cases hreported
    · cases hverdict
    · cases hverdict
    · exact hreached
  · exact fun hreached => ⟨ratio, bloatVerdict_of_reachedBy hratio hreached⟩

/-- If all estimates are ratios, the indexes that are reported are the bloated ones. -/
theorem reported_iff_isBloated {found : List Finding} (hrun : bloatedIndexes.run s t = .ok found)
    (hratios : ∀ other ∈ s.indexes, ∀ ratio, other.bloatRatio = some ratio → isRatio ratio = true)
    (hindex : index ∈ s.indexes) :
    (∃ f ∈ found, index.qualifiedName ∈ f.objects) ↔ index.IsBloated t := by
  constructor
  · rintro ⟨f, hf, hobject⟩
    obtain ⟨other, hother, verdict, hverdict, hreports⟩ := (mem_bloatedIndexes hrun).1 hf
    cases verdict with
    | acceptable => exact hreports.elim
    | outOfRange ratio =>
      obtain hnone | ⟨_, hestimate, ⟨-, hrange⟩ | ⟨hnone, -⟩⟩ := bloatVerdict_cases hverdict
      · cases hnone
      · cases hrange.symm.trans (hratios other hother _ hestimate)
      · cases hnone
    | bloated ratio =>
      rw [(reportsIndex_of_bloatedIndexFinding hreports).objects, List.mem_singleton] at hobject
      rw [s.index_eq hindex hother hobject]
      exact ⟨ratio, hverdict⟩
  · rintro ⟨ratio, hverdict⟩
    obtain ⟨f, hf, hfinding⟩ := exists_bloatedIndexFinding hrun hindex hverdict
    refine ⟨f, hf, ?_⟩
    rw [(reportsIndex_of_bloatedIndexFinding hfinding).objects]
    exact List.mem_singleton_self _

/-! ## Measured indexes -/

/-- The estimate of an index is the share that the density in its answer tells. -/
theorem Index.EstimatedBy.bloatRatio_eq {answer? : Option Answer} (h : index.EstimatedBy answer?) :
    index.bloatRatio = (answer?.bind density?).map unusedShare := by
  cases answer? with
  | none => exact h
  | some answer => exact eq_of_bloatOfAnswer h

/-- The only density that was not measured is NaN. -/
theorem density?_of_unmeasured {answer? : Option Answer}
    (h : answer?.bind measuredDensity? = none) :
    answer?.bind density? = none ∨ answer?.bind density? = some .nan := by
  cases answer? with
  | none => exact .inl rfl
  | some answer =>
    change (density? answer).filter (· ≠ .nan) = none at h
    change density? answer = none ∨ density? answer = some .nan
    cases hdensity : density? answer with
    | none => exact .inl rfl
    | some x =>
      rw [hdensity] at h
      simpa using h

/-- An index without a measured density is bloated exactly if NaN was read as its density and a
share of one reaches the thresholds. -/
theorem Index.EstimatedBy.isBloated_iff {answer? : Option Answer} (h : index.EstimatedBy answer?)
    (hunmeasured : answer?.bind measuredDensity? = none) : index.IsBloated t ↔
      answer?.bind density? = some .nan ∧ t.ReachedBy index.sizeBytes .one := by
  have hestimate := h.bloatRatio_eq
  rcases density?_of_unmeasured hunmeasured with hnone | hnan
  · rw [hnone] at hestimate ⊢
    exact iff_of_false (Index.not_isBloated hestimate) (by rintro ⟨⟨⟩, -⟩)
  · rw [hnan, Option.map_some, unusedShare_nan] at hestimate
    rw [Index.isBloated_iff hestimate (unusedShare_nan ▸ isRatio_unusedShare .nan)]
    exact (and_iff_right hnan).symm

/-- What a snapshot that was read with measurements says about its indexes, each with the answer to
its measurement. -/
structure Snapshot.JudgedByDensity (s : Snapshot) (answers : List Answer) : Prop where
  /-- Each estimate is a ratio. -/
  ratios : ∀ index ∈ s.indexes, ∀ ratio, index.bloatRatio = some ratio → isRatio ratio = true
  /-- An index without a measured density is reported as bloated exactly if NaN was read as its
  density and a share of one reaches the thresholds. -/
  unmeasured : ∀ pair ∈ takeAnswers s.indexes answers, pair.2.bind measuredDensity? = none →
    ∀ t found, bloatedIndexes.run s t = .ok found →
      ((∃ f ∈ found, pair.1.qualifiedName ∈ f.objects) ↔
        pair.2.bind density? = some .nan ∧ t.ReachedBy pair.1.sizeBytes .one)

/-- A snapshot that is read with measurements is judged by the densities. -/
theorem Snapshot.judgedByDensity {db : Database} {schemas : List Text} {database : Value}
    {log : List SessionEvent}
    (h : Session.runOn db (Session.readSnapshot db schemas true database) = (.ok s, log)) :
    s.JudgedByDensity db.measurements := by
  have hestimated := (Session.measurements_of_readSnapshot h).2
  have hindexes := takeAnswers_indexes s.indexes db.measurements
  have hratios : ∀ index ∈ s.indexes, ∀ ratio, index.bloatRatio = some ratio →
      isRatio ratio = true := by
    intro index hindex ratio hratio
    rw [← hindexes] at hindex
    obtain ⟨pair, hpair, rfl⟩ := List.mem_map.1 hindex
    rw [(hestimated pair hpair).bloatRatio_eq] at hratio
    obtain ⟨x, -, rfl⟩ := Option.map_eq_some_iff.1 hratio
    exact isRatio_unusedShare x
  refine ⟨hratios, fun pair hpair hunmeasured t found hrun => ?_⟩
  have hindex : pair.1 ∈ s.indexes := hindexes ▸ List.mem_map_of_mem hpair
  rw [reported_iff_isBloated hrun hratios hindex]
  exact (hestimated pair hpair).isBloated_iff hunmeasured

/-- What is made of an answer to a measurement is an estimate of it exactly unless the density is
NaN. In a snapshot that was read with measurements each estimate is a ratio, and an index without a
measured density is reported as bloated exactly if NaN was read as its density and a share of one
reaches the thresholds. -/
theorem unmeasured_indexes_reported_iff {answer : Answer} (hreading : IsReading answer) :
    (∃ estimate, bloatOfAnswer answer = .ok estimate ∧
      (ShowsMeasurement answer estimate ↔ density? answer ≠ some .nan)) ∧
    ∀ (db : Database) (schemas : List Text) (database : Value) (s : Snapshot)
      (log : List SessionEvent),
      Session.runOn db (Session.readSnapshot db schemas true database) = (.ok s, log) →
        s.JudgedByDensity db.measurements := by
  refine ⟨?_, fun _ _ _ _ _ h => Snapshot.judgedByDensity h⟩
  obtain ⟨estimate, hestimate⟩ := hreading.exists_bloat
  exact ⟨estimate, hestimate, showsMeasurement_iff hestimate⟩

/-- A database with an index without leaf pages and one whose measurement has no row. -/
def leaflessDays : Database :=
  indexedOrders [("public", "by_day"), ("public", "by_shop")] [.ok [[.float .nan]]]

/-- A density tells an estimate. Of two indexes without a measured density the one without leaf
pages is reported, and the one without a row is not. -/
theorem unmeasured_indexes_reported_iff_leaflessDays :
    (∃ estimate, bloatOfAnswer (.ok [[.float .one]]) = .ok estimate ∧
      ShowsMeasurement (.ok [[.float .one]]) estimate) ∧
    ∃ s log, Session.runOn leaflessDays
        (Session.readSnapshot leaflessDays [] true (.text "shop")) = (.ok s, log) ∧
      ∃ found, bloatedIndexes.run s {} = .ok found ∧
        ∃ leafless ∈ takeAnswers s.indexes leaflessDays.measurements,
          ∃ rowless ∈ takeAnswers s.indexes leaflessDays.measurements,
            (∃ f ∈ found, leafless.1.qualifiedName ∈ f.objects) ∧
              ¬∃ f ∈ found, rowless.1.qualifiedName ∈ f.objects := by
  have hread : (Session.runOn leaflessDays (Session.readSnapshot leaflessDays [] true
      (.text "shop"))).1.toOption.any (fun s =>
        (bloatedIndexes.run s {}).toOption.any (fun _ => true) &&
        (takeAnswers s.indexes leaflessDays.measurements).any (fun pair =>
          pair.2 = some (.ok [[.float .nan]]) && pair.1.sizeBytes = 8192) &&
        (takeAnswers s.indexes leaflessDays.measurements).any fun pair =>
          pair.2 = some (.ok [])) = true := by
    decide +kernel
  obtain ⟨s, hs, hfacts⟩ := Traversal.exists_ok_of_toOption hread
  simp only [Bool.and_eq_true, List.any_eq_true, decide_eq_true_eq] at hfacts
  obtain ⟨⟨hran, leafless, hleafless, hnan, hsize⟩, rowless, hrowless, hnone⟩ := hfacts
  obtain ⟨found, hfound, -⟩ := Traversal.exists_ok_of_toOption hran
  have hreading : IsReading (.ok [[.float .one]]) := .density rfl
  obtain ⟨⟨estimate, hestimate, hshows⟩, hruns⟩ := unmeasured_indexes_reported_iff hreading
  have hrun : Session.runOn leaflessDays (Session.readSnapshot leaflessDays [] true
      (.text "shop")) = (.ok s, _) := Prod.ext hs rfl
  have hunmeasured := (hruns _ _ _ _ _ hrun).unmeasured
  have hreached : ({} : Thresholds).ReachedBy leafless.1.sizeBytes .one := by
    rw [hsize]
    exact ⟨by decide +kernel, by decide +kernel⟩
  refine ⟨⟨estimate, hestimate, hshows.2 (by decide +kernel)⟩, s, _, hrun, found, hfound,
    leafless, hleafless, rowless, hrowless, ?_, fun hreported => ?_⟩
  · exact (hunmeasured leafless hleafless (by rw [hnan]; rfl) {} found hfound).2
      ⟨by rw [hnan]; rfl, hreached⟩
  · have hdensity := ((hunmeasured rowless hrowless (by rw [hnone]; rfl) {} found hfound).1
      hreported).1
    rw [hnone] at hdensity
    cases hdensity

/-- NaN is made an estimate of one, and the index without leaf pages, which has no measured density,
is reported with the thresholds that are given by default. -/
theorem leaflessDays_reported_unmeasured :
    measuredDensity? (.ok [[.float .nan]]) = none ∧
      bloatOfAnswer (.ok [[.float .nan]]) = .ok (some .one) ∧
      (Session.runOn leaflessDays (Session.readSnapshot leaflessDays [] true
        (.text "shop"))).1.toOption.any (fun s =>
          (bloatedIndexes.run s {}).toOption.any fun found =>
            (takeAnswers s.indexes leaflessDays.measurements).any fun pair =>
              pair.2.bind measuredDensity? = none &&
                found.any fun f => pair.1.qualifiedName ∈ f.objects) = true := by
  decide +kernel

end CatalogHealth
