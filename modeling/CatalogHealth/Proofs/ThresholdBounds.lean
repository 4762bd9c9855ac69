import CatalogHealth.Proofs.ConfigurationUse

/-!
# What thresholds are accepted

A threshold should be an amount, a number that is not negative, and the two that are ratios should
be at most one. The check of the thresholds looks for what is out of these bounds instead: it
refuses a value that is no number, a number below zero and a ratio above one. NaN stands on neither
side of a bound, so the two readings come apart there, and only there, in what is accepted. What is
refused is refused as unacceptable configuration unless the complaint would have to write a value
that cannot be written. What thresholds do once they are accepted is outside the scope.
-/

namespace CatalogHealth

/-! ## Bounds and numbers -/

theorem Binary64.extent?_eq_none_iff {x : Binary64} : x.extent? = none ↔ x = .nan := by
  cases x <;> simp [extent?]

theorem Number.extent?_int_ne_none (value : Int) : (int value).extent? ≠ none :=
  Option.some_ne_none _

/-- Two numbers that have places on the line are in order one way or the other. -/
theorem Number.lt_eq_not_le {a b : Number} (ha : a.extent? ≠ none) (hb : b.extent? ≠ none) :
    a.lt b = !b.le a := by
  obtain ⟨x, hx⟩ := Option.ne_none_iff_exists'.1 ha
  obtain ⟨y, hy⟩ := Option.ne_none_iff_exists'.1 hb
  simp only [lt, le, hx, hy]

namespace Value

/-- Whether a value is an amount: a number, and at least zero. A truth value is no number here. -/
def isAmount : Value → Bool
  | .int value => 0 ≤ value
  | .float x => (Number.int 0).le (.float x)
  | _ => false

/-- Whether a value is a number of at most one. -/
def isAtMostOne (value : Value) : Bool := value.number?.any fun number => number.le (.int 1)

/-- Whether a value is NaN or an amount. -/
def isAmountOrNaN (value : Value) : Bool := value = .float .nan || value.isAmount

end Value

/-! ## Bounds and thresholds -/

namespace Thresholds

variable {t : Thresholds}

/-- The thresholds in order. -/
def values (t : Thresholds) : List Value :=
  [t.bloatRatio, t.bloatMinSize, t.unusedIndexMaxScans, t.unusedIndexMinTableSize,
    t.sequenceRemainingRatio]

/-- The thresholds that are ratios, in order. -/
def ratios (t : Thresholds) : List Value := [t.bloatRatio, t.sequenceRemainingRatio]

/-- The thresholds are within their bounds. -/
structure InBounds (t : Thresholds) : Prop where
  /-- Each of them is an amount. -/
  amounts : ∀ value ∈ t.values, value.isAmount = true
  /-- The ratios are at most one. -/
  shares : ∀ ratio ∈ t.ratios, ratio.isAtMostOne = true

/-- A threshold is NaN, and the others are within their bounds. -/
structure HidesNaN (t : Thresholds) : Prop where
  /-- One of them is NaN. -/
  hidden : .float .nan ∈ t.values
  /-- Each of them is an amount otherwise. -/
  amounts : ∀ value ∈ t.values, value = .float .nan ∨ value.isAmount = true
  /-- The ratios are at most one otherwise. -/
  shares : ∀ ratio ∈ t.ratios, ratio = .float .nan ∨ ratio.isAtMostOne = true

/-- The first threshold that is neither NaN nor an amount cannot be written. -/
def RefusesUnwritten (t : Thresholds) : Prop :=
  ∃ value, t.values.find? (!·.isAmountOrNaN) = some value ∧ value.isWritable = false

/-- The thresholds are refused for a reason of some class. -/
def IsRefused (t : Thresholds) (kind : FaultClass) : Prop :=
  ∃ fault : Fault, t.validate = .error fault ∧ fault.kind = kind

/-- The thresholds are accepted if they are within their bounds, and otherwise refused as
unacceptable configuration. -/
structure JudgedByBounds (t : Thresholds) : Prop where
  /-- What is accepted is what is within the bounds. -/
  accepted : t.validate = .ok () ↔ t.InBounds
  /-- What is out of them is unacceptable configuration. -/
  refused : ¬t.InBounds → t.IsRefused .config

theorem ratios_subset_values : t.ratios ⊆ t.values := by
  simp [ratios, values]

/-- NaN is out of all bounds. -/
theorem InBounds.not_hidesNaN (h : t.InBounds) : ¬t.HidesNaN := fun hhides =>
  Bool.false_ne_true (h.amounts _ hhides.hidden)

end Thresholds

/-! ## The objections to thresholds -/

namespace Objection

/-- A threshold is objected to with a complaint, unless it is NaN or an amount. -/
theorem toThreshold_eq (value : Value) :
    toThreshold value = if value.isAmountOrNaN then none else some (complaint value) := by
  cases value with
  | int value =>
    by_cases h : value < 0
    · simp [toThreshold, Value.isAmountOrNaN, Value.isAmount, h]
    · simp [toThreshold, Value.isAmountOrNaN, Value.isAmount, h, not_lt.1 h]
  | float x =>
    by_cases hnan : x = .nan
    · subst hnan
      rfl
    · -- Every other number has a place on the line, where not below zero means at least zero.
      have hplace : (Number.float x).extent? ≠ none := mt Binary64.extent?_eq_none_iff.1 hnan
      have hlt : (Number.float x).lt (.int 0) = !(Number.int 0).le (.float x) :=
        Number.lt_eq_not_le hplace (Number.extent?_int_ne_none 0)
      have hamount : (Value.float x).isAmountOrNaN = (Number.int 0).le (.float x) := by
        simp [Value.isAmountOrNaN, Value.isAmount, hnan]
      rw [hamount]
      simp only [toThreshold, hlt]
      cases (Number.int 0).le (.float x) <;> rfl
  | null | bool _ | text _ | list _ | map _ => rfl

/-- A ratio that is NaN or an amount is objected to if it is above one. -/
theorem toRatio_eq {ratio : Value} (h : ratio.isAmountOrNaN = true) :
    toRatio ratio =
      if ratio = .float .nan ∨ ratio.isAtMostOne = true then none else some .config := by
  have hbound : ∀ number : Number, ratio.number? = some number → number.extent? ≠ none →
      ratio ≠ .float .nan → toRatio ratio =
        if ratio = .float .nan ∨ ratio.isAtMostOne = true then none else some .config := by
    intro number hnumber hplace hnan
    have hlt : (Number.int 1).lt number = !number.le (.int 1) :=
      Number.lt_eq_not_le (Number.extent?_int_ne_none 1) hplace
    simp only [toRatio, Value.isAtMostOne, hnumber, Option.any_some, hlt, hnan, false_or]
    cases number.le (.int 1) <;> rfl
  cases ratio with
  | int value => exact hbound _ rfl (Number.extent?_int_ne_none value) (by simp)
  | float x =>
    by_cases hnan : x = .nan
    · subst hnan
      rfl
    · exact hbound _ rfl (mt Binary64.extent?_eq_none_iff.1 hnan) (by simpa using hnan)
  | null | bool _ | text _ | list _ | map _ => cases h

/-- The objection to thresholds is the one to the first that is neither NaN nor an amount, or else
to a ratio above one. -/
theorem toThresholds_eq (t : Thresholds) :
    toThresholds t = ((t.values.find? (!·.isAmountOrNaN)).map complaint).or
      (t.ratios.findSome? toRatio) := by
  have hvalues : t.values.findSome? toThreshold =
      (t.values.find? (!·.isAmountOrNaN)).map complaint := by
    rw [List.find?_eq_findSome?_guard, List.map_findSome?]
    congr 1
    funext value
    rw [toThreshold_eq]
    cases h : value.isAmountOrNaN <;> simp [Option.guard, h]
  have hparts : toThresholds t = first (t.values.map toThreshold ++ t.ratios.map toRatio) := rfl
  rw [hparts, first, List.findSome?_append, List.findSome?_map, List.findSome?_map, ← hvalues]
  rfl

end Objection

/-! ## What is accepted and what is refused -/

namespace Thresholds

variable {t : Thresholds}

/-- Among the thresholds only NaN and amounts are accepted, and no ratio above one. -/
theorem validate_eq_ok_iff : t.validate = .ok () ↔
    (∀ value ∈ t.values, value.isAmountOrNaN = true) ∧
      ∀ ratio ∈ t.ratios, ratio = .float .nan ∨ ratio.isAtMostOne = true := by
  have hok : t.validate = .ok () ↔ Objection.toThresholds t = none := by
    rw [← Objection.ofUsing_validateThresholds, Traversal.failure_eq_none_iff]
    exact ⟨fun h => ⟨(), h⟩, fun ⟨_, h⟩ => h⟩
  rw [hok, Objection.toThresholds_eq, Option.or_eq_none_iff, Option.map_eq_none_iff,
    List.find?_eq_none, List.findSome?_eq_none_iff]
  simp only [Bool.not_eq_true', Bool.not_eq_false]
  refine and_congr_right fun hvalues => forall₂_congr fun ratio hratio => ?_
  rw [Objection.toRatio_eq (hvalues ratio (ratios_subset_values hratio)), ite_eq_left_iff]
  simp only [reduceCtorEq, imp_false, not_not]

/-- Accepted thresholds are within their bounds or hide NaN. -/
theorem validate_eq_ok_iff_inBounds_or_hidesNaN :
    t.validate = .ok () ↔ t.InBounds ∨ t.HidesNaN := by
  simp only [validate_eq_ok_iff, Value.isAmountOrNaN, Bool.or_eq_true, decide_eq_true_eq]
  constructor
  · rintro ⟨hvalues, hratios⟩
    by_cases hhidden : .float .nan ∈ t.values
    · exact .inr ⟨hhidden, hvalues, hratios⟩
    · refine .inl ⟨fun value hvalue => (hvalues value hvalue).resolve_left ?_,
        fun ratio hratio => (hratios ratio hratio).resolve_left ?_⟩
      · rintro rfl
        exact hhidden hvalue
      · rintro rfl
        exact hhidden (ratios_subset_values hratio)
  · rintro (h | h)
    · exact ⟨fun value hvalue => .inr (h.amounts value hvalue),
        fun ratio hratio => .inr (h.shares ratio hratio)⟩
    · exact ⟨h.amounts, h.shares⟩

theorem isRefused_iff {kind : FaultClass} :
    t.IsRefused kind ↔ Objection.toThresholds t = some kind := by
  rw [← Objection.ofUsing_validateThresholds, Traversal.failure_eq_some_iff]
  rfl

/-- The class of a refusal is told by the first threshold that is neither NaN nor an amount. -/
theorem IsRefused.kind_cases {kind : FaultClass} (h : t.IsRefused kind) :
    kind = .value ∧ t.RefusesUnwritten ∨ kind = .config ∧ ¬t.RefusesUnwritten := by
  rw [isRefused_iff, Objection.toThresholds_eq, Option.or_eq_some_iff, Option.map_eq_some_iff] at h
  unfold RefusesUnwritten
  rcases h with ⟨value, hvalue, rfl⟩ | ⟨hnone, hratio⟩
  · unfold Objection.complaint
    cases hwritable : value.isWritable with
    | false => exact .inl ⟨rfl, value, hvalue, hwritable⟩
    | true =>
      refine .inr ⟨rfl, ?_⟩
      rintro ⟨first, hfirst, hunwritten⟩
      obtain rfl := Option.some.inj (hfirst.symm.trans hvalue)
      exact Bool.false_ne_true (hunwritten.symm.trans hwritable)
  · rw [Option.map_eq_none_iff] at hnone
    refine .inr ⟨?_, fun ⟨_, hfirst, _⟩ => nomatch hnone.symm.trans hfirst⟩
    obtain ⟨ratio, hmem, hkind⟩ := List.exists_of_findSome?_eq_some hratio
    have hvalue : ratio.isAmountOrNaN = true := by
      simpa using List.find?_eq_none.1 hnone ratio (ratios_subset_values hmem)
    rw [Objection.toRatio_eq hvalue, Option.ite_none_left_eq_some] at hkind
    exact (Option.some.inj hkind.2).symm

theorem isRefused_value_iff : t.IsRefused .value ↔ t.RefusesUnwritten := by
  constructor
  · intro h
    rcases h.kind_cases with ⟨-, hunwritten⟩ | ⟨hkind, -⟩
    · exact hunwritten
    · cases hkind
  · rintro ⟨value, hvalue, hwritable⟩
    rw [isRefused_iff, Objection.toThresholds_eq, hvalue, Option.map_some, Option.some_or,
      Objection.complaint, hwritable]
    rfl

theorem isRefused_config_iff :
    t.IsRefused .config ↔ ¬t.InBounds ∧ ¬t.HidesNaN ∧ ¬t.RefusesUnwritten := by
  rw [← and_assoc, ← not_or, ← validate_eq_ok_iff_inBounds_or_hidesNaN]
  constructor
  · intro h
    rcases h.kind_cases with ⟨hkind, -⟩ | ⟨-, hwritten⟩
    · cases hkind
    · obtain ⟨fault, hfault, -⟩ := h
      exact ⟨fun hok => (nomatch hok.symm.trans hfault), hwritten⟩
  · rintro ⟨hrefused, hwritten⟩
    cases hfault : t.validate with
    | ok _ => exact absurd hfault hrefused
    | error fault =>
      have hkind : t.IsRefused fault.kind := ⟨fault, hfault, rfl⟩
      rcases hkind.kind_cases with ⟨-, hunwritten⟩ | ⟨hconfig, -⟩
      · exact absurd hunwritten hwritten
      · exact ⟨fault, hfault, hconfig⟩

/-- Thresholds are accepted exactly if they are within their bounds or hide NaN. They are refused as
just unacceptable exactly if the complaint would have to write a value that cannot be written, and
in all other cases as unacceptable configuration. So the bounds alone decide exactly if there is
neither a NaN among values that are within their bounds otherwise nor such a complaint. -/
theorem bounds_decide_iff (t : Thresholds) :
    (t.validate = .ok () ↔ t.InBounds ∨ t.HidesNaN) ∧
      (t.IsRefused .value ↔ t.RefusesUnwritten) ∧
      (t.IsRefused .config ↔ ¬t.InBounds ∧ ¬t.HidesNaN ∧ ¬t.RefusesUnwritten) ∧
      (t.JudgedByBounds ↔ ¬t.HidesNaN ∧ ¬t.RefusesUnwritten) := by
  refine ⟨validate_eq_ok_iff_inBounds_or_hidesNaN, isRefused_value_iff, isRefused_config_iff, ?_⟩
  constructor
  · intro h
    constructor
    · intro hhides
      have haccepted := validate_eq_ok_iff_inBounds_or_hidesNaN.2 (.inr hhides)
      exact (h.accepted.1 haccepted).not_hidesNaN hhides
    · intro hunwritten
      obtain ⟨fault, hfault, -⟩ := isRefused_value_iff.2 hunwritten
      have hout : ¬t.InBounds := fun hin => nomatch (h.accepted.2 hin).symm.trans hfault
      exact (isRefused_config_iff.1 (h.refused hout)).2.2 hunwritten
  · rintro ⟨hhides, hwritten⟩
    refine ⟨?_, fun hout => isRefused_config_iff.2 ⟨hout, hhides, hwritten⟩⟩
    rw [validate_eq_ok_iff_inBounds_or_hidesNaN]
    exact or_iff_left hhides

/-- The thresholds by default, but for a share of NaN. -/
def nanShare : Thresholds := { bloatRatio := .float .nan }

/-- A share of NaN is accepted, although it is no share between zero and one. -/
theorem share_nan_accepted :
    nanShare.validate = .ok () ∧ ¬nanShare.InBounds ∧ ¬nanShare.JudgedByBounds := by
  have haccepted : nanShare.validate = .ok () := by decide +kernel
  have hout : ¬nanShare.InBounds := fun hin =>
    Bool.false_ne_true (hin.amounts (.float .nan) (by simp [nanShare, values]))
  exact ⟨haccepted, hout, fun h => hout (h.accepted.1 haccepted)⟩

end Thresholds

end CatalogHealth
