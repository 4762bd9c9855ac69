import CatalogHealth.Check.Bloat
import CatalogHealth.Proofs.Traversal
import Mathlib.Tactic.NormNum
import Mathlib.Tactic.Ring

/-!
# The range of the binary64 format

A quotient is rounded to 53 digits, so it is taken for an infinity as soon as it reaches the middle
between the largest finite number and the next power of two. From this follows which integers have
a finite number nearest to them, of which two integers there is a quotient, and that a share of a
size that is in range is in range as well. How far a rounded number is from the exact one is outside
the scope of this module.
-/

namespace CatalogHealth

namespace Binary64

/-! ## Rounding to 53 digits -/

/-- A quotient is rounded to its integer part or to the integer after it. -/
theorem roundDiv_between (num den : Nat) :
    num / den ≤ roundDiv num den ∧ roundDiv num den ≤ num / den + 1 := by
  unfold roundDiv
  split
  · omega
  · split
    · omega
    · split <;> omega

/-- Because a half goes to the even neighbour, an even integer is reached from half a unit below
it on. -/
theorem le_roundDiv_iff {n num den : Nat} (h : 0 < den) (hn : 0 < n) (heven : n % 2 = 0) :
    n ≤ roundDiv num den ↔ (2 * n - 1) * den ≤ 2 * num := by
  have hsplit : den * (num / den) + num % den = num := Nat.div_add_mod num den
  have hrest : num % den < den := Nat.mod_lt _ h
  obtain ⟨hlower, hupper⟩ := roundDiv_between num den
  rcases Nat.lt_trichotomy n (num / den + 1) with hbelow | hnext | habove
  · have hmul : n * den ≤ num / den * den := Nat.mul_le_mul_right _ (by omega)
    have hcomm : num / den * den = den * (num / den) := Nat.mul_comm ..
    have hle : (2 * n - 1) * den ≤ 2 * (n * den) := by
      rw [← Nat.mul_assoc]
      exact Nat.mul_le_mul_right _ (by omega)
    exact iff_of_true (by omega) (by omega)
  · -- The integer after the integer part is reached by rounding up, and a half is rounded up
    -- because the integer part is odd.
    have hexact : (2 * n - 1) * den = 2 * (den * (num / den)) + den := by
      rw [hnext, show 2 * (num / den + 1) - 1 = 2 * (num / den) + 1 by omega]
      ring
    rw [hexact]
    unfold roundDiv
    split
    · omega
    · split
      · omega
      · split <;> omega
  · have hmul : (2 * (num / den + 1) + 1) * den ≤ (2 * n - 1) * den :=
      Nat.mul_le_mul_right _ (by omega)
    have hexact : (2 * (num / den + 1) + 1) * den = 2 * (den * (num / den)) + 3 * den := by ring
    exact iff_of_false (by omega) (by omega)

section Powers

variable {e num den : Nat}

/-- A quotient of fewer digits than a power of two stays below the middle of the last step in front
of that power. -/
theorem roundUnits_le_of_log2_le (hlog : (num / den).log2 ≤ e + 52) :
    roundUnits num den ≤ 2 ^ 53 * 2 ^ e := by
  have hspare : 2 ^ ((num / den).log2 + 1 - 53) ≤ 2 ^ e :=
    Nat.pow_le_pow_right (by omega) (by omega)
  have hdigits : num / den < 2 ^ 53 * 2 ^ ((num / den).log2 + 1 - 53) := by
    rw [← Nat.pow_add]
    exact Nat.lt_log2_self.trans_le (Nat.pow_le_pow_right (by omega) (by omega))
  have hquotient : num / (den * 2 ^ ((num / den).log2 + 1 - 53)) < 2 ^ 53 := by
    rw [← Nat.div_div_eq_div_mul]
    exact Nat.div_lt_of_lt_mul (by rwa [Nat.mul_comm] at hdigits)
  have hround := (roundDiv_between num (den * 2 ^ ((num / den).log2 + 1 - 53))).2
  exact Nat.mul_le_mul (hround.trans hquotient) hspare

/-- A quotient of more digits than a number below a power of two reaches that power. -/
theorem le_roundUnits_of_le_log2 (hlog : e + 54 ≤ (num / den).log2) :
    2 ^ (e + 54) ≤ roundUnits num den := by
  have hne : num / den ≠ 0 := by
    intro hzero
    simp [hzero] at hlog
  have hpow : 2 ^ (num / den).log2 = 2 ^ 52 * 2 ^ ((num / den).log2 + 1 - 53) := by
    rw [← Nat.pow_add]
    congr 1
    omega
  have hquotient : 2 ^ 52 ≤ num / (den * 2 ^ ((num / den).log2 + 1 - 53)) := by
    rw [← Nat.div_div_eq_div_mul, Nat.le_div_iff_mul_le (Nat.two_pow_pos _), ← hpow]
    exact Nat.log2_self_le hne
  have hround := (roundDiv_between num (den * 2 ^ ((num / den).log2 + 1 - 53))).1
  calc
    2 ^ (e + 54) ≤ 2 ^ (num / den).log2 := Nat.pow_le_pow_right (by omega) hlog
    _ = 2 ^ 52 * 2 ^ ((num / den).log2 + 1 - 53) := hpow
    _ ≤ roundUnits num den := Nat.mul_le_mul_right _ (hquotient.trans hround)

/-- A quotient of as many digits as the numbers just below a power of two is rounded to a multiple
of twice the step. -/
theorem roundUnits_of_log2_eq (hlog : (num / den).log2 = e + 53) :
    roundUnits num den = roundDiv num (den * 2 ^ (e + 1)) * 2 ^ (e + 1) := by
  unfold roundUnits
  rw [hlog]
  rfl

/-- A rounded quotient reaches a power of two exactly if the quotient reaches the middle of the
last step in front of that power. -/
theorem pow_le_roundUnits_iff (h : 0 < den) :
    2 ^ (e + 54) ≤ roundUnits num den ↔ (2 ^ 54 - 1) * 2 ^ e * den ≤ num := by
  have hpow : 2 ^ (e + 54) = 2 ^ 54 * 2 ^ e := by ring
  have hstep : 0 < 2 ^ e := Nat.two_pow_pos e
  have hlimit : (2 ^ 54 - 1) * 2 ^ e * den ≤ num ↔ (2 ^ 54 - 1) * 2 ^ e ≤ num / den :=
    (Nat.le_div_iff_mul_le h).symm
  rcases Nat.lt_trichotomy (num / den).log2 (e + 53) with hlow | hlast | hhigh
  · have hround := roundUnits_le_of_log2_le (e := e) (by omega : (num / den).log2 ≤ e + 52)
    have hquotient : num / den < 2 ^ 53 * 2 ^ e := by
      rw [← Nat.pow_add]
      exact Nat.lt_log2_self.trans_le (Nat.pow_le_pow_right (by omega) (by omega))
    rw [hlimit, hpow]
    exact iff_of_false (by omega) (by omega)
  · rw [roundUnits_of_log2_eq hlast]
    have htwice : 2 ^ (e + 54) = 2 ^ 53 * 2 ^ (e + 1) := by ring
    have hpos : 0 < den * 2 ^ (e + 1) := Nat.mul_pos h (Nat.two_pow_pos _)
    have heven : 2 ^ 53 % 2 = 0 := by norm_num
    rw [htwice, Nat.mul_le_mul_right_iff (Nat.two_pow_pos _),
      le_roundDiv_iff hpos (Nat.two_pow_pos 53) heven]
    have hexact : (2 * 2 ^ 53 - 1) * (den * 2 ^ (e + 1)) = 2 * ((2 ^ 54 - 1) * 2 ^ e * den) := by
      rw [show 2 * 2 ^ 53 - 1 = 2 ^ 54 - 1 by norm_num, Nat.pow_succ]
      generalize 2 ^ 54 - 1 = middle
      ring
    generalize (2 ^ 54 - 1) * 2 ^ e * den = middle at hexact ⊢
    generalize (2 * 2 ^ 53 - 1) * (den * 2 ^ (e + 1)) = doubled at hexact ⊢
    omega
  · have hround := le_roundUnits_of_le_log2 (e := e) (by omega : e + 54 ≤ (num / den).log2)
    have hquotient : 2 ^ 54 * 2 ^ e ≤ num / den := by
      have hne : num / den ≠ 0 := by
        intro hzero
        simp [hzero] at hhigh
      rw [← hpow]
      exact (Nat.pow_le_pow_right (by omega) (by omega)).trans (Nat.log2_self_le hne)
    rw [hlimit]
    exact iff_of_true hround (by omega)

/-- A quotient below the middle of the last step in front of a power of two is rounded to a number
below that middle. -/
theorem roundUnits_lt (h : 0 < den) (hlt : num < (2 ^ 54 - 1) * 2 ^ e * den) :
    roundUnits num den < (2 ^ 54 - 1) * 2 ^ e := by
  have hstep : 0 < 2 ^ e := Nat.two_pow_pos e
  have hbelow : roundUnits num den < 2 ^ (e + 54) := by
    by_contra hreach
    exact absurd ((pow_le_roundUnits_iff h).1 (Nat.not_lt.1 hreach)) (Nat.not_le.2 hlt)
  rcases Nat.lt_trichotomy (num / den).log2 (e + 53) with hlow | hlast | hhigh
  · have hround := roundUnits_le_of_log2_le (e := e) (by omega : (num / den).log2 ≤ e + 52)
    omega
  · rw [roundUnits_of_log2_eq hlast] at hbelow ⊢
    have hpow : 2 ^ (e + 54) = 2 ^ 53 * 2 ^ (e + 1) := by ring
    rw [hpow] at hbelow
    have hdigits := Nat.lt_of_mul_lt_mul_right hbelow
    have hround : roundDiv num (den * 2 ^ (e + 1)) * 2 ^ (e + 1) ≤ (2 ^ 53 - 1) * 2 ^ (e + 1) :=
      Nat.mul_le_mul_right _ (by omega)
    have hsucc : 2 ^ (e + 1) = 2 * 2 ^ e := by ring
    rw [hsucc] at hround ⊢
    omega
  · have hround := le_roundUnits_of_le_log2 (e := e) (by omega : e + 54 ≤ (num / den).log2)
    omega

end Powers

/-- A quotient of at least one unit is not rounded to zero. -/
theorem roundUnits_pos {num den : Nat} (h : 0 < num / den) : 0 < roundUnits num den := by
  have hspare : 2 ^ ((num / den).log2 + 1 - 53) ≤ num / den :=
    (Nat.pow_le_pow_right (by omega) (by omega)).trans (Nat.log2_self_le (by omega))
  have hquotient : 0 < num / (den * 2 ^ ((num / den).log2 + 1 - 53)) := by
    rw [← Nat.div_div_eq_div_mul]
    exact Nat.div_pos hspare (Nat.two_pow_pos _)
  have hround := (roundDiv_between num (den * 2 ^ ((num / den).log2 + 1 - 53))).1
  exact Nat.mul_pos (hquotient.trans_le hround) (Nat.two_pow_pos _)

/-! ## Integers in range -/

/-- The least positive integer that is rounded to an infinity: the middle between the largest
finite number and 2^1024. -/
def rangeLimit : Nat := (2 ^ 54 - 1) * Nat.pow 2 970

/-- Whether the number nearest to an integer is finite. -/
def InRange (i : Int) : Prop := i.natAbs < rangeLimit

instance : DecidablePred InRange := fun i => inferInstanceAs (Decidable (i.natAbs < rangeLimit))

theorem unitsPerOne_pos : 0 < unitsPerOne := by decide +kernel

theorem overflowUnits_eq : overflowUnits = 2 ^ (2044 + 54) := by decide +kernel

/-- The limit counted in units. -/
theorem rangeLimit_mul_unitsPerOne : rangeLimit * unitsPerOne = (2 ^ 54 - 1) * 2 ^ 2044 := by
  decide +kernel

/-- A count of units is rounded to an infinity from the limit on. -/
theorem ofUnits_eq (negative : Bool) {num den : Nat} (h : 0 < den) : ofUnits negative num den =
    if rangeLimit * unitsPerOne * den ≤ num then infinite negative
    else finite negative (roundUnits num den) := by
  have hreach : overflowUnits ≤ roundUnits num den ↔ rangeLimit * unitsPerOne * den ≤ num := by
    rw [overflowUnits_eq, rangeLimit_mul_unitsPerOne]
    exact pow_le_roundUnits_iff h
  simp only [ofUnits, hreach]

/-- A count of units below the limit is rounded to a count below the limit. -/
theorem roundUnits_lt_limit {num den : Nat} (h : 0 < den)
    (hlt : num < rangeLimit * unitsPerOne * den) :
    roundUnits num den < rangeLimit * unitsPerOne := by
  rw [rangeLimit_mul_unitsPerOne] at hlt ⊢
  exact roundUnits_lt h hlt

/-- A ratio is rounded to an infinity from the limit on. -/
theorem ofRatio_eq (negative : Bool) {num den : Nat} (h : 0 < den) : ofRatio negative num den =
    if rangeLimit * den ≤ num then infinite negative
    else finite negative (roundUnits (num * unitsPerOne) den) := by
  have hscale : rangeLimit * unitsPerOne * den ≤ num * unitsPerOne ↔ rangeLimit * den ≤ num := by
    rw [Nat.mul_right_comm, Nat.mul_le_mul_right_iff unitsPerOne_pos]
  simp only [ofRatio, ofUnits_eq negative h, hscale]

theorem inRange?_finite (negative : Bool) (units : Nat) :
    (finite negative units).inRange? = some (finite negative units) := rfl

theorem inRange?_infinite (negative : Bool) : (infinite negative).inRange? = none := rfl

/-- An integer in range has a finite number nearest to it, which is below the limit. -/
theorem exists_ofInt?_of_inRange {i : Int} (h : InRange i) : ∃ units,
    ofInt? i = some (finite (i < 0) units) ∧ units < rangeLimit * unitsPerOne ∧
      (units = 0 ↔ i = 0) := by
  have hlimit : ¬rangeLimit * 1 ≤ i.natAbs := by
    rw [Nat.mul_one]
    exact Nat.not_le.2 h
  have hlt : i.natAbs * unitsPerOne < rangeLimit * unitsPerOne * 1 := by
    rw [Nat.mul_one]
    exact Nat.mul_lt_mul_of_pos_right h unitsPerOne_pos
  refine ⟨roundUnits (i.natAbs * unitsPerOne) 1, ?_, roundUnits_lt_limit Nat.one_pos hlt, ?_⟩
  · rw [ofInt?, ofRatio_eq _ Nat.one_pos, if_neg hlimit, inRange?_finite]
  constructor
  · intro hzero
    by_contra hne
    have hpos : 0 < i.natAbs * unitsPerOne / 1 := by
      rw [Nat.div_one]
      exact Nat.mul_pos (Int.natAbs_pos.2 hne) unitsPerOne_pos
    exact (roundUnits_pos hpos).ne' hzero
  · rintro rfl
    rw [Int.natAbs_zero, Nat.zero_mul]
    rfl

/-- An integer out of range has no finite number nearest to it. -/
theorem ofInt?_of_not_inRange {i : Int} (h : ¬InRange i) : ofInt? i = none := by
  have hlimit : rangeLimit * 1 ≤ i.natAbs := by
    rw [Nat.mul_one]
    exact Nat.not_lt.1 h
  rw [ofInt?, ofRatio_eq _ Nat.one_pos, if_pos hlimit, inRange?_infinite]

/-- A share between zero and one is a finite number of at most as many units as one has. -/
theorem exists_units_of_isRatio {ratio : Binary64} (h : isRatio ratio = true) :
    ∃ negative units, ratio = finite negative units ∧ units ≤ unitsPerOne := by
  obtain ⟨hzero, hone⟩ := Bool.and_eq_true_iff.1 h
  cases ratio with
  | nan => exact absurd hzero (by decide)
  | infinite negative =>
    cases negative with
    | true => exact absurd hzero (by decide)
    | false => exact absurd hone (by decide)
  | finite negative units =>
    refine ⟨negative, units, rfl, ?_⟩
    simp only [Number.le, Number.extent?, extent?, Extent.le, decide_eq_true_eq] at hzero hone
    cases negative with
    | true => simp only [signedUnits] at hzero; omega
    | false => simp only [signedUnits] at hone; omega

/-- A share of a number below the limit is a finite number whose integer part is in range. -/
theorem exists_mul_of_isRatio {ratio : Binary64} (h : isRatio ratio = true) (negative : Bool)
    {units : Nat} (hunits : units < rangeLimit * unitsPerOne) : ∃ sign share,
      (finite negative units).mul ratio = finite sign share ∧
        share < rangeLimit * unitsPerOne := by
  obtain ⟨sign, part, rfl, hpart⟩ := exists_units_of_isRatio h
  have hlt : units * part < rangeLimit * unitsPerOne * unitsPerOne :=
    (Nat.mul_le_mul_left units hpart).trans_lt (Nat.mul_lt_mul_of_pos_right hunits unitsPerOne_pos)
  refine ⟨negative != sign, roundUnits (units * part) unitsPerOne, ?_,
    roundUnits_lt_limit unitsPerOne_pos hlt⟩
  simp only [mul, ofUnits_eq _ unitsPerOne_pos, if_neg (Nat.not_le.2 hlt)]

end Binary64

/-! ## Sizes -/

/-- Integers are in the order of their exact values. -/
theorem Number.le_int {a b : Int} : (int a).le (int b) = decide (a ≤ b) := by
  have hscale : a * Binary64.unitsPerOne ≤ b * Binary64.unitsPerOne ↔ a ≤ b :=
    Int.mul_le_mul_right (Int.natCast_pos.2 Binary64.unitsPerOne_pos)
  simp only [le, extent?, Extent.le, hscale]

/-- An integer can be converted exactly if it is in range. -/
theorem Number.exists_toFloat_int_iff {i : Int} :
    (∃ x, (Number.int i).toFloat = .ok x) ↔ Binary64.InRange i := by
  by_cases h : Binary64.InRange i
  · obtain ⟨units, hunits, -⟩ := Binary64.exists_ofInt?_of_inRange h
    rw [Number.toFloat, hunits]
    exact iff_of_true ⟨_, rfl⟩ h
  · rw [Number.toFloat, Binary64.ofInt?_of_not_inRange h]
    exact iff_of_false (by rintro ⟨x, ⟨⟩⟩) h

/-- A size can be shown exactly if it is in range. -/
theorem exists_wholeByteSize_iff {size : Int} :
    (∃ shown, wholeByteSize size = .ok shown) ↔ Binary64.InRange size := by
  rw [← Number.exists_toFloat_int_iff]
  constructor
  · rintro ⟨shown, h⟩
    obtain ⟨x, hx, -⟩ := Traversal.bind_eq_ok.1 h
    exact ⟨x, hx⟩
  · rintro ⟨x, hx⟩
    exact ⟨byteSize x, Traversal.bind_eq_ok.2 ⟨x, hx, rfl⟩⟩

/-- The integer part of a finite number below the limit is in range. -/
theorem exists_truncate_inRange (sign : Bool) {units : Nat}
    (h : units < Binary64.rangeLimit * Binary64.unitsPerOne) :
    ∃ whole, (Number.float (.finite sign units)).truncate = .ok whole ∧
      Binary64.InRange whole := by
  have hwhole : units / Binary64.unitsPerOne < Binary64.rangeLimit :=
    Nat.div_lt_of_lt_mul (by rwa [Nat.mul_comm])
  refine ⟨_, rfl, ?_⟩
  simp only [Binary64.truncate?, Option.getD_some, Binary64.InRange]
  cases sign with
  | true => rwa [if_pos rfl, Int.natAbs_neg, Int.natAbs_natCast]
  | false => rwa [if_neg Bool.false_ne_true, Int.natAbs_natCast]

/-- Of a size in range the wasted share is a number of bytes in range. -/
theorem exists_wastedBytes {size : Int} {ratio : Binary64} (hratio : isRatio ratio = true)
    (hsize : Binary64.InRange size) :
    ∃ wasted, wastedBytes size ratio = .ok wasted ∧ Binary64.InRange wasted := by
  obtain ⟨units, hunits, hlimit, -⟩ := Binary64.exists_ofInt?_of_inRange hsize
  have hfloat : (Number.int size).toFloat = .ok (.finite (size < 0) units) := by
    rw [Number.toFloat, hunits, Option.elim_some]
  obtain ⟨sign, share, hmul, hshare⟩ :=
    Binary64.exists_mul_of_isRatio hratio (decide (size < 0)) hlimit
  obtain ⟨wasted, hwasted, hrange⟩ := exists_truncate_inRange sign hshare
  refine ⟨wasted, Traversal.bind_eq_ok.2 ⟨_, hfloat, ?_⟩, hrange⟩
  rw [hmul, hwasted]

end CatalogHealth
