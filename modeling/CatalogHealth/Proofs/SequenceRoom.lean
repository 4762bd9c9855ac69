import CatalogHealth.Proofs.Judging

/-!
# When the room of a sequence can be measured

Integers are subtracted exactly, and an integer beside a binary64 number is converted first, so a
difference fails if one of the two is out of range. A quotient of integers fails if it is out of
range itself. A sequence is judged by two differences and a quotient, and what is reported shows
where it stands. This module says for which sequences all of this can be done, with thresholds that
were accepted; the rounding of the share is outside its scope.
-/

namespace CatalogHealth

namespace Number

variable {a b : Number}

/-! ## Differences and quotients -/

/-- Whether a number can be converted to the binary64 format: an integer has to be in range. -/
def Converts : Number → Prop
  | int value => Binary64.InRange value
  | float _ => True

theorem exists_toFloat_iff : (∃ x, a.toFloat = .ok x) ↔ a.Converts := by
  cases a with
  | int value => exact exists_toFloat_int_iff
  | float value => exact iff_of_true ⟨value, rfl⟩ trivial

/-- Whether the difference of two numbers can be taken: that of two integers always, any other one
if both numbers can be converted. -/
def Combines : Number → Number → Prop
  | int _, int _ => True
  | a, b => a.Converts ∧ b.Converts

theorem exists_lift_iff {exact : Int → Int → Int} {rounded : Binary64 → Binary64 → Binary64} :
    (∃ result, lift exact rounded a b = .ok result) ↔ a.Combines b := by
  cases a <;> cases b <;>
    simp only [lift, Combines, Traversal.exists_bind_iff, Traversal.exists_pure_iff, and_true,
      exists_and_right, exists_toFloat_iff, Except.ok.injEq, exists_eq']

/-- Whether a number is zero; NaN is not. -/
def IsZero : Number → Prop
  | int value => value = 0
  | float value => value.isNonzero = false

/-- Converting a number keeps whether it is zero. -/
theorem isNonzero_iff_of_toFloat {x : Binary64} (h : a.toFloat = .ok x) :
    x.isNonzero = true ↔ ¬a.IsZero := by
  cases a with
  | int value =>
    have hrange : Binary64.InRange value := exists_toFloat_int_iff.1 ⟨x, h⟩
    obtain ⟨units, hunits, -, hzero⟩ := Binary64.exists_ofInt?_of_inRange hrange
    rw [toFloat, hunits] at h
    cases h
    simp only [Binary64.isNonzero, bne_iff_ne, ne_eq, hzero, IsZero]
  | float value =>
    cases h
    simp only [IsZero, Bool.not_eq_false]

/-- Whether the quotient of two numbers can be taken: the divisor is not zero, and the quotient of
two integers is in range, while for any other one both numbers can be converted. -/
def Divides : Number → Number → Prop
  | int a, int b => b ≠ 0 ∧ a.natAbs < Binary64.rangeLimit * b.natAbs
  | a, b => a.Converts ∧ b.Converts ∧ ¬b.IsZero

/-- The quotient of two integers can be taken if it is in range. -/
theorem exists_div_int_iff {a b : Int} : (∃ x, (int a).div (int b) = .ok x) ↔
    b ≠ 0 ∧ a.natAbs < Binary64.rangeLimit * b.natAbs := by
  by_cases hzero : b = 0
  · rw [div, if_pos hzero]
    exact iff_of_false (by rintro ⟨x, ⟨⟩⟩) fun h => h.1 hzero
  · rw [div, if_neg hzero, Binary64.ofRatio_eq _ (Int.natAbs_pos.2 hzero)]
    by_cases hlimit : Binary64.rangeLimit * b.natAbs ≤ a.natAbs
    · rw [if_pos hlimit, Binary64.inRange?_infinite]
      exact iff_of_false (by rintro ⟨x, ⟨⟩⟩) fun h => Nat.not_lt.2 hlimit h.2
    · rw [if_neg hlimit, Binary64.inRange?_finite]
      exact iff_of_true ⟨_, rfl⟩ ⟨hzero, Nat.not_le.1 hlimit⟩

/-- Of two numbers that are converted the divisor must not be zero. -/
theorem exists_convertedQuotient_iff : (∃ x, (do
      let x ← a.toFloat
      let y ← b.toFloat
      if y.isNonzero then return Binary64.div x y else throw .floatDivisionByZero) =
        (.ok x : Except Fault Binary64)) ↔ a.Converts ∧ b.Converts ∧ ¬b.IsZero := by
  simp only [Traversal.exists_bind_iff, ← exists_toFloat_iff]
  constructor
  · rintro ⟨x, hx, y, hy, q, hq⟩
    refine ⟨⟨x, hx⟩, ⟨y, hy⟩, (isNonzero_iff_of_toFloat hy).1 ?_⟩
    by_contra hzero
    rw [if_neg hzero] at hq
    cases hq
  · rintro ⟨⟨x, hx⟩, ⟨y, hy⟩, hzero⟩
    refine ⟨x, hx, y, hy, Binary64.div x y, ?_⟩
    rw [if_pos ((isNonzero_iff_of_toFloat hy).2 hzero)]
    rfl

theorem exists_div_iff : (∃ x, a.div b = .ok x) ↔ a.Divides b := by
  cases a with
  | int n =>
    cases b with
    | int m => exact exists_div_int_iff
    | float y => exact exists_convertedQuotient_iff
  | float x => exact exists_convertedQuotient_iff

/-- Whether it can be counted how often a positive integer goes into a number. -/
def Contains (a : Number) (step : Nat) : Prop :=
  match a with
  | int _ => True
  | float _ => Binary64.InRange step

theorem exists_wholeQuotient_iff {step : Nat} :
    (∃ count, a.wholeQuotient step = .ok count) ↔ a.Contains step := by
  cases a with
  | int value => exact iff_of_true ⟨_, rfl⟩ trivial
  | float value =>
    simp only [wholeQuotient, Traversal.exists_bind_iff, Traversal.exists_pure_iff, and_true,
      exists_toFloat_int_iff, Contains]

end Number

/-- Only numbers are subtracted. -/
theorem Value.exists_numbers_of_minus {a b : Value} {difference : Number}
    (h : a.minus b = .ok difference) :
    ∃ x y, a.number? = some x ∧ b.number? = some y ∧ x.sub y = .ok difference := by
  unfold Value.minus at h
  split at h
  · rename_i x y ha hb
    exact ⟨x, y, ha, hb, h⟩
  · cases h

namespace Sequence

variable {seq : Sequence} {t : Thresholds}

/-- The difference between the position and the end towards which a sequence moves. -/
def distance (seq : Sequence) : Except Fault Number :=
  if 0 < seq.increment then seq.upperEnd.minus seq.lastValue
  else seq.lastValue.minus seq.lowerEnd

/-- The room of a sequence whose range is not empty, as the quotient of two differences. -/
def room (seq : Sequence) : Except Fault SequenceRoom := do
  let distance ← seq.distance
  let range ← seq.upperEnd.minus seq.lowerEnd
  let share ← distance.orZero.div range
  return { left := distance.orZero, share }

theorem room?_eq (seq : Sequence) : seq.room? = (do
    discard seq.dataType.asMember
    if ← seq.upperEnd.compare .atMost seq.lowerEnd then return none
    return some (← seq.room)) := by
  by_cases hup : 0 < seq.increment
  · simp only [room?, room, distance, if_pos hup, bind_assoc, pure_bind]
  · simp only [room?, room, distance, if_neg hup, bind_assoc, pure_bind]

/-- Whether the two differences and the quotient can be taken, given the upper end, the lower end
and the position as numbers. -/
structure MeasurableAt (seq : Sequence) (upper lower position : Number) : Prop where
  /-- The distance to the end in the direction of the steps. -/
  distance : if 0 < seq.increment then upper.Combines position else position.Combines lower
  /-- The length of the range. -/
  range : upper.Combines lower
  /-- What is left as a share of the range. -/
  share : ∀ distance range,
    (if 0 < seq.increment then upper.sub position else position.sub lower) = .ok distance →
      upper.sub lower = .ok range → distance.orZero.Divides range

/-- Whether the room of a sequence can be measured: its ends and its position are numbers whose
differences and quotient can be taken. -/
def Measurable (seq : Sequence) : Prop :=
  ∃ upper lower position, seq.upperEnd.number? = some upper ∧ seq.lowerEnd.number? = some lower ∧
    seq.lastValue.number? = some position ∧ seq.MeasurableAt upper lower position

/-- The distance of a sequence of numbers to its end. -/
theorem distance_eq {upper lower position : Number} (hupper : seq.upperEnd.number? = some upper)
    (hlower : seq.lowerEnd.number? = some lower)
    (hposition : seq.lastValue.number? = some position) :
    seq.distance = if 0 < seq.increment then upper.sub position else position.sub lower := by
  unfold distance
  split
  · rw [Value.minus, hupper, hposition]
  · rw [Value.minus, hlower, hposition]

/-- Only a number can be at a distance. -/
theorem exists_position_of_distance {distance : Number} (h : seq.distance = .ok distance) :
    ∃ position, seq.lastValue.number? = some position := by
  unfold Sequence.distance at h
  split at h
  · obtain ⟨-, position, -, hposition, -⟩ := Value.exists_numbers_of_minus h
    exact ⟨position, hposition⟩
  · obtain ⟨position, -, hposition, -⟩ := Value.exists_numbers_of_minus h
    exact ⟨position, hposition⟩

/-- The difference in the direction of the steps can be taken exactly if its numbers combine. -/
theorem exists_difference_iff {upper lower position : Number} :
    (∃ distance, (if 0 < seq.increment then upper.sub position else position.sub lower) =
      .ok distance) ↔
      if 0 < seq.increment then upper.Combines position else position.Combines lower := by
  split
  · exact Number.exists_lift_iff
  · exact Number.exists_lift_iff

theorem exists_room_iff : (∃ room, seq.room = .ok room) ↔ seq.Measurable := by
  have hsteps : (∃ room, seq.room = .ok room) ↔ ∃ distance, seq.distance = .ok distance ∧
      ∃ range, seq.upperEnd.minus seq.lowerEnd = .ok range ∧ distance.orZero.Divides range := by
    simp only [room, Traversal.exists_bind_iff, Traversal.exists_pure_iff, and_true,
      Number.exists_div_iff]
  rw [hsteps]
  constructor
  · rintro ⟨distance, hdistance, range, hrange, hshare⟩
    obtain ⟨upper, lower, hupper, hlower, hrange⟩ := Value.exists_numbers_of_minus hrange
    obtain ⟨position, hposition⟩ := exists_position_of_distance hdistance
    rw [distance_eq hupper hlower hposition] at hdistance
    refine ⟨upper, lower, position, hupper, hlower, hposition,
      exists_difference_iff.1 ⟨distance, hdistance⟩, Number.exists_lift_iff.1 ⟨range, hrange⟩, ?_⟩
    intro distance' range' hdistance' hrange'
    cases hdistance.symm.trans hdistance'
    cases hrange.symm.trans hrange'
    exact hshare
  · rintro ⟨upper, lower, position, hupper, hlower, hposition, h⟩
    obtain ⟨distance, hdistance⟩ := exists_difference_iff.2 h.distance
    obtain ⟨range, hrange⟩ := Number.exists_lift_iff.2 h.range
    refine ⟨distance, (distance_eq hupper hlower hposition).trans hdistance, range, ?_,
      h.share distance range hdistance hrange⟩
    rw [Value.minus, hupper, hlower]
    exact hrange

/-! ## Sequences that are judged -/

/-- Whether what a report about the room of a sequence shows can be written. -/
structure RoomWritable (seq : Sequence) (room : SequenceRoom) : Prop where
  /-- The integer type. -/
  dataType : seq.dataType.isWritable = true
  /-- The position. -/
  position : seq.lastValue.isWritable = true
  /-- The lower end. -/
  lower : seq.lowerEnd.isWritable = true
  /-- The upper end. -/
  upper : seq.upperEnd.isWritable = true
  /-- The number of values that remain can be counted. -/
  counted : room.left.Contains seq.increment.natAbs
  /-- It can be written as well. -/
  remaining : ∀ count, room.left.wholeQuotient seq.increment.natAbs = .ok count →
    (Value.ofNumber count).isWritable = true

theorem exists_sequenceFinding_iff {room : SequenceRoom} :
    (∃ f, sequenceFinding seq room = .ok f) ↔ seq.RoomWritable room := by
  have hsteps : (∃ f, sequenceFinding seq room = .ok f) ↔ seq.dataType.isWritable = true ∧
      seq.lastValue.isWritable = true ∧ seq.lowerEnd.isWritable = true ∧
      seq.upperEnd.isWritable = true ∧ ∃ count,
        room.left.wholeQuotient seq.increment.natAbs = .ok count ∧
          (Value.ofNumber count).isWritable = true := by
    simp only [sequenceFinding, Traversal.exists_bind_iff, Traversal.exists_pure_iff, and_true,
      exists_and_right, ← Value.exists_shown_iff]
  rw [hsteps]
  constructor
  · rintro ⟨hdataType, hposition, hlower, hupper, count, hcount, hremaining⟩
    refine ⟨hdataType, hposition, hlower, hupper, Number.exists_wholeQuotient_iff.1 ⟨count, hcount⟩,
      fun count' hcount' => ?_⟩
    cases hcount.symm.trans hcount'
    exact hremaining
  · intro h
    obtain ⟨count, hcount⟩ := Number.exists_wholeQuotient_iff.2 h.counted
    exact ⟨h.dataType, h.position, h.lower, h.upper, count, hcount, h.remaining count hcount⟩

/-- Whether it can be told how far a sequence that moves is from its end, and the sequence, if that
is too near, be reported. -/
structure RoomJudgeable (t : Thresholds) (seq : Sequence) : Prop where
  /-- The integer type can be looked up. -/
  dataType_scalar : seq.dataType.isScalar = true
  /-- The ends have a common order. -/
  ends_ordered : ∃ isEmpty, seq.upperEnd.compare .atMost seq.lowerEnd = .ok isEmpty
  /-- If the range is not empty, the room can be measured. -/
  measurable : seq.upperEnd.compare .atMost seq.lowerEnd = .ok false → seq.Measurable
  /-- If what is left is below the threshold, the finding can be written. -/
  writable : seq.upperEnd.compare .atMost seq.lowerEnd = .ok false → ∀ room, seq.room = .ok room →
    (Value.float room.share).compare .atLeast t.sequenceRemainingRatio = .ok false →
      seq.RoomWritable room

/-- The report about a measured room shows the room if it is too small. -/
theorem exists_roomReport_iff (ht : t.AreNumbers) {room : SequenceRoom} : (∃ report, (do
      if ← (Value.float room.share).compare .atLeast t.sequenceRemainingRatio then return []
      return [← sequenceFinding seq room]) = (.ok report : Except Fault (List Finding))) ↔
    ((Value.float room.share).compare .atLeast t.sequenceRemainingRatio = .ok false →
      seq.RoomWritable room) := by
  obtain ⟨least, hleast⟩ := ht.sequenceRemainingRatio
  have hshare : (Value.float room.share).compare .atLeast t.sequenceRemainingRatio = _ :=
    Value.compare_numbers rfl hleast
  rw [hshare]
  cases Comparison.atLeast.ofNumbers (.float room.share) least with
  | true => exact iff_of_true ⟨[], rfl⟩ fun h => by cases h
  | false =>
    simp only [imp_iff_right, ← exists_sequenceFinding_iff, Traversal.exists_bind_iff,
      Except.ok.injEq, exists_eq_left', Bool.false_eq_true, if_false, Traversal.exists_pure_iff,
      and_true]

theorem room?_eq_none_iff : seq.room? = .ok none ↔
    seq.dataType.isScalar = true ∧ seq.upperEnd.compare .atMost seq.lowerEnd = .ok true := by
  rw [room?_eq, Traversal.discard_bind_eq_ok, Value.exists_asMember_iff, Traversal.bind_eq_ok]
  refine and_congr_right fun _ => ⟨?_, fun hempty => ⟨true, hempty, rfl⟩⟩
  rintro ⟨isEmpty, hends, hroom⟩
  cases isEmpty with
  | true => exact hends
  | false =>
    obtain ⟨room, -, hnone⟩ := Traversal.bind_eq_ok.1 hroom
    cases hnone

theorem room?_eq_some_iff {room : SequenceRoom} : seq.room? = .ok (some room) ↔
    seq.dataType.isScalar = true ∧ seq.upperEnd.compare .atMost seq.lowerEnd = .ok false ∧
      seq.room = .ok room := by
  rw [room?_eq, Traversal.discard_bind_eq_ok, Value.exists_asMember_iff, Traversal.bind_eq_ok]
  refine and_congr_right fun _ => ⟨?_, fun h => ⟨false, h.1, ?_⟩⟩
  · rintro ⟨isEmpty, hends, hroom⟩
    cases isEmpty with
    | true => cases hroom
    | false =>
      obtain ⟨room', hroom', hsome⟩ := Traversal.bind_eq_ok.1 hroom
      cases Traversal.pure_eq_ok.1 hsome
      exact ⟨hends, hroom'⟩
  · exact Traversal.bind_eq_ok.2 ⟨room, h.2, rfl⟩

/-- What is found out about the room of a sequence is reported exactly if the sequence can be
judged. -/
theorem exists_answer_iff (ht : t.AreNumbers) : (∃ answer, seq.room? = .ok answer ∧
      ∀ room ∈ answer, ∃ report, (do
        if ← (Value.float room.share).compare .atLeast t.sequenceRemainingRatio then return []
        return [← sequenceFinding seq room]) = (.ok report : Except Fault (List Finding))) ↔
    seq.RoomJudgeable t := by
  constructor
  · rintro ⟨answer, hanswer, hreport⟩
    cases answer with
    | none =>
      obtain ⟨hscalar, hempty⟩ := room?_eq_none_iff.1 hanswer
      refine ⟨hscalar, ⟨true, hempty⟩, fun hopen => ?_, fun hopen => ?_⟩
      · cases hempty.symm.trans hopen
      · cases hempty.symm.trans hopen
    | some room =>
      obtain ⟨hscalar, hopen, hroom⟩ := room?_eq_some_iff.1 hanswer
      refine ⟨hscalar, ⟨false, hopen⟩, fun _ => exists_room_iff.1 ⟨room, hroom⟩,
        fun _ room' hroom' => ?_⟩
      cases hroom.symm.trans hroom'
      exact (exists_roomReport_iff ht).1 (hreport room rfl)
  · intro h
    obtain ⟨isEmpty, hends⟩ := h.ends_ordered
    cases isEmpty with
    | true => exact ⟨none, room?_eq_none_iff.2 ⟨h.dataType_scalar, hends⟩, by simp⟩
    | false =>
      obtain ⟨room, hroom⟩ := exists_room_iff.2 (h.measurable hends)
      refine ⟨some room, room?_eq_some_iff.2 ⟨h.dataType_scalar, hends, hroom⟩, ?_⟩
      rintro room' ⟨⟩
      exact (exists_roomReport_iff ht).2 (h.writable hends room hroom)

theorem exists_sequenceReport_iff (ht : t.AreNumbers) :
    (∃ report, sequenceReport t seq = .ok report) ↔
      (seq.cycle = false → seq.lastValue ≠ .null → seq.increment ≠ 0 → seq.RoomJudgeable t) := by
  unfold sequenceReport
  by_cases hidle : (seq.cycle || decide (seq.lastValue = .null)) = true
  · rw [if_pos hidle]
    refine iff_of_true ⟨[], rfl⟩ fun hcycle hposition _ => ?_
    simp [hcycle, hposition] at hidle
  · rw [if_neg hidle]
    simp only [Bool.or_eq_true, decide_eq_true_eq, not_or, Bool.not_eq_true] at hidle
    by_cases hzero : seq.increment = 0
    · rw [if_pos hzero]
      exact iff_of_true ⟨_, rfl⟩ fun _ _ hmoves => (hmoves hzero).elim
    · rw [if_neg hzero, imp_iff_right hidle.1, imp_iff_right hidle.2, imp_iff_right hzero,
        Traversal.exists_bind_iff, ← exists_answer_iff ht]
      refine exists_congr fun answer => and_congr_right fun _ => ?_
      cases answer with
      | none => exact iff_of_true ⟨_, rfl⟩ (by simp)
      | some room => simp only [Option.mem_some_iff, forall_eq']

end Sequence

theorem exists_sequenceOverflow_iff {s : Snapshot} {t : Thresholds} (ht : t.AreNumbers) :
    (∃ found, sequenceOverflow.run s t = .ok found) ↔ ∀ seq ∈ s.sequences,
      seq.cycle = false → seq.lastValue ≠ .null → seq.increment ≠ 0 → seq.RoomJudgeable t := by
  refine Traversal.exists_gathered.trans ?_
  simp only [sortByText, mem_sortBy, Sequence.exists_sequenceReport_iff ht]

end CatalogHealth
