import CatalogHealth.Proofs.Ordering
import CatalogHealth.Proofs.SequenceRoom

/-!
# Sequences and their mirror images

A sequence that descends from one number to another is the mirror image of one that ascends between
their negatives. The two directions are judged by different formulas, with the roles of the two ends
exchanged; what is left of the way, its share of the range and the number of values that remain are
the same integers and the same quotient nevertheless. So a mirror image is reported exactly when the
sequence is, for the same reason, in a finding that differs only in the positions it shows. Ends
that the integer type supplies, whose range is not symmetric, and positions that are no integers are
outside the scope.
-/

namespace CatalogHealth

/-! ## Runs that end alike -/

namespace Traversal

variable {ε α β γ δ : Type}

/-- Two runs end with the same fault, or with results of which some relation holds. -/
inductive EndsAlike (related : α → β → Prop) : Except ε α → Except ε β → Prop where
  /-- Both end with a fault. -/
  | fault (fault : ε) : EndsAlike related (.error fault) (.error fault)
  /-- Both end with a result. -/
  | result {a : α} {b : β} (h : related a b) : EndsAlike related (.ok a) (.ok b)

theorem EndsAlike.of_eq {related : α → α → Prop} (h : ∀ a, related a a) {x y : Except ε α}
    (hxy : x = y) : EndsAlike related x y := by
  subst hxy
  cases x with
  | error fault => exact .fault fault
  | ok a => exact .result (h a)

section Steps

variable {related : α → β → Prop} {after : γ → δ → Prop} {x : Except ε α} {y : Except ε β}

/-- Runs that end alike may be followed by steps that end alike on related results. -/
theorem EndsAlike.bind {f : α → Except ε γ} {g : β → Except ε δ} (hxy : EndsAlike related x y)
    (hfg : ∀ a b, related a b → EndsAlike after (f a) (g b)) :
    EndsAlike after (x >>= f) (y >>= g) := by
  cases hxy with
  | fault fault => exact .fault fault
  | result hab => exact hfg _ _ hab

theorem EndsAlike.imp {weaker : α → β → Prop} (hxy : EndsAlike related x y)
    (h : ∀ a b, related a b → weaker a b) : EndsAlike weaker x y := by
  cases hxy with
  | fault fault => exact .fault fault
  | result hab => exact .result (h _ _ hab)

theorem EndsAlike.map {f : α → γ} {g : β → δ} (hxy : EndsAlike related x y)
    (hfg : ∀ a b, related a b → after (f a) (g b)) : EndsAlike after (x.map f) (y.map g) := by
  cases hxy with
  | fault fault => exact .fault fault
  | result hab => exact .result (hfg _ _ hab)

end Steps

section Images

variable {related : β → δ → Prop} {image : α → γ} {xs : List α}

/-- Traversals of elements and of their images end alike if the steps do. -/
theorem EndsAlike.mapM {f : α → Except ε β} {g : γ → Except ε δ}
    (hstep : ∀ x ∈ xs, EndsAlike related (f x) (g (image x))) :
    EndsAlike (List.Forall₂ related) (xs.mapM f) ((xs.map image).mapM g) := by
  induction xs with
  | nil => exact .result .nil
  | cons x rest ih =>
    obtain ⟨hx, hrest⟩ := List.forall_mem_cons.1 hstep
    rw [List.map_cons, List.mapM_cons, List.mapM_cons]
    exact hx.bind fun _ _ hfirst => (ih hrest).bind fun _ _ hothers =>
      .result (.cons hfirst hothers)

theorem EndsAlike.gathered {f : α → Except ε (List β)} {g : γ → Except ε (List δ)}
    (hstep : ∀ x ∈ xs, EndsAlike (List.Forall₂ related) (f x) (g (image x))) :
    EndsAlike (List.Forall₂ related) ((xs.mapM f).map List.flatten)
      (((xs.map image).mapM g).map List.flatten) :=
  (EndsAlike.mapM hstep).map fun _ _ hparts => List.rel_flatten hparts

end Images

end Traversal

/-! ## Integers by exact value -/

/-- What is left in an integer distance is an integer. -/
theorem Number.exists_orZero_int (value : Int) : ∃ left, (int value).orZero = int left := by
  unfold orZero
  split
  · exact ⟨0, rfl⟩
  · exact ⟨value, rfl⟩

namespace Value

/-- An integer with the other sign; what is no integer is left alone. -/
def negated : Value → Value
  | .int value => .int (-value)
  | value => value

/-- An integer can be written exactly if its negative can. -/
theorem isWritable_negated_int (value : Int) :
    (int value).negated.isWritable = (int value).isWritable := by
  simp only [negated, isWritable, Int.natAbs_neg]

theorem shown_eq_ok_iff {value : Value} {text : Text} :
    value.shown = .ok text ↔ value.isWritable = true ∧ text = value.display := by
  unfold shown
  split
  · rename_i hwritable
    rw [Except.ok.injEq, and_iff_right hwritable, eq_comm]
  · rename_i hwritable
    exact iff_of_false (by simp) fun h => hwritable h.1

theorem fault_of_shown {value : Value} {fault : Fault} (h : value.shown = .error fault) :
    fault = .integerTooLong := by
  unfold shown at h
  split at h
  · cases h
  · exact (Except.error.inj h).symm

end Value

/-! ## Mirror images -/

namespace Sequence

variable {seq : Sequence} {room : SequenceRoom} {t : Thresholds}

/-- The mirror image of a sequence. -/
def mirror (seq : Sequence) : Sequence :=
  { seq with
    lastValue := seq.lastValue.negated
    minValue := seq.maxValue.negated
    maxValue := seq.minValue.negated
    increment := -seq.increment }

/-- A sequence has a position and two ends of its own, and all three are integers. -/
structure IsExplicit (seq : Sequence) : Prop where
  /-- The value handed out last. -/
  position : ∃ value, seq.lastValue = .int value
  /-- The least value. -/
  least : ∃ value, seq.minValue = .int value
  /-- The greatest value. -/
  greatest : ∃ value, seq.maxValue = .int value

theorem isExplicit_mirror (h : seq.IsExplicit) : seq.mirror.IsExplicit := by
  obtain ⟨⟨position, hposition⟩, ⟨least, hleast⟩, ⟨greatest, hgreatest⟩⟩ := h
  exact ⟨⟨-position, by rw [mirror, hposition]; rfl⟩, ⟨-greatest, by rw [mirror, hgreatest]; rfl⟩,
    ⟨-least, by rw [mirror, hleast]; rfl⟩⟩

/-- The mirror image of the mirror image is the sequence. -/
theorem IsExplicit.mirror_mirror (h : seq.IsExplicit) : seq.mirror.mirror = seq := by
  obtain ⟨⟨position, hposition⟩, ⟨least, hleast⟩, ⟨greatest, hgreatest⟩⟩ := h
  cases seq
  cases hposition
  cases hleast
  cases hgreatest
  simp only [Sequence.mirror, Value.negated, Int.neg_neg]

/-- A sequence is at an integer between two integers. -/
structure IsAt (seq : Sequence) (position lower upper : Int) : Prop where
  /-- The value handed out last. -/
  position : seq.lastValue = .int position
  /-- The lower end of the range. -/
  lower : seq.lowerEnd = .int lower
  /-- The upper end of the range. -/
  upper : seq.upperEnd = .int upper

theorem IsExplicit.exists_isAt (h : seq.IsExplicit) : ∃ position lower upper : Int,
    seq.IsAt position lower upper ∧ seq.mirror.IsAt (-position) (-upper) (-lower) := by
  obtain ⟨⟨position, hposition⟩, ⟨least, hleast⟩, ⟨greatest, hgreatest⟩⟩ := h
  refine ⟨position, least, greatest, ⟨hposition, ?_, ?_⟩, ⟨?_, ?_, ?_⟩⟩
  · simp only [lowerEnd, hleast]
  · simp only [upperEnd, hgreatest]
  · simp only [mirror, hposition, Value.negated]
  · simp only [lowerEnd, mirror, hgreatest, Value.negated]
  · simp only [upperEnd, mirror, hleast, Value.negated]

/-! ## What is left of the way -/

section Room

variable {position lower upper : Int}

theorem IsAt.isEmpty_eq (h : seq.IsAt position lower upper) :
    seq.upperEnd.compare .atMost seq.lowerEnd = .ok (decide (upper ≤ lower)) := by
  rw [h.upper, h.lower, Value.compare_numbers rfl rfl, Comparison.ofNumbers, Number.le_int]

theorem IsAt.room_eq (h : seq.IsAt position lower upper) : seq.room = (do
    let left := (Number.int
      (if 0 < seq.increment then upper - position else position - lower)).orZero
    return { left, share := ← left.div (.int (upper - lower)) }) := by
  have hdistance : seq.distance =
      .ok (.int (if 0 < seq.increment then upper - position else position - lower)) := by
    rw [distance, h.position, h.lower, h.upper]
    split <;> rfl
  rw [room, hdistance, h.upper, h.lower]
  rfl

/-- What is left of the way of an explicit sequence is an integer. -/
theorem IsExplicit.exists_left (h : seq.IsExplicit) (hroom : seq.room? = .ok (some room)) :
    ∃ left, room.left = .int left := by
  obtain ⟨position, lower, upper, hat, -⟩ := h.exists_isAt
  obtain ⟨-, -, hroom⟩ := room?_eq_some_iff.1 hroom
  rw [hat.room_eq] at hroom
  obtain ⟨share, -, hroom⟩ := Traversal.bind_eq_ok.1 hroom
  cases Traversal.pure_eq_ok.1 hroom
  exact Number.exists_orZero_int _

/-- A mirror image has the same room. -/
theorem room?_mirror (h : seq.IsExplicit) (hmoves : seq.increment ≠ 0) :
    seq.mirror.room? = seq.room? := by
  obtain ⟨position, lower, upper, hat, himage⟩ := h.exists_isAt
  have hempty : decide (-lower ≤ -upper) = decide (upper ≤ lower) :=
    decide_eq_decide.2 (by omega)
  have hrange : -lower - -upper = upper - lower := by omega
  have hdistance : (if 0 < seq.mirror.increment then -lower - -position else -position - -upper) =
      if 0 < seq.increment then upper - position else position - lower := by
    change (if 0 < -seq.increment then _ else _) = _
    split <;> split <;> omega
  rw [room?_eq, room?_eq, himage.isEmpty_eq, hat.isEmpty_eq, hempty, himage.room_eq, hat.room_eq,
    hrange, hdistance]
  rfl

end Room

/-! ## What is said about it -/

/-- What a finding says about a sequence in which a number of values remain. -/
def roomDetail (seq : Sequence) (count : Int) : Text :=
  "Sequence '" ++ seq.qualifiedName ++ "' (" ++ seq.dataType.display ++ ") is at " ++
    seq.lastValue.display ++ " of " ++ "[" ++ seq.lowerEnd.display ++ ", " ++
    seq.upperEnd.display ++ "]; about " ++ (Value.int count).display ++
    " values remain. nextval() " ++ "fails once the range is exhausted."

/-- A sequence and its mirror image are reported to run out, with the same remaining share and the
same number of remaining values; the findings differ in the positions that they show, if at all. -/
structure RunsOutAlike (seq : Sequence) (f g : Finding) : Prop where
  /-- The finding is urgent. -/
  severity : f.severity = .high
  /-- It is about the sequence. -/
  objects : f.objects = [seq.qualifiedName]
  /-- It records the remaining share. -/
  share : ∃ share, f.metadata.get "remaining_ratio" = .float share
  /-- Both state the same number of values, next to their own positions. -/
  detail : ∃ count, f.detail = seq.roomDetail count ∧
    g = { f with detail := seq.mirror.roomDetail count }

/-- The ways in which a sequence and its mirror image are judged. -/
inductive JudgedAlike (seq : Sequence) : List Finding → List Finding → Prop where
  /-- There is nothing to report about either. -/
  | nothing : JudgedAlike seq [] []
  /-- Neither can be evaluated, for the same reason. -/
  | unevaluated (reason : String) : JudgedAlike seq
      [sequenceOverflowLabel.cannotEvaluate seq.qualifiedName reason]
      [sequenceOverflowLabel.cannotEvaluate seq.mirror.qualifiedName reason]
  /-- Both run out. -/
  | runsOut {f g : Finding} (h : seq.RunsOutAlike f g) : JudgedAlike seq [f] [g]

/-- A finding about an integer room can only fail over something that cannot be written. -/
theorem fault_of_sequenceFinding {fault : Fault} {left : Int} (hleft : room.left = .int left)
    (h : sequenceFinding seq room = .error fault) : fault = .integerTooLong := by
  rcases Traversal.bind_eq_error.1 h with hshown | ⟨_, -, h⟩
  · exact Value.fault_of_shown hshown
  rcases Traversal.bind_eq_error.1 h with hshown | ⟨_, -, h⟩
  · exact Value.fault_of_shown hshown
  rcases Traversal.bind_eq_error.1 h with hshown | ⟨_, -, h⟩
  · exact Value.fault_of_shown hshown
  rcases Traversal.bind_eq_error.1 h with hshown | ⟨_, -, h⟩
  · exact Value.fault_of_shown hshown
  rcases Traversal.bind_eq_error.1 h with hcount | ⟨_, -, h⟩
  · rw [hleft] at hcount
    cases hcount
  rcases Traversal.bind_eq_error.1 h with hshown | ⟨_, -, h⟩
  · exact Value.fault_of_shown hshown
  · cases h

/-- Findings about the same integer room differ in the positions that they show. -/
theorem runsOutAlike_of_sequenceFinding {f g : Finding} {left : Int} (hleft : room.left = .int left)
    (hf : sequenceFinding seq room = .ok f) (hg : sequenceFinding seq.mirror room = .ok g) :
    seq.RunsOutAlike f g := by
  have hsteps : seq.mirror.increment.natAbs = seq.increment.natAbs := Int.natAbs_neg _
  simp only [sequenceFinding, Traversal.bind_eq_ok, Traversal.pure_eq_ok, hleft, hsteps,
    Number.wholeQuotient, Except.ok.injEq, exists_eq_left', Value.shown_eq_ok_iff] at hf hg
  obtain ⟨_, ⟨-, rfl⟩, _, ⟨-, rfl⟩, _, ⟨-, rfl⟩, _, ⟨-, rfl⟩, _, ⟨-, rfl⟩, rfl⟩ := hf
  obtain ⟨_, ⟨-, rfl⟩, _, ⟨-, rfl⟩, _, ⟨-, rfl⟩, _, ⟨-, rfl⟩, _, ⟨-, rfl⟩, rfl⟩ := hg
  exact ⟨rfl, affectedObjects_qualify seq.schema seq.name, ⟨room.share, rfl⟩,
    left.fdiv seq.increment.natAbs, rfl, rfl⟩

/-- What a finding about a room shows can be written of the mirror image as well. -/
theorem RoomWritable.mirror (hexplicit : seq.IsExplicit) (h : seq.RoomWritable room) :
    seq.mirror.RoomWritable room := by
  obtain ⟨position, lower, upper, hat, himage⟩ := hexplicit.exists_isAt
  have hsteps : seq.mirror.increment.natAbs = seq.increment.natAbs := Int.natAbs_neg _
  have hwritten : ∀ value : Int, (Value.int value).isWritable = true →
      (Value.int (-value)).isWritable = true := fun value hvalue =>
    (Value.isWritable_negated_int value).trans hvalue
  constructor
  · exact h.dataType
  · exact himage.position ▸ hwritten position (hat.position ▸ h.position)
  · exact himage.lower ▸ hwritten upper (hat.upper ▸ h.upper)
  · exact himage.upper ▸ hwritten lower (hat.lower ▸ h.lower)
  · exact hsteps ▸ h.counted
  · exact hsteps ▸ h.remaining

theorem roomWritable_mirror_iff (h : seq.IsExplicit) :
    seq.mirror.RoomWritable room ↔ seq.RoomWritable room :=
  ⟨fun himage => h.mirror_mirror ▸ himage.mirror (isExplicit_mirror h), fun hroom => hroom.mirror h⟩

/-- Both findings about a room can be given, or neither for the same reason. -/
theorem sequenceFinding_mirror (h : seq.IsExplicit) {left : Int} (hleft : room.left = .int left) :
    Traversal.EndsAlike seq.RunsOutAlike (sequenceFinding seq room)
      (sequenceFinding seq.mirror room) := by
  -- The two findings show the ends in different order, so a fault may arise at another step; it is
  -- the same one nevertheless.
  cases hf : sequenceFinding seq room with
  | ok f =>
    have hroom : seq.RoomWritable room := exists_sequenceFinding_iff.1 ⟨f, hf⟩
    obtain ⟨g, hg⟩ := exists_sequenceFinding_iff.2 (hroom.mirror h)
    rw [hg]
    exact .result (runsOutAlike_of_sequenceFinding hleft hf hg)
  | error fault =>
    cases hg : sequenceFinding seq.mirror room with
    | ok g =>
      have hroom : seq.RoomWritable room :=
        (roomWritable_mirror_iff h).1 (exists_sequenceFinding_iff.1 ⟨g, hg⟩)
      obtain ⟨f, hother⟩ := exists_sequenceFinding_iff.2 hroom
      cases hf.symm.trans hother
    | error fault' =>
      rw [fault_of_sequenceFinding hleft hf, fault_of_sequenceFinding hleft hg]
      exact .fault _

/-- A sequence and its mirror image give reason to the same report. -/
theorem sequenceReport_mirror (t : Thresholds) (h : seq.IsExplicit) :
    Traversal.EndsAlike seq.JudgedAlike (sequenceReport t seq) (sequenceReport t seq.mirror) := by
  obtain ⟨position, lower, upper, hat, himage⟩ := h.exists_isAt
  have hidle : (seq.mirror.cycle || decide (seq.mirror.lastValue = .null)) =
      (seq.cycle || decide (seq.lastValue = .null)) := by
    rw [himage.position, hat.position]
    rfl
  unfold sequenceReport
  rw [hidle]
  split
  · exact .result .nothing
  by_cases hzero : seq.increment = 0
  · have hzero' : seq.mirror.increment = 0 := neg_eq_zero.2 hzero
    rw [if_pos hzero, if_pos hzero']
    exact .result (.unevaluated "increment is zero")
  · have hzero' : seq.mirror.increment ≠ 0 := neg_ne_zero.2 hzero
    rw [if_neg hzero, if_neg hzero', room?_mirror h hzero]
    cases hroom : seq.room? with
    | error fault => exact .fault fault
    | ok answer =>
      cases answer with
      | none => exact .result (.unevaluated "sequence range is empty")
      | some room =>
        obtain ⟨left, hleft⟩ := h.exists_left hroom
        change Traversal.EndsAlike seq.JudgedAlike (do
          if ← (Value.float room.share).compare .atLeast t.sequenceRemainingRatio then return []
          return [← sequenceFinding seq room]) (do
          if ← (Value.float room.share).compare .atLeast t.sequenceRemainingRatio then return []
          return [← sequenceFinding seq.mirror room])
        refine Traversal.EndsAlike.bind (Traversal.EndsAlike.of_eq (fun _ => rfl) rfl) ?_
        rintro enough _ rfl
        cases enough with
        | true => exact .result .nothing
        | false =>
          exact (sequenceFinding_mirror h hleft).bind fun _ _ halike => .result (.runsOut halike)

/-- The mirror image of a sequence if it is turned, and otherwise the sequence. -/
def turnedBy (turned : Sequence → Bool) (seq : Sequence) : Sequence :=
  if turned seq then seq.mirror else seq

theorem qualifiedName_turnedBy (turned : Sequence → Bool) (seq : Sequence) :
    (seq.turnedBy turned).qualifiedName = seq.qualifiedName := by
  unfold turnedBy
  split <;> rfl

end Sequence

/-! ## Snapshots with mirror images -/

/-- A snapshot in which some sequences are turned into their mirror images. -/
def Snapshot.turned (s : Snapshot) (turned : Sequence → Bool) : Snapshot :=
  { s with
    sequences := s.sequences.map (Sequence.turnedBy turned)
    sequences_nodup := by
      have hnames : Sequence.qualifiedName ∘ Sequence.turnedBy turned = Sequence.qualifiedName :=
        funext (Sequence.qualifiedName_turnedBy turned)
      rw [List.map_map, hnames]
      exact s.sequences_nodup }

/-- Descending and ascending sequences are judged alike. The mirror image of an explicit sequence
gives reason to nothing, to a finding that it cannot be evaluated or to one that it runs out exactly
if the sequence does, with the same reason, or with the same remaining share and the same number of
remaining values; a fault is the same. So if any sequences of a snapshot are turned into their
mirror images, the same things are reported in the same places. -/
theorem mirror_images_judged_alike (t : Thresholds) :
    (∀ seq : Sequence, seq.IsExplicit → Traversal.EndsAlike seq.JudgedAlike (sequenceReport t seq)
      (sequenceReport t seq.mirror)) ∧
    ∀ (s : Snapshot) (turned : Sequence → Bool),
      (∀ seq ∈ s.sequences, turned seq = true → seq.IsExplicit) →
        Traversal.EndsAlike
          (List.Forall₂ fun f g =>
            f = g ∨ ∃ seq ∈ s.sequences, turned seq = true ∧ seq.RunsOutAlike f g)
          (sequenceOverflow.run s t) (sequenceOverflow.run (s.turned turned) t) := by
  refine ⟨fun seq h => Sequence.sequenceReport_mirror t h, fun s turned hexplicit => ?_⟩
  have hsorted : sortByText Sequence.qualifiedName (s.turned turned).sequences =
      (sortByText Sequence.qualifiedName s.sequences).map (Sequence.turnedBy turned) :=
    sortByText_map (Sequence.qualifiedName_turnedBy turned) s.sequences
  have hrun : ∀ snapshot : Snapshot, sequenceOverflow.run snapshot t =
      ((sortByText Sequence.qualifiedName snapshot.sequences).mapM (sequenceReport t)).map
        List.flatten := fun _ => rfl
  rw [hrun, hrun, hsorted]
  refine Traversal.EndsAlike.gathered fun seq hseq => ?_
  replace hseq : seq ∈ s.sequences := mem_sortBy.1 hseq
  unfold Sequence.turnedBy
  cases hturned : turned seq with
  | false => exact .of_eq (fun report => List.forall₂_same.2 fun _ _ => .inl rfl) rfl
  | true =>
    refine (Sequence.sequenceReport_mirror t (hexplicit seq hseq hturned)).imp ?_
    intro report image halike
    cases halike with
    | nothing => exact .nil
    | unevaluated reason => exact .cons (.inl rfl) .nil
    | runsOut h => exact .cons (.inr ⟨seq, hseq, hturned, h⟩) .nil

/-- A sequence that ascends by twos and is near the end of its range. -/
def ascendingIds : Sequence where
  schema := .text "public"
  name := .text "order_ids"
  lastValue := .int 95
  minValue := .int 1
  maxValue := .int 100
  increment := 2

/-- A snapshot with this sequence alone. -/
def ascendingSnapshot : Snapshot :=
  { bareSnapshot with sequences := [ascendingIds], sequences_nodup := by decide }

/-- Two values remain from 95 up to 100, and two from -95 down to -100. -/
theorem mirror_images_judged_alike_ascendingIds : ∃ f g,
    sequenceOverflow.run ascendingSnapshot {} = .ok [f] ∧
      sequenceOverflow.run (ascendingSnapshot.turned fun _ => true) {} = .ok [g] ∧
      f.detail = ascendingIds.roomDetail 2 ∧ g.detail = ascendingIds.mirror.roomDetail 2 ∧
      ascendingIds.RunsOutAlike f g := by
  have hall : ∀ seq ∈ ascendingSnapshot.sequences, true = true → seq.IsExplicit := by
    intro seq hseq _
    rw [List.mem_singleton.1 hseq]
    exact ⟨⟨95, rfl⟩, ⟨1, rfl⟩, ⟨100, rfl⟩⟩
  have hreported : (sequenceOverflow.run ascendingSnapshot {}).toOption.any (fun found =>
      found.map Finding.detail = [ascendingIds.roomDetail 2]) = true := by
    decide +kernel
  have himage : (sequenceOverflow.run (ascendingSnapshot.turned fun _ => true) {}).toOption.any
      (fun found => found.map Finding.detail = [ascendingIds.mirror.roomDetail 2]) = true := by
    decide +kernel
  obtain ⟨found, hfound, hdetails⟩ := Traversal.exists_ok_of_toOption hreported
  obtain ⟨f, rfl, hdetail⟩ := List.map_eq_singleton_iff.1 (of_decide_eq_true hdetails)
  obtain ⟨image, himage, hdetails'⟩ := Traversal.exists_ok_of_toOption himage
  obtain ⟨g, rfl, hdetail'⟩ := List.map_eq_singleton_iff.1 (of_decide_eq_true hdetails')
  have halike := (mirror_images_judged_alike {}).2 ascendingSnapshot (fun _ => true) hall
  rw [hfound, himage] at halike
  cases halike with
  | result hfindings =>
    obtain ⟨hfg, -⟩ := List.forall₂_cons.1 hfindings
    rcases hfg with rfl | ⟨seq, hseq, -, hfg⟩
    · exact absurd (hdetail.symm.trans hdetail') (by decide +kernel)
    · obtain rfl := List.mem_singleton.1 hseq
      exact ⟨f, g, hfound, himage, hdetail, hdetail', hfg⟩

end CatalogHealth
