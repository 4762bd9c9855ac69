import CatalogHealth.Check.Basic
import CatalogHealth.Sorting

/-!
# Sequences that run out

A sequence moves from its last value towards one end of its range. What is
left of the way, as a share of the whole range, is compared with a threshold.
Missing bounds are those of the integer type. Positions and bounds are taken as
they come: what has no order, and what cannot be subtracted, is a fault.
-/

namespace CatalogHealth

/-- How the check for exhausted sequences presents itself. -/
def sequenceOverflowLabel : CheckLabel where
  name := "sequence_overflow"
  category := "sequences"
  description := "Sequences close to running out of values"

/-- The largest value of an integer type; a type of another name counts as the
widest one. -/
def integerTypeMax (dataType : Value) : Int :=
  if dataType = .text "smallint" then 32767
  else if dataType = .text "integer" then 2147483647
  else 9223372036854775807

namespace Sequence

/-- The lower end of the range. -/
def lowerEnd (seq : Sequence) : Value :=
  match seq.minValue with
  | .null => .int (if 0 < seq.increment then 1 else -integerTypeMax seq.dataType - 1)
  | value => value

/-- The upper end of the range. -/
def upperEnd (seq : Sequence) : Value :=
  match seq.maxValue with
  | .null => .int (if 0 < seq.increment then integerTypeMax seq.dataType else -1)
  | value => value

end Sequence

/-- The difference of two numbers. -/
def Value.minus (a b : Value) : Except Fault Number :=
  match a.number?, b.number? with
  | some x, some y => x.sub y
  | _, _ => .error (.unsupportedOperands "-" a.kindName b.kindName)

/-- How far a sequence is from its end. -/
structure SequenceRoom where
  /-- The distance to the end in the direction of the steps, at least zero. -/
  left : Number
  /-- That distance as a share of the range. -/
  share : Binary64
deriving DecidableEq, Repr

/-- The room that a sequence has left; none if its range is empty. -/
def Sequence.room? (seq : Sequence) : Except Fault (Option SequenceRoom) := do
  discard seq.dataType.asMember
  let lower := seq.lowerEnd
  let upper := seq.upperEnd
  if ← upper.compare .atMost lower then return none
  let distance ←
    if 0 < seq.increment then upper.minus seq.lastValue else seq.lastValue.minus lower
  let left := distance.orZero
  return some { left, share := ← left.div (← upper.minus lower) }

/-- The finding about a sequence that runs out. -/
def sequenceFinding (seq : Sequence) (room : SequenceRoom) : Except Fault Finding := do
  let used := (Binary64.one.sub room.share).percent
  let dataType ← seq.dataType.shown
  let position ← seq.lastValue.shown
  let lower ← seq.lowerEnd.shown
  let upper ← seq.upperEnd.shown
  let remaining ← (Value.ofNumber (← room.left.wholeQuotient seq.increment.natAbs)).shown
  return {
    severity := .high
    checkName := sequenceOverflowLabel.name
    category := sequenceOverflowLabel.category
    title := "Sequence '" ++ seq.qualifiedName ++ "' is " ++ used ++ " used"
    detail :=
      "Sequence '" ++ seq.qualifiedName ++ "' (" ++ dataType ++ ") is at " ++ position ++ " of " ++
      "[" ++ lower ++ ", " ++ upper ++ "]; about " ++ remaining ++ " values remain. nextval() " ++
      "fails once the range is exhausted."
    objectName := seq.qualifiedName
    remediation :=
      "Widen the sequence and every column it feeds to bigint (ALTER SEQUENCE ... AS bigint). " ++
      "Not generated: the column change rewrites the table."
    metadata :=
      [("schema", seq.schema), ("sequence", seq.name), ("remaining_ratio", .float room.share)] }

/-- What there is to report about a sequence. -/
def sequenceReport (thresholds : Thresholds) (seq : Sequence) : Except Fault (List Finding) :=
  if seq.cycle || seq.lastValue = .null then .ok []
  else if seq.increment = 0 then
    .ok [sequenceOverflowLabel.cannotEvaluate seq.qualifiedName "increment is zero"]
  else do
    match ← seq.room? with
    | none =>
      return [sequenceOverflowLabel.cannotEvaluate seq.qualifiedName "sequence range is empty"]
    | some room =>
      if ← (Value.float room.share).compare .atLeast thresholds.sequenceRemainingRatio then
        return []
      return [← sequenceFinding seq room]

/-- Sequences that run out. -/
def sequenceOverflow : Check where
  toCheckLabel := sequenceOverflowLabel
  run snapshot thresholds :=
    ((sortByText Sequence.qualifiedName snapshot.sequences).mapM
      (sequenceReport thresholds)).map List.flatten

end CatalogHealth
