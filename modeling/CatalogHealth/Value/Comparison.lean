import CatalogHealth.Sorting
import CatalogHealth.Value.Basic

/-!
# Comparing values

Values are the same if they cannot be told apart as members of a set or of a
list: numbers and truth values by their exact value, whatever their kind, lists
member by member, mappings whatever the order of their entries. NaN is the same
as itself there, but as an operand it equals nothing. Only numbers, texts and
lists have an order, each among themselves; the first members that differ decide
about lists.
-/

namespace CatalogHealth

/-- A way in which one value may stand to another. -/
inductive Comparison where
  /-- Less than. -/
  | less
  /-- Less than or equal to. -/
  | atMost
  /-- Greater than. -/
  | greater
  /-- Greater than or equal to. -/
  | atLeast
deriving DecidableEq, Repr

namespace Comparison

/-- The sign of a comparison in messages. -/
def sign : Comparison → String
  | less => "<"
  | atMost => "<="
  | greater => ">"
  | atLeast => ">="

/-- Whether two numbers stand to each other in a way. -/
def ofNumbers (comparison : Comparison) (a b : Number) : Bool :=
  match comparison with
  | less => a.lt b
  | atMost => a.le b
  | greater => b.lt a
  | atLeast => b.le a

/-- Whether two texts stand to each other in a way. -/
def ofTexts (comparison : Comparison) (s t : Text) : Bool :=
  match comparison with
  | less => !textLe t s
  | atMost => textLe s t
  | greater => !textLe s t
  | atLeast => textLe t s

/-- Whether two lengths stand to each other in a way. -/
def ofLengths (comparison : Comparison) (m n : Nat) : Bool := comparison.ofNumbers (.int m) (.int n)

end Comparison

namespace Value

mutual

/-- Whether two values are the same, decided along the first. -/
def same : Value → Value → Bool
  | null, null => true
  | text s, text t => s = t
  | list xs, list ys => sameItems xs ys
  | map xs, map ys => entriesAmong xs ys && ys.all fun entry => hasEntry xs entry
  | a, b =>
    match a.number?, b.number? with
    | some x, some y => x.same y
    | _, _ => false
termination_by structural a => a

/-- Whether two lists have the same members in the same order. -/
def sameItems : List Value → List Value → Bool
  | [], [] => true
  | x :: xs, y :: ys => same x y && sameItems xs ys
  | _, _ => false
termination_by structural a => a

/-- Whether all entries of a mapping are entries of another one. -/
def entriesAmong : List (Value × Value) → List (Value × Value) → Bool
  | [], _ => true
  | x :: xs, ys => (ys.any fun entry => sameEntry x entry) && entriesAmong xs ys
termination_by structural a => a

/-- Whether a mapping has an entry. -/
def hasEntry : List (Value × Value) → Value × Value → Bool
  | [], _ => false
  | x :: xs, entry => sameEntry x entry || hasEntry xs entry
termination_by structural a => a

/-- Whether two entries have the same key and the same value. -/
def sameEntry : Value × Value → Value × Value → Bool
  | (key, value), entry => same key entry.1 && same value entry.2
termination_by structural a => a

end

/-- A text is the same as itself and as no other value. -/
theorem same_text (s : Text) (value : Value) : same (text s) value = decide (text s = value) := by
  cases value <;> simp [same, number?]

/-- Whether a value equals another one; NaN equals nothing. -/
def equals (a b : Value) : Bool := a != .float .nan && same a b

theorem equals_text (s : Text) (value : Value) :
    equals (text s) value = decide (text s = value) := by
  simp [equals, same_text]

/-- Whether a value is among some values. -/
def isAmong (value : Value) (values : List Value) : Bool := values.any value.same

mutual

/-- Whether a value stands to another one in a way; two values without a common
order are a fault. -/
def compare (comparison : Comparison) : Value → Value → Except Fault Bool
  | text s, text t => .ok (comparison.ofTexts s t)
  | list xs, list ys => compareItems comparison xs ys
  | a, b =>
    match a.number?, b.number? with
    | some x, some y => .ok (comparison.ofNumbers x y)
    | _, _ => .error (.notOrdered comparison.sign a.kindName b.kindName)
termination_by structural a => a

/-- Whether a list stands to another one in a way: the first members that are
not the same decide, or else the lengths. -/
def compareItems (comparison : Comparison) : List Value → List Value → Except Fault Bool
  | x :: xs, y :: ys =>
    if same x y then compareItems comparison xs ys else compare comparison x y
  | xs, ys => .ok (comparison.ofLengths xs.length ys.length)
termination_by structural a => a

end

/-- Two numbers have a common order. -/
theorem compare_numbers {comparison : Comparison} {a b : Value} {x y : Number}
    (ha : a.number? = some x) (hb : b.number? = some y) :
    a.compare comparison b = .ok (comparison.ofNumbers x y) := by
  cases a <;> cases b <;> simp_all [compare, number?]

/-! ## Sets -/

/-- A value as a member of a set; lists and mappings are none. -/
def asMember (value : Value) : Except Fault Value :=
  if value.isScalar then .ok value else .error (.notAMember value.kindName)

/-- Values without repetition, each where it first appears. -/
def withoutRepetition (values : List Value) : List Value :=
  values.foldl (fun kept value => if value.isAmong kept then kept else kept ++ [value]) []

/-- The members of a set in the order in which they first appear. -/
def distinct (values : List Value) : Except Fault (List Value) :=
  (values.mapM asMember).map withoutRepetition

/-- Whether two lists hold the same values, in whatever order and number. -/
def sameSet (xs ys : List Value) : Bool := xs.all (·.isAmong ys) && ys.all (·.isAmong xs)

end Value

end CatalogHealth
