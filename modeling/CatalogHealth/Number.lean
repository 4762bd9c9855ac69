import CatalogHealth.Binary64.Text
import CatalogHealth.Fault

/-!
# Integers and binary64 numbers side by side

Measurements and thresholds are either exact integers or binary64 numbers.
They are compared by their exact values, without converting one to the kind
of the other; arithmetic between the two kinds converts the integer first and
fails if it is out of range.
-/

namespace CatalogHealth

/-- An exact integer or a binary64 number. -/
inductive Number where
  /-- An integer of any size. -/
  | int (value : Int)
  /-- A binary64 number. -/
  | float (value : Binary64)
deriving DecidableEq, Repr, Inhabited

/-- A point of the extended number line, finite ones in units of 2^-1074. -/
inductive Extent where
  /-- Below every finite number. -/
  | below
  /-- A finite number. -/
  | at (units : Int)
  /-- Above every finite number. -/
  | above
deriving DecidableEq, Repr

namespace Extent

/-- The order of the extended line. -/
def le : Extent → Extent → Bool
  | below, _ => true
  | _, above => true
  | .at a, .at b => a ≤ b
  | _, _ => false

theorem le_refl (a : Extent) : a.le a = true := by cases a <;> simp [le]

theorem le_trans {a b c : Extent} (hab : a.le b = true) (hbc : b.le c = true) :
    a.le c = true := by
  cases a <;> cases b <;> cases c <;> simp_all [le]
  omega

theorem le_total (a b : Extent) : a.le b = true ∨ b.le a = true := by
  cases a <;> cases b <;> simp [le]
  omega

theorem le_antisymm {a b : Extent} (hab : a.le b = true) (hba : b.le a = true) : a = b := by
  cases a <;> cases b <;> simp_all [le]
  omega

end Extent

/-- The place of a binary64 number on the extended line; NaN has none. -/
def Binary64.extent? : Binary64 → Option Extent
  | .nan => none
  | .infinite negative => some (if negative then .below else .above)
  | x => some (.at x.signedUnits)

namespace Number

/-- The place of a number on the extended line; NaN has none. -/
def extent? : Number → Option Extent
  | int value => some (.at (value * Binary64.unitsPerOne))
  | float value => value.extent?

/-- At most, by exact value. NaN is at most nothing. -/
def le (a b : Number) : Bool :=
  match a.extent?, b.extent? with
  | some x, some y => x.le y
  | _, _ => false

/-- Less than, by exact value. NaN is less than nothing. -/
def lt (a b : Number) : Bool :=
  match a.extent?, b.extent? with
  | some x, some y => !y.le x
  | _, _ => false

/-- Whether two numbers have the same exact value; NaN has the same as NaN. -/
def same (a b : Number) : Bool := a.extent? = b.extent?

theorem same_refl (a : Number) : a.same a = true := by simp [same]

/-- The number in the binary64 format. -/
def toFloat : Number → Except Fault Binary64
  | int value => (Binary64.ofInt? value).elim (.error .integerTooLarge) .ok
  | float value => .ok value

/-- An operation that is exact between integers and rounded otherwise. -/
def lift (exact : Int → Int → Int) (rounded : Binary64 → Binary64 → Binary64) :
    Number → Number → Except Fault Number
  | int a, int b => .ok (int (exact a b))
  | a, b => do
    let x ← a.toFloat
    let y ← b.toFloat
    return float (rounded x y)

/-- The sum. -/
def add : Number → Number → Except Fault Number := lift (· + ·) Binary64.add

/-- The difference. -/
def sub : Number → Number → Except Fault Number := lift (· - ·) Binary64.sub

/-- The quotient, always in the binary64 format; of two integers it is the
exact ratio rounded once, a zero keeping the sign of the ratio. -/
def div : Number → Number → Except Fault Binary64
  | int a, int b =>
    if b = 0 then .error .divisionByZero
    else
      (Binary64.ofRatio ((a < 0) != (b < 0)) a.natAbs b.natAbs).inRange?.elim
        (.error .quotientTooLarge) .ok
  | a, b => do
    let x ← a.toFloat
    let y ← b.toFloat
    if y.isNonzero then return Binary64.div x y else throw .floatDivisionByZero

/-- The number itself unless zero is larger. -/
def orZero (a : Number) : Number := if a.lt (int 0) then int 0 else a

/-- How often a positive integer goes into a number that is not negative. -/
def wholeQuotient (a : Number) (b : Nat) : Except Fault Number :=
  match a with
  | int value => .ok (int (value.fdiv b))
  | float value => do
    let y ← (int b).toFloat
    return float (Binary64.wholeQuotient value y)

/-- The integer part, toward zero. -/
def truncate : Number → Except Fault Int
  | int value => .ok value
  | float .nan => .error .nanToInteger
  | float (.infinite _) => .error .infinityToInteger
  | float value => .ok (value.truncate?.getD 0)

/-- A number in its plain form. -/
def plain : Number → String
  | int value => toString value
  | float value => value.plain

end Number

end CatalogHealth
