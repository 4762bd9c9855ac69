/-!
# Binary64 numbers by exact arithmetic

Ratios and byte sizes are measured in the binary64 format. A finite number is
held as a whole count of the least positive number of the format, 2^-1074, so
that comparing two numbers is comparing two integers and every operation is
the exact result rounded once to 53 binary digits, ties to even. No machine
arithmetic is involved. Signalling, payloads and the other rounding modes are
outside the scope of this module.
-/

namespace CatalogHealth

/-- A number of the binary64 format. -/
inductive Binary64 where
  /-- The result of an undefined operation; it is ordered with nothing. -/
  | nan
  /-- A magnitude beyond the largest finite one. -/
  | infinite (negative : Bool)
  /-- A finite magnitude counted in units of 2^-1074. Zero has a sign as well. -/
  | finite (negative : Bool) (units : Nat)
deriving DecidableEq, Repr, Inhabited

namespace Binary64

/-- The number of units in one, 2^1074. -/
def unitsPerOne : Nat := Nat.pow 2 1074

/-- One. -/
def one : Binary64 := finite false unitsPerOne

/-- The least magnitude, in units, that is no longer finite: 2^1024. -/
def overflowUnits : Nat := Nat.pow 2 2098

/-- A quotient rounded to the nearest integer, a half to the even neighbour. -/
def roundDiv (num den : Nat) : Nat :=
  if 2 * (num % den) < den then num / den
  else if den < 2 * (num % den) then num / den + 1
  else if num / den % 2 = 0 then num / den else num / den + 1

/-- A count of units rounded to 53 significant binary digits. -/
def roundUnits (num den : Nat) : Nat :=
  let spare := Nat.pow 2 ((num / den).log2 + 1 - 53)
  roundDiv num (den * spare) * spare

/-- The binary64 number nearest to `num / den` units. -/
def ofUnits (negative : Bool) (num den : Nat) : Binary64 :=
  let units := roundUnits num den
  if overflowUnits ≤ units then infinite negative else finite negative units

/-- The binary64 number nearest to a ratio of naturals. -/
def ofRatio (negative : Bool) (num den : Nat) : Binary64 :=
  ofUnits negative (num * unitsPerOne) den

/-- The number itself unless its magnitude is beyond the largest finite one. -/
def inRange? : Binary64 → Option Binary64
  | infinite _ => none
  | x => some x

/-- The binary64 number nearest to an integer, if it is finite. -/
def ofInt? (i : Int) : Option Binary64 := (ofRatio (i < 0) i.natAbs 1).inRange?

/-- The number that `digits * 10^exponent` is rounded to. Exponents far outside
the range of the format are decided by the count of digits alone. -/
def ofDecimal (negative : Bool) (digits : Nat) (exponent : Int) : Binary64 :=
  if digits = 0 then finite negative 0
  else
    let magnitude := exponent + (Nat.toDigits 10 digits).length
    if magnitude > 400 then infinite negative
    else if magnitude < -400 then finite negative 0
    else ofRatio negative (digits * Nat.pow 10 exponent.toNat) (Nat.pow 10 (-exponent).toNat)

/-- The signed count of units of a finite number, zero for the others. -/
def signedUnits : Binary64 → Int
  | finite true units => -(units : Int)
  | finite false units => units
  | _ => 0

/-- Whether a number is neither NaN nor zero. -/
def isNonzero : Binary64 → Bool
  | nan => true
  | infinite _ => true
  | finite _ units => units != 0

/-- The sign bit; NaN counts as positive. -/
def isNegative : Binary64 → Bool
  | nan => false
  | infinite negative => negative
  | finite negative _ => negative

/-- The number with the opposite sign. -/
def neg : Binary64 → Binary64
  | nan => nan
  | infinite negative => infinite (!negative)
  | finite negative units => finite (!negative) units

/-- The number without its sign. -/
def abs : Binary64 → Binary64
  | nan => nan
  | infinite _ => infinite false
  | finite _ units => finite false units

/-- The sum rounded once. A zero sum is negative only if both terms are. -/
def add : Binary64 → Binary64 → Binary64
  | nan, _ => nan
  | _, nan => nan
  | infinite s, infinite t => if s = t then infinite s else nan
  | infinite s, _ => infinite s
  | _, infinite t => infinite t
  | x@(finite s _), y@(finite t _) =>
    let total := x.signedUnits + y.signedUnits
    if total = 0 then finite (s && t) 0 else ofUnits (total < 0) total.natAbs 1

/-- The difference rounded once. -/
def sub (x y : Binary64) : Binary64 := add x (neg y)

/-- The product rounded once. -/
def mul : Binary64 → Binary64 → Binary64
  | nan, _ => nan
  | _, nan => nan
  | infinite s, y => if y.isNonzero then infinite (s != y.isNegative) else nan
  | x, infinite t => if x.isNonzero then infinite (x.isNegative != t) else nan
  | finite s u, finite t v => ofUnits (s != t) (u * v) unitsPerOne

/-- The quotient rounded once; the divisor is taken to be nonzero. -/
def div : Binary64 → Binary64 → Binary64
  | nan, _ => nan
  | _, nan => nan
  | infinite _, infinite _ => nan
  | infinite s, y => infinite (s != y.isNegative)
  | x, infinite t => finite (x.isNegative != t) 0
  | finite s u, finite t v => ofUnits (s != t) (u * unitsPerOne) v

/-- The integer part of a finite number, toward zero. -/
def truncate? : Binary64 → Option Int
  | finite negative units =>
    let whole : Int := (units / unitsPerOne : Nat)
    some (if negative then -whole else whole)
  | _ => none

/-- How often a positive divisor goes into a dividend that is not negative.
The multiple of the divisor and the quotient are each rounded to the format
before the nearest whole number is taken. -/
def wholeQuotient : Binary64 → Binary64 → Binary64
  | finite s u, finite _ v =>
    let multiple := ofUnits s (u - u % v) 1
    match div multiple (finite false v) with
    | finite _ q =>
      if q = 0 then finite s 0
      else
        let whole := q / unitsPerOne * unitsPerOne
        if unitsPerOne < 2 * (q - whole) then finite s (whole + unitsPerOne) else finite s whole
    | x => x
  | _, _ => nan

end Binary64

end CatalogHealth
