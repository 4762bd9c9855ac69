import CatalogHealth.Binary64.Basic

/-!
# Binary64 numbers as text

Two forms are written. The plain form has the fewest decimal digits that read
back to the number, positional while the exponent of the leading digit is from
-4 to 15 and scientific otherwise. The fixed form has a given number of places
and rounds the exact value, a half to the even neighbour.
-/

namespace CatalogHealth.Binary64

/-- A decimal `digits * 10^exponent`. -/
structure Decimal where
  /-- The significant digits as one natural number. -/
  digits : Nat
  /-- The power of ten that the digits count. -/
  exponent : Int
deriving DecidableEq, Repr

/-- The decimal digits of a natural number, most significant first. -/
def digitChars (n : Nat) : List Char := Nat.toDigits 10 n

/-- The least `k` with value below `10^k`, for a positive count of units. -/
def scale (units : Nat) : Int :=
  if unitsPerOne ≤ units then (digitChars (units / unitsPerOne)).length
  else 1 - ((digitChars ((unitsPerOne - 1) / units)).length : Int)

/-- The distance in units between a magnitude and its neighbour above. -/
def spacing (units : Nat) : Nat := Nat.pow 2 (units.log2 + 1 - 53)

/-- Whether a decimal rounds to the magnitude: it lies between the midpoints to
the two neighbours, ends included exactly when the significand is even. -/
def readsBack (units : Nat) (d : Decimal) : Bool :=
  let gap := spacing units
  let narrow := decide (1 < gap) && units == Nat.pow 2 units.log2
  let up := Nat.pow 10 (-d.exponent).toNat
  let value := 4 * d.digits * unitsPerOne * Nat.pow 10 d.exponent.toNat
  let low := (4 * units - (if narrow then gap else 2 * gap)) * up
  let high := (4 * units + 2 * gap) * up
  if units / gap % 2 = 0 then decide (low ≤ value) && decide (value ≤ high)
  else decide (low < value) && decide (value < high)

/-- The decimal on the grid of `10^exponent` that reads back, if one of the two
neighbours of the value there does: the nearer one, the even one on a tie. -/
def onGrid (units : Nat) (exponent : Int) : Option Decimal :=
  let num := units * Nat.pow 10 (-exponent).toNat
  let den := unitsPerOne * Nat.pow 10 exponent.toNat
  let below : Decimal := ⟨num / den, exponent⟩
  let above : Decimal := ⟨num / den + 1, exponent⟩
  match readsBack units below, readsBack units above with
  | true, true => some ⟨roundDiv num den, exponent⟩
  | true, false => some below
  | false, true => some above
  | false, false => none

/-- Trailing zeros move from the digits into the exponent; at most `fuel` of
them. -/
def stripZeros : Nat → Decimal → Decimal
  | 0, d => d
  | fuel + 1, d =>
    if d.digits % 10 = 0 ∧ d.digits ≠ 0 then stripZeros fuel ⟨d.digits / 10, d.exponent + 1⟩ else d

/-- The shortest decimal that reads back to a positive count of units. Should
17 digits not suffice, the exact decimal value stands in. -/
def shortest (units : Nat) : Decimal :=
  let found := (List.range 17).findSome? fun n => onGrid units (scale units - (n + 1 : Nat))
  stripZeros 20 (found.getD ⟨units * Nat.pow 5 1074, -1074⟩)

/-- A positive decimal in the plain form. -/
def Decimal.plain (d : Decimal) : List Char :=
  let digits := digitChars d.digits
  let lead := d.exponent + (digits.length : Int) - 1
  if -4 ≤ lead ∧ lead < 16 then
    if 0 ≤ d.exponent then digits ++ List.replicate d.exponent.toNat '0' ++ ['.', '0']
    else if 0 ≤ lead then
      digits.take (lead.toNat + 1) ++ '.' :: digits.drop (lead.toNat + 1)
    else '0' :: '.' :: List.replicate (-lead - 1).toNat '0' ++ digits
  else
    let point := if digits.length = 1 then digits else digits.take 1 ++ '.' :: digits.drop 1
    let mark := if lead < 0 then '-' else '+'
    let power := digitChars lead.natAbs
    point ++ 'e' :: mark :: (if power.length < 2 then '0' :: power else power)

/-- The sign in front of a magnitude. -/
def signChars (negative : Bool) : List Char := if negative then ['-'] else []

/-- The plain form of a number. -/
def plain : Binary64 → String
  | nan => "nan"
  | infinite negative => if negative then "-inf" else "inf"
  | finite negative units =>
    String.ofList (signChars negative ++
      (if units = 0 then ['0', '.', '0'] else (shortest units).plain))

/-- A natural number of `10^-places` as text with a point before the places. -/
def pointed (places n : Nat) : List Char :=
  let digits := digitChars n
  let padded := List.replicate (places + 1 - digits.length) '0' ++ digits
  if places = 0 then padded
  else padded.take (padded.length - places) ++ '.' :: padded.drop (padded.length - places)

/-- The form of a number with a fixed number of places. -/
def fixed (places : Nat) : Binary64 → String
  | nan => "nan"
  | infinite negative => if negative then "-inf" else "inf"
  | finite negative units =>
    String.ofList (signChars negative ++
      pointed places (roundDiv (units * Nat.pow 10 places) unitsPerOne))

/-- A hundred. -/
def hundred : Binary64 := finite false (100 * unitsPerOne)

/-- A ratio as a whole number of hundredths: the product with a hundred is
rounded to the format before it is rounded to a whole number. -/
def percent (x : Binary64) : String := (mul x hundred).fixed 0 ++ "%"

end CatalogHealth.Binary64
