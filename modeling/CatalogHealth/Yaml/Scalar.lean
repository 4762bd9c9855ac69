import CatalogHealth.Text.Split
import CatalogHealth.Value.Reading
import CatalogHealth.Yaml.Quoted

/-!
# What scalars without quotes stand for

What a scalar without quotes stands for is seen from its text: nothing, a truth
value, an integer, a binary64 number or else the text itself. Integers are
decimal, octal behind a zero, binary behind `0b` or hexadecimal behind `0x`, with
underscores wherever a digit may stand after the first. Numbers have a point, and
their exponent has a sign. Both may be given in parts to the base sixty with colons
between them. An equals sign and two angle brackets stand for no value. Dates and
times are outside of what is read here: a scalar that spells one is read as its text,
where readers that know of dates make a date of it, which no text equals.
-/

namespace CatalogHealth.Yaml

/-- The texts that stand for nothing. -/
def nullWords : List String := ["", "~", "null", "Null", "NULL"]

/-- The texts that stand for true. -/
def trueWords : List String := ["yes", "Yes", "YES", "true", "True", "TRUE", "on", "On", "ON"]

/-- The texts that stand for false. -/
def falseWords : List String :=
  ["no", "No", "NO", "false", "False", "FALSE", "off", "Off", "OFF"]

/-- The value of a digit to a base of at most sixteen. -/
def digit? (base : Nat) (c : Char) : Option Nat :=
  (hexDigit? c).filter (· < base)

/-- The digits to a base that a text consists of, underscores being skipped. -/
def digits? (base : Nat) (cs : List Char) : Option (List Nat) :=
  if cs.isEmpty then none else (cs.filter (· != '_')).mapM (digit? base)

/-- The base and the digits of an integer without a sign. -/
def numeral? : List Char → Option (Nat × List Nat)
  | ['0'] => some (8, [0])
  | '0' :: 'b' :: rest => (digits? 2 rest).map (2, ·)
  | '0' :: 'x' :: rest => (digits? 16 rest).map (16, ·)
  | '0' :: rest => (digits? 8 rest).map (8, ·)
  | '_' :: _ => none
  | cs => (digits? 10 cs).map (10, ·)

/-- The number that digits to a base stand for. A binary or hexadecimal one needs a
digit, and a decimal one has at most as many as an integer is read from. -/
def magnitude (base : Nat) (digits : List Nat) : Except Fault Nat :=
  if (base = 2 || base = 16) && digits.isEmpty then .error (.baseWithoutDigits base)
  else if base = 10 && decide (Text.digitLimit < digits.length) then
    .error (.numeralTooLong digits.length)
  else .ok (digits.foldl (fun value digit => value * base + digit) 0)

/-! ## Parts to the base sixty -/

/-- Whether a text is a part behind a colon: one digit, or two below sixty. -/
def isSixtieth (cs : List Char) : Bool :=
  match cs with
  | [c] => (digit? 10 c).isSome
  | [c, d] => (digit? 6 c).isSome && (digit? 10 d).isSome
  | _ => false

/-- The first part and those behind colons, of which there is at least one. -/
def sixtieths? (cs : List Char) : Option (List Char × List (List Char)) :=
  match Text.pieces ':' cs with
  | first :: second :: rest =>
    if (second :: rest).all isSixtieth then some (first, second :: rest) else none
  | _ => none

/-- The integer without a sign that a text spells in parts to the base sixty, if it has
the shape of one. Its first digit is not zero. -/
def sixtyBased? (cs : List Char) : Option (Except Fault Nat) :=
  match sixtieths? cs with
  | none => none
  | some (first, others) =>
    match first.head?.filter (· != '0'), numeral? first with
    | some _, some (10, digits) =>
      some do
        let start ← magnitude 10 digits
        return others.foldl
          (fun value part => value * 60 + Text.digitsValue (part.filterMap (digit? 10))) start
    | _, _ => none

/-- The integer that a text spells, if it has the shape of one. -/
def integer? (cs : List Char) : Option (Except Fault Int) :=
  let (negative, unsigned) := Text.takeSign cs
  let found :=
    match numeral? unsigned with
    | some (base, digits) => some (magnitude base digits)
    | none => sixtyBased? unsigned
  found.map fun value => value.map fun n => if negative then -(n : Int) else n

/-- Whether a text is decimal digits with underscores behind the first. -/
def isDigits : List Char → Bool
  | [] => false
  | c :: rest =>
    (digit? 10 c).isSome && rest.all fun d => d = '_' || (digit? 10 d).isSome

/-- Whether a text may follow the places of a number: nothing, or an exponent
with a sign. -/
def isExponent : List Char → Bool
  | [] => true
  | [_] => false
  | e :: sign :: digits =>
    (e = 'e' || e = 'E') && (sign = '+' || sign = '-') && !digits.isEmpty &&
      digits.all fun d => (digit? 10 d).isSome

/-- Whether a text without a sign is a number with a point. Without digits in
front of the point there have to be places behind it. -/
def isPointed (cs : List Char) : Bool :=
  match Text.cut '.' cs with
  | none => false
  | some (whole, rest) =>
    let places := rest.takeWhile fun d => d = '_' || (digit? 10 d).isSome
    let exponent := rest.dropWhile fun d => d = '_' || (digit? 10 d).isSome
    (isDigits whole || whole.isEmpty && isDigits places) && isExponent exponent

/-- The number that parts to the base sixty stand for, the last part first, added up
from the smallest, given what the last part counts and the sum so far. A count that is
out of range is a fault. -/
def sixtyBasedSum (count : Nat) (sum : Binary64) : List Binary64 → Except Fault Binary64
  | [] => .ok sum
  | part :: rest => do
    let unit ← (Number.int count).toFloat
    sixtyBasedSum (count * 60) (sum.add (part.mul unit)) rest

/-- The number without a sign that a text spells in parts to the base sixty, the last of
them with a point, if it has the shape of one. -/
def sixtyBasedReal? (cs : List Char) : Option (Except Fault Binary64) :=
  match Text.cut '.' cs with
  | none => none
  | some (whole, places) =>
    match sixtieths? whole with
    | none => none
    | some (first, others) =>
      if isDigits first && places.all fun d => d = '_' || (digit? 10 d).isSome then
        let parts := first :: others.dropLast ++ [others.getLast?.getD [] ++ '.' :: places]
        let numbers := parts.filterMap fun part => Text.number? (part.filter (· != '_'))
        some (sixtyBasedSum 1 (.finite false 0) numbers.reverse)
      else none

/-- The binary64 number that a text spells. Only what has digits in front of
its point may have a sign, apart from infinity. -/
def real? (cs : List Char) : Option (Except Fault Binary64) :=
  let (negative, magnitude) := Text.takeSign cs
  let word := String.ofList magnitude
  if [".inf", ".Inf", ".INF"].contains word then some (.ok (.infinite negative))
  else if [".nan", ".NaN", ".NAN"].contains (String.ofList cs) then some (.ok .nan)
  else if isPointed magnitude && (cs = magnitude || magnitude.head? != some '.') then
    (Text.number? (cs.filter (· != '_'))).map .ok
  else
    (sixtyBasedReal? magnitude).map fun x => x.map fun x => if negative then x.neg else x

/-- The scalar that stands for the entries of other mappings in front of a colon. -/
def mergeWord : String := "<<"

/-- The scalar that stands for itself in front of a colon and for nothing elsewhere. -/
def defaultWord : String := "="

/-- The value that a word without quotes stands for. There are no dates among values, so
that a word which spells one is a text here. -/
def wordValue (s : String) : Except Fault Value :=
  if nullWords.contains s then .ok .null
  else if trueWords.contains s then .ok (.bool true)
  else if falseWords.contains s then .ok (.bool false)
  else if s = mergeWord ∨ s = defaultWord then .error .unreadableDocument
  else
    match real? s.toList, integer? s.toList with
    | some x, _ => x.map .float
    | none, some i => i.map .int
    | none, none => .ok (.text s)

/-- The value that a scalar without quotes stands for. One that is no string is a text. -/
def plainValue (t : Text) : Except Fault Value :=
  match t.string? with
  | some s => wordValue s
  | none => .ok (.text t)

/-- The value that a scalar without quotes stands for as a key. -/
def plainKey (t : Text) : Except Fault Value :=
  if t = Text.ofString defaultWord then .ok (.text t) else plainValue t

end CatalogHealth.Yaml
