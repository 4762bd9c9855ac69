import CatalogHealth.Value.Basic
import CatalogHealth.Text.Blank
import CatalogHealth.Text.DecimalDigit

/-!
# Reading values

A document says how many rows a table has as an integer, as a number or as a
text that spells one; it lists things as a list, as the keys of a mapping or
as the characters of a text. Each reading fails with the fault that tells why.
Integers are read from at most 4300 digits, while numbers may have any length.
-/

namespace CatalogHealth

namespace Text

/-- The characters of a text that should be a numeral; a half counts as one that no
numeral has. -/
def numeral (t : Text) : List Char := t.points.map fun point => point.char?.getD '?'

/-- Whether a character may stand beside a numeral: blank, but no information
separator. -/
def isMargin (c : Char) : Bool := isBlank c && !(0x1C ≤ c.toNat && c.toNat ≤ 0x1F)

/-- A text without the margin around its numeral. -/
def trimMargin (cs : List Char) : List Char :=
  ((cs.dropWhile isMargin).reverse.dropWhile isMargin).reverse

/-- A sign in front of a numeral, and the rest. -/
def takeSign : List Char → Bool × List Char
  | '-' :: rest => (true, rest)
  | '+' :: rest => (false, rest)
  | cs => (false, cs)

/-- Digits of any script, with single underscores between them, and the rest.
An underscore without a digit after it belongs to the rest. -/
def takeDigits : List Char → List Nat × List Char
  | [] => ([], [])
  | c :: rest =>
    match decimalDigit? c with
    | some d =>
      let (ds, after) := takeDigits rest
      (d :: ds, after)
    | none => ([], c :: rest)

/-- Whether every underscore of a text stands between two digits. -/
def underscoresInside : Bool → List Char → Bool
  | _, [] => true
  | digitBefore, '_' :: rest =>
    digitBefore && (rest.head?.bind decimalDigit?).isSome && underscoresInside false rest
  | _, c :: rest => underscoresInside (decimalDigit? c).isSome rest

/-- A text without the underscores that group its digits, if they are placed
well. -/
def ungroup? (cs : List Char) : Option (List Char) :=
  if underscoresInside false cs then some (cs.filter (· != '_')) else none

/-- The number of digits up to which an integer is read. -/
def digitLimit : Nat := 4300

/-- Whether a character may stand in the digits of an integer. -/
def isGroupedDigit (c : Char) : Bool := c = '_' || (decimalDigit? c).isSome

/-- The integer that a text spells: a sign and decimal digits. Misplaced
underscores are refused first, then too many digits, leading zeros counted, and
then a lack of digits and what stands behind them. -/
def integer (t : Text) : Except Fault Int :=
  let (negative, unsigned) := takeSign (trimMargin t.numeral)
  match ungroup? (unsigned.takeWhile isGroupedDigit) with
  | none => .error (.notAnInteger t)
  | some bare =>
    if digitLimit < bare.length then .error (.numeralTooLong bare.length)
    else if bare.isEmpty || !(unsigned.dropWhile isGroupedDigit).isEmpty then
      .error (.notAnInteger t)
    else
      let value : Int := (digitsValue (takeDigits bare).1 : Nat)
      .ok (if negative then -value else value)

/-- The exponent part of a numeral, zero if there is none. -/
def exponent? : List Char → Option Int
  | [] => some 0
  | c :: rest =>
    if c = 'e' ∨ c = 'E' then
      let (negative, unsigned) := takeSign rest
      match takeDigits unsigned with
      | ([], _) => none
      | (digits, []) =>
        let value : Int := (digitsValue digits : Nat)
        some (if negative then -value else value)
      | (_, _ :: _) => none
    else none

/-- The magnitude of a numeral without its sign: digits, a point with more
digits, an exponent. At least one digit stands before or after the point. -/
def magnitude? (negative : Bool) (cs : List Char) : Option Binary64 :=
  let (whole, afterWhole) := takeDigits cs
  let (places, afterPlaces) :=
    match afterWhole with
    | '.' :: rest => takeDigits rest
    | _ => ([], afterWhole)
  if whole.isEmpty && places.isEmpty then none
  else
    (exponent? afterPlaces).map fun exponent =>
      Binary64.ofDecimal negative (digitsValue (whole ++ places)) (exponent - places.length)

/-- The binary64 number that a text spells: a decimal numeral or one of the
words for infinity and NaN in any capitalisation. -/
def number? (cs : List Char) : Option Binary64 :=
  (ungroup? (trimMargin cs)).bind fun bare =>
    let (negative, unsigned) := takeSign bare
    let word := String.ofList (unsigned.map Char.toLower)
    if word = "inf" ∨ word = "infinity" then some (.infinite negative)
    else if word = "nan" then some .nan
    else magnitude? negative unsigned

end Text

namespace Value

/-- The integer that a value is or spells; a number loses its fraction. -/
def integer : Value → Except Fault Int
  | bool value => .ok (if value then 1 else 0)
  | int value => .ok value
  | float value => (Number.float value).truncate
  | text value => Text.integer value
  | value => .error (.noInteger value.kindName)

/-- The binary64 number that a value is or spells. -/
def real : Value → Except Fault Binary64
  | text value =>
    match Text.number? value.numeral with
    | some x => .ok x
    | none => .error (.notANumber value)
  | value =>
    match value.number? with
    | some number => number.toFloat
    | none => .error (.noNumber value.kindName)

/-- The members of a value where a list is expected. -/
def members : Value → Except Fault (List Value)
  | list items => .ok items
  | text value => .ok (value.points.map fun point => text ⟨[point]⟩)
  | map entries => .ok (entries.map (·.1))
  | value => .error (.notIterable value.kindName)

/-- A value without members is only refused for that. -/
theorem notIterable_of_members {value : Value} {fault : Fault}
    (h : value.members = .error fault) : ∃ kind, fault = .notIterable kind := by
  cases value with
  | null | bool _ | int _ | float _ => exact ⟨_, (Except.error.inj h).symm⟩
  | text _ | list _ | map _ => cases h

/-- The members of a value that may be absent or empty. -/
def membersOrNone (value : Value) : Except Fault (List Value) :=
  if value.truthy then value.members else .ok []

/-- The members of a list are those listed, also if there are none. -/
theorem membersOrNone_list (values : List Value) : (list values).membersOrNone = .ok values := by
  cases values <;> rfl

/-- Texts with commas between them; the first value that is no text is refused. -/
def joined (values : List Value) : Except Fault Text :=
  match values.zipIdx.find? fun (value, _) => value.text?.isNone with
  | some (value, place) => .error (.notJoinable place value.kindName)
  | none => .ok (Text.join ", " (values.filterMap text?))

/-- The value under a textual key of some entries. -/
def find? (key : String) : List (Value × Value) → Option Value
  | [] => none
  | (k, value) :: rest => if k.text? = some key then some value else find? key rest

/-- The value of an entry stands under its own key. -/
theorem find?_cons (name : String) (key value : Value) (rest : List (Value × Value)) :
    find? name ((key, value) :: rest) =
      if key = .text name then some value else find? name rest := by
  have hkey : key.text? = some (Text.ofString name) ↔ key = .text name := by
    cases key <;> simp [text?]
  exact ite_congr (propext hkey) (fun _ => rfl) fun _ => rfl

/-- The value under a key that has to be there. -/
def require (key : String) : Value → Except Fault Value
  | map entries =>
    match find? key entries with
    | some value => .ok value
    | none => .error (.missingKey (Text.quoted key))
  | text _ => .error .keyOfText
  | list _ => .error .keyOfList
  | value => .error (.notSubscriptable value.kindName)

/-- The value under a key that may be missing. -/
def lookup (key : String) : Value → Except Fault (Option Value)
  | map entries => .ok (find? key entries)
  | _ => .error .noSuchOperation

/-- The value under a key, or a default. -/
def lookupD (value : Value) (key : String) (default : Value) : Except Fault Value := do
  return (← value.lookup key).getD default

/-- A mapping has a value or the default under every key. -/
theorem lookupD_map (entries : List (Value × Value)) (key : String) (default : Value) :
    (map entries).lookupD key default = .ok ((find? key entries).getD default) := rfl

end Value

end CatalogHealth
