import CatalogHealth.Text.Basic
import CatalogHealth.Text.Printable

/-!
# Quoted texts in messages

Messages show a text between quotes with everything escaped that could not be
read on a terminal, so a quoted text is a string. The quote is the apostrophe unless
the text holds an apostrophe and no double quote.
-/

namespace CatalogHealth.Text

/-- The lower-case hexadecimal digit of a value below sixteen. -/
def hexDigit (n : Nat) : Char := if n < 10 then Char.ofNat (48 + n) else Char.ofNat (87 + n)

/-- The last `width` hexadecimal digits of a number. -/
def hexDigits : Nat → Nat → List Char
  | 0, _ => []
  | width + 1, n => hexDigits width (n / 16) ++ [hexDigit (n % 16)]

/-- The quote that a message puts around a text. -/
def quoteFor (points : List CodePoint) : Char :=
  if points.contains '\'' && !points.contains '"' then '"' else '\''

/-- The escape of a code point by its number. -/
def escaped (point : CodePoint) : List Char :=
  if point.value ≤ 0xFF then '\\' :: 'x' :: hexDigits 2 point.value
  else if point.value ≤ 0xFFFF then '\\' :: 'u' :: hexDigits 4 point.value
  else '\\' :: 'U' :: hexDigits 8 point.value

/-- One character between the quotes of a message. -/
def quotedChar (quote c : Char) : List Char :=
  if c = quote || c = '\\' then ['\\', c]
  else if c = '\t' then ['\\', 't']
  else if c = '\n' then ['\\', 'n']
  else if c = '\r' then ['\\', 'r']
  else if isPrintable c then [c]
  else escaped c

/-- One code point between the quotes of a message. -/
def quotedPoint (quote : Char) : CodePoint → List Char
  | .char c => quotedChar quote c
  | .half place => escaped (.half place)

/-- A text as messages quote it. -/
def quoted (t : Text) : String :=
  let quote := quoteFor t.points
  String.ofList (quote :: t.points.flatMap (quotedPoint quote) ++ [quote])

end CatalogHealth.Text
