import CatalogHealth.Fault
import CatalogHealth.Yaml.Folding

/-!
# Scalars in quotes as they are written

Between apostrophes only the apostrophe itself is special and written twice.
Between double quotes a backslash begins a short name, a code point or the end of
a line. Code points of two halves that make a pair are not joined. A line that
separates documents may not stand between quotes.
-/

namespace CatalogHealth.Yaml

/-- A scalar in quotes up to the closing one: its parts, the number of its
characters, and the rest of the text. -/
structure Quotation where
  /-- The parts. -/
  parts : List Part
  /-- The number of characters with the closing quote. -/
  width : Nat
  /-- The text behind the closing quote. -/
  rest : List Char

/-- A quotation with one more part in front. -/
def Quotation.behind (part : Part) (width : Nat) (quotation : Quotation) : Quotation :=
  { quotation with parts := part :: quotation.parts, width := quotation.width + width }

/-- A character between quotes as a part, given what comes after it. -/
def quotedPart? (c : Char) (rest : List Char) : Option Part :=
  if isBreak c then if separatesDocuments rest then none else some (.lineEnd c)
  else some (if c = ' ' || c = '\t' then .space c else .point c)

/-- What stands between apostrophes. -/
def takeSingle : List Char → Option Quotation
  | [] => none
  | '\'' :: '\'' :: rest => (takeSingle rest).map (·.behind (.point (.char '\'')) 2)
  | c :: rest =>
    if c = '\'' then some { parts := [], width := 1, rest }
    else
      (quotedPart? c rest).bind fun part => (takeSingle rest).map (·.behind part 1)

/-- The character behind a backslash that stands for one other character. -/
def escaped? (c : Char) : Option Char :=
  [('0', '\x00'), ('a', '\x07'), ('b', '\x08'), ('t', '\t'), ('\t', '\t'), ('n', '\n'),
   ('v', '\x0b'), ('f', '\x0c'), ('r', '\r'), ('e', '\x1b'), (' ', ' '), ('"', '"'), ('\\', '\\'),
   ('/', '/'), ('N', '\u0085'), ('_', '\u00a0'), ('L', '\u2028'), ('P', '\u2029')].lookup c

/-- The value of a hexadecimal digit in either case. -/
def hexDigit? (c : Char) : Option Nat :=
  if '0' ≤ c ∧ c ≤ '9' then some (c.toNat - 48)
  else if 'a' ≤ c ∧ c ≤ 'f' then some (c.toNat - 87)
  else if 'A' ≤ c ∧ c ≤ 'F' then some (c.toNat - 55)
  else none

/-- The number that hexadecimal digits stand for. -/
def hexNumber? (digits : List Char) : Option Nat :=
  (digits.mapM hexDigit?).map fun values => values.foldl (fun value digit => value * 16 + digit) 0

/-- The code point of a hexadecimal number. -/
def codePoint (digits : List Char) : Except Fault CodePoint :=
  match hexNumber? digits with
  | none => .error .unreadableDocument
  | some code =>
    if 0x7FFFFFFF < code then .error .codePointTooLarge
    else if 0x10FFFF < code then .error .codePointOutOfRange
    else .ok (CodePoint.ofValue code)

/-- What stands between double quotes, `skipped` characters of it being read
already. -/
def takeDoubleFrom : Nat → List Char → Except Fault Quotation
  | _, [] => .error .unreadableDocument
  | skipped + 1, _ :: rest => takeDoubleFrom skipped rest
  | 0, c :: rest =>
    if c = '"' then .ok { parts := [], width := 1, rest }
    else if c != '\\' then
      match quotedPart? c rest with
      | some part => (takeDoubleFrom 0 rest).map (·.behind part 1)
      | none => .error .unreadableDocument
    else
      match rest with
      | [] => .error .unreadableDocument
      | name :: after =>
        match [('x', 2), ('u', 4), ('U', 8)].lookup name with
        | some count => do
          if (after.take count).length < count then throw .unreadableDocument
          let point ← codePoint (after.take count)
          (takeDoubleFrom (count + 1) rest).map (·.behind (.point point) (count + 2))
        | none =>
          match escaped? name with
          | some meant => (takeDoubleFrom 1 rest).map (·.behind (.point meant) 2)
          | none =>
            if isBreak name && !separatesDocuments after then
              (takeDoubleFrom 1 rest).map (·.behind .joint 2)
            else .error .unreadableDocument

/-- What stands between double quotes. -/
def takeDouble (cs : List Char) : Except Fault Quotation := takeDoubleFrom 0 cs

end CatalogHealth.Yaml
