import CatalogHealth.Value.Basic

/-!
# Values as JSON text

A value is written with every member of a list and every entry of a mapping on
a line of its own, two spaces deeper than what holds it. Everything outside
printable ASCII is escaped by its UTF-16 units. Numbers that JSON does not
know are written as `NaN`, `Infinity` and `-Infinity`.
-/

namespace CatalogHealth

namespace Text

/-- The escape of a code point by its UTF-16 units. -/
def jsonUnits (point : CodePoint) : List Char :=
  if point.value < 0x10000 then '\\' :: 'u' :: hexDigits 4 point.value
  else
    let offset := point.value - 0x10000
    '\\' :: 'u' :: hexDigits 4 (0xD800 + offset / 0x400) ++
      '\\' :: 'u' :: hexDigits 4 (0xDC00 + offset % 0x400)

/-- A character in a JSON text. -/
def jsonChar (c : Char) : List Char :=
  if c = '"' || c = '\\' then ['\\', c]
  else if c = '\n' then ['\\', 'n']
  else if c = '\r' then ['\\', 'r']
  else if c = '\t' then ['\\', 't']
  else if c = '\x08' then ['\\', 'b']
  else if c = '\x0c' then ['\\', 'f']
  else if ' ' ≤ c && c ≤ '~' then [c]
  else jsonUnits c

/-- A code point in a JSON text. -/
def jsonPoint : CodePoint → List Char
  | .char c => jsonChar c
  | .half place => jsonUnits (.half place)

/-- A text as JSON writes it. -/
def json (t : Text) : String := String.ofList ('"' :: t.points.flatMap jsonPoint ++ ['"'])

end Text

/-- A binary64 number as JSON writes it. -/
def Binary64.json : Binary64 → String
  | .nan => "NaN"
  | .infinite negative => if negative then "-Infinity" else "Infinity"
  | x => x.plain

namespace Value

/-- A value as JSON writes it when it is a key. -/
def jsonKey : Value → Text
  | null => "null"
  | bool value => if value then "true" else "false"
  | float value => value.json
  | value => value.display

/-- The beginning of a line at some depth. -/
def lineStart (depth : Nat) : String := "\n" ++ String.ofList (List.replicate (2 * depth) ' ')

/-- Members at some depth between brackets, each on its own line. -/
def bracketed (opening closing : String) (depth : Nat) (members : List String) : String :=
  opening ++ ",".intercalate (members.map (lineStart (depth + 1) ++ ·)) ++ lineStart depth ++
    closing

mutual

/-- A value as JSON text at some depth. -/
def json (depth : Nat) : Value → String
  | null => "null"
  | bool value => if value then "true" else "false"
  | int value => toString value
  | float value => value.json
  | text value => Text.json value
  | list items =>
    if items.isEmpty then "[]" else bracketed "[" "]" depth (jsonItems (depth + 1) items)
  | map entries =>
    if entries.isEmpty then "\x7b\x7d"
    else bracketed "\x7b" "\x7d" depth (jsonEntries (depth + 1) entries)

/-- The members of a list as JSON text. -/
def jsonItems (depth : Nat) : List Value → List String
  | [] => []
  | item :: rest => json depth item :: jsonItems depth rest

/-- The entries of a mapping as JSON text. -/
def jsonEntries (depth : Nat) : List (Value × Value) → List String
  | [] => []
  | entry :: rest => jsonEntry depth entry :: jsonEntries depth rest

/-- One entry of a mapping as JSON text. -/
def jsonEntry (depth : Nat) : Value × Value → String
  | (key, value) => Text.json key.jsonKey ++ ": " ++ json depth value

end

/-- A mapping with textual keys. -/
def record (entries : List (String × Value)) : Value :=
  map (entries.map fun entry => (text entry.1, entry.2))

/-- A list of texts. -/
def texts (items : List Text) : Value := list (items.map text)

end Value

end CatalogHealth
