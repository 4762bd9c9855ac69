import CatalogHealth.Number

/-!
# Document values

Snapshot documents, configuration files and catalogue rows are read from one
kind of value: nothing, truth values, numbers, texts, lists and mappings. Keys
of a mapping are values too, because a document may use a number or a truth
value as a key. Values also carry the metadata of findings.
-/

namespace CatalogHealth

/-- A value of a document. -/
inductive Value where
  /-- The absent value. -/
  | null
  /-- A truth value. -/
  | bool (value : Bool)
  /-- An integer of any size. -/
  | int (value : Int)
  /-- A binary64 number. -/
  | float (value : Binary64)
  /-- A text. -/
  | text (value : Text)
  /-- A list. -/
  | list (items : List Value)
  /-- A mapping, in the order of its entries. -/
  | map (entries : List (Value × Value))
deriving Repr, Inhabited

namespace Value

/-- The name of the kind of a value in messages. -/
def kindName : Value → String
  | null => "NoneType"
  | bool _ => "bool"
  | int _ => "int"
  | float _ => "float"
  | text _ => "str"
  | list _ => "list"
  | map _ => "dict"

/-- Whether a value counts as true: everything but the absent value, false,
zero and what is empty. -/
def truthy : Value → Bool
  | null => false
  | bool value => value
  | int value => value != 0
  | float value => value.isNonzero
  | text value => value != ""
  | list items => !items.isEmpty
  | map entries => !entries.isEmpty

/-- The number that a value stands for; a truth value stands for zero or one. -/
def number? : Value → Option Number
  | bool value => some (.int (if value then 1 else 0))
  | int value => some (.int value)
  | float value => some (.float value)
  | _ => none

/-- A number as a value. -/
def ofNumber : Number → Value
  | .int value => int value
  | .float value => float value

/-- A text or the absent value. -/
def ofText? : Option Text → Value
  | some value => text value
  | none => null

mutual

/-- A value as messages quote it. -/
def quoted : Value → String
  | null => "None"
  | bool value => if value then "True" else "False"
  | int value => toString value
  | float value => value.plain
  | text value => Text.quoted value
  | list items => "[" ++ ", ".intercalate (quotedItems items) ++ "]"
  | map entries => "\x7b" ++ ", ".intercalate (quotedEntries entries) ++ "\x7d"

/-- The members of a list as messages quote them. -/
def quotedItems : List Value → List String
  | [] => []
  | item :: rest => quoted item :: quotedItems rest

/-- The entries of a mapping as messages quote them. -/
def quotedEntries : List (Value × Value) → List String
  | [] => []
  | entry :: rest => quotedEntry entry :: quotedEntries rest

/-- One entry of a mapping as messages quote it. -/
def quotedEntry : Value × Value → String
  | (key, value) => quoted key ++ ": " ++ quoted value

end

mutual

/-- Whether two values are the same, decided along the first. -/
def agree : Value → Value → Bool
  | null, null => true
  | bool x, bool y => x = y
  | int x, int y => x = y
  | float x, float y => x = y
  | text x, text y => x = y
  | list xs, list ys => agreeItems xs ys
  | map xs, map ys => agreeEntries xs ys
  | _, _ => false
termination_by structural a => a

/-- Whether two lists of values are the same. -/
def agreeItems : List Value → List Value → Bool
  | [], [] => true
  | x :: xs, y :: ys => agree x y && agreeItems xs ys
  | _, _ => false
termination_by structural a => a

/-- Whether two lists of entries are the same. -/
def agreeEntries : List (Value × Value) → List (Value × Value) → Bool
  | [], [] => true
  | x :: xs, y :: ys => agreeEntry x y && agreeEntries xs ys
  | _, _ => false
termination_by structural a => a

/-- Whether two entries are the same. -/
def agreeEntry : Value × Value → Value × Value → Bool
  | (k, v), (l, w) => agree k l && agree v w
termination_by structural a => a

end

mutual

theorem agree_iff : ∀ a b : Value, agree a b = true ↔ a = b
  | null, b => by cases b <;> simp [agree]
  | bool x, b => by cases b <;> simp [agree]
  | int x, b => by cases b <;> simp [agree]
  | float x, b => by cases b <;> simp [agree]
  | text x, b => by cases b <;> simp [agree]
  | list xs, b => by cases b <;> simp [agree, agreeItems_iff xs]
  | map xs, b => by cases b <;> simp [agree, agreeEntries_iff xs]

theorem agreeItems_iff : ∀ a b : List Value, agreeItems a b = true ↔ a = b
  | [], b => by cases b <;> simp [agreeItems]
  | x :: xs, b => by cases b <;> simp [agreeItems, agree_iff x, agreeItems_iff xs]

theorem agreeEntries_iff : ∀ a b : List (Value × Value), agreeEntries a b = true ↔ a = b
  | [], b => by cases b <;> simp [agreeEntries]
  | x :: xs, b => by cases b <;> simp [agreeEntries, agreeEntry_iff x, agreeEntries_iff xs]

theorem agreeEntry_iff : ∀ a b : Value × Value, agreeEntry a b = true ↔ a = b
  | (k, v), (l, w) => by simp [agreeEntry, agree_iff k, agree_iff v]

end

instance : DecidableEq Value := fun a b => decidable_of_iff _ (agree_iff a b)

/-- A value as running text: a text stands for itself. -/
def display : Value → Text
  | text value => value
  | value => value.quoted

/-! ## Values that can be written -/

/-- The least natural number that is too long to be written. -/
def writingLimit : Nat := Nat.pow 10 4300

mutual

/-- Whether a value can be written: integers of more than 4300 digits cannot. -/
def isWritable : Value → Bool
  | int value => value.natAbs < writingLimit
  | list items => areWritable items
  | map entries => entriesWritable entries
  | _ => true

/-- Whether all members of a list can be written. -/
def areWritable : List Value → Bool
  | [] => true
  | item :: rest => isWritable item && areWritable rest

/-- Whether all entries of a mapping can be written. -/
def entriesWritable : List (Value × Value) → Bool
  | [] => true
  | entry :: rest => entryWritable entry && entriesWritable rest

/-- Whether an entry can be written. -/
def entryWritable : Value × Value → Bool
  | (key, value) => isWritable key && isWritable value

end

/-- A value as running text, if it can be written. -/
def shown (value : Value) : Except Fault Text :=
  if value.isWritable then .ok value.display else .error .integerTooLong

/-- A value as messages quote it, if it can be written. -/
def shownQuoted (value : Value) : Except Fault String :=
  if value.isWritable then .ok value.quoted else .error .integerTooLong

/-- The text that a value is. -/
def text? : Value → Option Text
  | text value => some value
  | _ => none

/-- Whether a value can be a member of a set. -/
def isScalar : Value → Bool
  | list _ => false
  | map _ => false
  | _ => true

end Value

end CatalogHealth
