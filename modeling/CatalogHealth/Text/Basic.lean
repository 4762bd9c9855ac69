/-!
# Texts

A text is a sequence of code points. All but 2048 of them are characters; those from
D800 to DFFF are halves of pairs of sixteen-bit units. An escape in a document can put
a half into a text, and there it stays a code point of its own, even beside the other
half of a pair. A string is a text without halves, and only such a text can be given as
bytes. Words that are fixed, and what is read from a command line or names a file, are
strings; whatever may come from a document is a text.
-/

namespace CatalogHealth

/-- A code point. -/
inductive CodePoint where
  /-- A character. -/
  | char (c : Char)
  /-- A half of a pair of sixteen-bit units, counted from the first half on. -/
  | half (place : Fin 0x800)
deriving DecidableEq, Repr

namespace CodePoint

instance : Coe Char CodePoint := ⟨char⟩

/-- The first half. -/
def firstHalf : Nat := 0xD800

/-- The number of a code point. -/
def value : CodePoint → Nat
  | char c => c.toNat
  | half place => firstHalf + place

/-- The code point of a number up to 10FFFF. -/
def ofValue (n : Nat) : CodePoint :=
  if h : firstHalf ≤ n ∧ n - firstHalf < 0x800 then half ⟨n - firstHalf, h.2⟩
  else char (Char.ofNat n)

/-- A code point is found again from its number. -/
theorem ofValue_value (point : CodePoint) : ofValue point.value = point := by
  cases point with
  | char c =>
    have valid : c.toNat < 0xD800 ∨ 0xDFFF < c.toNat ∧ c.toNat < 0x110000 := c.valid
    have notHalf : ¬(firstHalf ≤ c.toNat ∧ c.toNat - firstHalf < 0x800) := by
      unfold firstHalf
      omega
    simp only [value, ofValue, dif_neg notHalf, Char.ofNat_toNat]
  | half place =>
    have isHalf : firstHalf ≤ firstHalf + place.val ∧ firstHalf + place.val - firstHalf < 0x800 :=
      ⟨Nat.le_add_right .., by omega⟩
    simp only [value, ofValue, dif_pos isHalf, Nat.add_sub_cancel_left]

/-- Different code points have different numbers. -/
theorem eq_of_value_eq {a b : CodePoint} (h : a.value = b.value) : a = b := by
  rw [← ofValue_value a, h, ofValue_value]

/-- The character that a code point is. -/
def char? : CodePoint → Option Char
  | char c => some c
  | half _ => none

/-- Whether a code point is a character of some kind. -/
def satisfies (kind : Char → Bool) : CodePoint → Bool
  | char c => kind c
  | half _ => false

end CodePoint

/-- A text. -/
structure Text where
  /-- Its code points in order. -/
  points : List CodePoint
deriving DecidableEq, Repr, Inhabited

namespace Text

/-- A text of characters. -/
def ofChars (cs : List Char) : Text := ⟨cs.map .char⟩

/-- A string as a text. -/
def ofString (s : String) : Text := ofChars s.toList

instance : Coe String Text := ⟨ofString⟩

instance : Append Text := ⟨fun s t => ⟨s.points ++ t.points⟩⟩

/-- The code points of joined texts are those of the first one and then those of the second. -/
@[simp] theorem points_append (s t : Text) : (s ++ t).points = s.points ++ t.points := rfl

theorem append_assoc (s t u : Text) : s ++ t ++ u = s ++ (t ++ u) :=
  congrArg mk (List.append_assoc s.points t.points u.points)

@[simp] theorem append_empty (t : Text) : t ++ "" = t := congrArg mk (List.append_nil t.points)

/-- Different strings are different texts. -/
theorem ofString_injective {s t : String} (h : ofString s = ofString t) : s = t := by
  simp only [ofString, ofChars, Text.mk.injEq] at h
  exact String.toList_injective
    ((List.map_inj_right fun _ _ same => CodePoint.char.inj same).1 h)

/-- Whether a text has no code points. -/
def isEmpty (t : Text) : Bool := t.points.isEmpty

/-- Texts with a separator between them. -/
def join (separator : Text) : List Text → Text
  | [] => ""
  | [t] => t
  | t :: rest => t ++ separator ++ join separator rest

theorem join_cons_cons (separator t u : Text) (ts : List Text) :
    join separator (t :: u :: ts) = t ++ separator ++ join separator (u :: ts) := rfl

/-- The characters of a text, if it has no halves. -/
def chars? (t : Text) : Option (List Char) := t.points.mapM CodePoint.char?

/-- The string that a text is, if it has no halves. -/
def string? (t : Text) : Option String := t.chars?.map String.ofList

/-- The numbers of the code points of a text. -/
def values (t : Text) : List Nat := t.points.map CodePoint.value

/-- Different texts have different numbers. -/
theorem eq_of_values_eq {s t : Text} (h : s.values = t.values) : s = t := by
  cases s
  cases t
  exact congrArg Text.mk ((List.map_inj_right fun _ _ => CodePoint.eq_of_value_eq).1 h)

end Text

end CatalogHealth
