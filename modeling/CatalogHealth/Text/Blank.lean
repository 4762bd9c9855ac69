import CatalogHealth.Text.Basic

/-!
# Blank characters and the words between them

Blank characters are the white space of Unicode 14 together with the four
information separators U+001C to U+001F, 29 characters in all. A half of a pair
of units is not blank.
-/

namespace CatalogHealth.Text

/-- Closed ranges of the blank code points, ascending and apart. -/
def blankRanges : List (Nat × Nat) :=
  [(0x09, 0x0D), (0x1C, 0x20), (0x85, 0x85), (0xA0, 0xA0), (0x1680, 0x1680), (0x2000, 0x200A),
   (0x2028, 0x2029), (0x202F, 0x202F), (0x205F, 0x205F), (0x3000, 0x3000)]

/-- Whether a code point lies in one of the closed ranges. -/
def inRanges (ranges : List (Nat × Nat)) (code : Nat) : Bool :=
  ranges.any fun range => range.1 ≤ code && code ≤ range.2

/-- Whether a character is blank. -/
def isBlank (c : Char) : Bool := inRanges blankRanges c.toNat

/-- The table holds 29 characters. -/
example : blankRanges.foldl (fun count range => count + (range.2 + 1 - range.1)) 0 = 29 := by
  decide

/-- Whether a code point is a blank character. -/
def isBlankPoint : CodePoint → Bool := CodePoint.satisfies isBlank

/-- Blank characters are dropped at the end. -/
def trimEnd (points : List CodePoint) : List CodePoint :=
  (points.reverse.dropWhile isBlankPoint).reverse

/-- The words of a text whose current word, read backwards, is `word`. -/
def wordsFrom (word : List CodePoint) : List CodePoint → List Text
  | [] => if word.isEmpty then [] else [⟨word.reverse⟩]
  | c :: rest =>
    if isBlankPoint c then
      if word.isEmpty then wordsFrom [] rest else ⟨word.reverse⟩ :: wordsFrom [] rest
    else wordsFrom (c :: word) rest

/-- The maximal runs of code points that are not blank, in order. -/
def words (t : Text) : List Text := wordsFrom [] t.points

/-- The words of a text with single spaces between them, so that texts which
differ only in the amount and kind of blank characters between words agree. -/
def collapse (t : Text) : Text := join " " t.words

/-- A text without the blank characters at its ends. -/
def strip (t : Text) : Text := ⟨trimEnd (t.points.dropWhile isBlankPoint)⟩

/-- A text without the blank characters at its end. -/
def stripEnd (t : Text) : Text := ⟨trimEnd t.points⟩

end CatalogHealth.Text
