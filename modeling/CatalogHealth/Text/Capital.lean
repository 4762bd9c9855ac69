import CatalogHealth.Text.Basic

/-!
# Capital forms within ASCII

Keywords are compared after capitalisation, and every keyword is plain ASCII.
So only letters whose capital form is ASCII can matter; the other letters are
left as they are. The table lists those letters beyond `a` to `z` for
Unicode 14.
-/

namespace CatalogHealth.Text

/-- Letters beyond ASCII whose capital form consists of ASCII letters. -/
def asciiCapitals : List (Char × List Char) :=
  [('\u00df', ['S', 'S']), ('\u0131', ['I']), ('\u017f', ['S']), ('\ufb00', ['F', 'F']),
   ('\ufb01', ['F', 'I']), ('\ufb02', ['F', 'L']), ('\ufb03', ['F', 'F', 'I']),
   ('\ufb04', ['F', 'F', 'L']), ('\ufb05', ['S', 'T']), ('\ufb06', ['S', 'T'])]

/-- The capital form of a character as far as it is ASCII, else the character. -/
def capital (c : Char) : List Char :=
  if 'a' ≤ c ∧ c ≤ 'z' then [c.toUpper] else (asciiCapitals.lookup c).getD [c]

/-- The capital form of a code point. -/
def capitalPoints : CodePoint → List CodePoint
  | .char c => (capital c).map .char
  | .half place => [.half place]

/-- A text with every letter replaced by its ASCII capital form. -/
def capitals (t : Text) : Text := ⟨t.points.flatMap capitalPoints⟩

end CatalogHealth.Text
