import CatalogHealth.Text.Basic
import CatalogHealth.Yaml.Character

/-!
# Scalars over several lines

A scalar in quotes, or one without, may go on in further lines. What stands
between two of its words is then folded: spaces around the end of a line are
dropped, the end of a single line becomes a space, and of several the first is
dropped and the others are kept. Two kinds of line end are never dropped. Behind
a backslash the end of a line joins two lines, and only empty lines between them
are kept.
-/

namespace CatalogHealth.Yaml

/-- A part of a scalar as it is written. -/
inductive Part where
  /-- A character that stands for itself, or what an escape stands for. -/
  | point (p : CodePoint)
  /-- A space, which counts only inside of a line. -/
  | space (c : Char)
  /-- The end of a line. -/
  | lineEnd (c : Char)
  /-- The end of a line that joins it to the next one. -/
  | joint
deriving DecidableEq, Repr

/-- A character of a scalar without quotes as a part of it. -/
def Part.ofChar (c : Char) : Part :=
  if c = ' ' then .space c else if isBreak c then .lineEnd c else .point c

/-- What stands between two words of a scalar. -/
inductive Between where
  /-- Spaces on one line. -/
  | spaces (cs : List Char)
  /-- The ends of lines, the first apart from the others. -/
  | breaks (first : Char) (others : List Char)
  /-- The ends of lines behind one that joins. -/
  | joined (kept : List Char)

/-- The character that is kept of the end of a line. -/
def keptBreak (c : Char) : Char := if c = '\u0085' then '\n' else c

namespace Between

/-- The characters that stand for what is between two words. -/
def chars : Between → List Char
  | spaces cs => cs
  | breaks first others =>
    (if first != '\n' then [first] else if others.isEmpty then [' '] else []) ++ others
  | joined kept => kept

/-- The code points that stand for what is between two words. -/
def points (between : Between) : List CodePoint := between.chars.map .char

/-- What is between two words with one more space. -/
def addSpace (c : Char) : Between → Between
  | spaces cs => spaces (cs ++ [c])
  | other => other

/-- What is between two words with one more end of a line. -/
def addBreak (c : Char) : Between → Between
  | spaces _ => breaks (keptBreak c) []
  | breaks first others => breaks first (others ++ [keptBreak c])
  | joined others => joined (others ++ [keptBreak c])

end Between

/-- The code points of a scalar, given what stands in front of its next word. -/
def foldFrom (between : Between) : List Part → List CodePoint
  | [] => between.points
  | .point p :: rest => between.points ++ p :: foldFrom (.spaces []) rest
  | .space c :: rest => foldFrom (between.addSpace c) rest
  | .lineEnd c :: rest => foldFrom (between.addBreak c) rest
  | .joint :: rest => between.points ++ foldFrom (.joined []) rest

/-- The text of a scalar that is written in parts. -/
def fold (parts : List Part) : Text := ⟨foldFrom (.spaces []) parts⟩

end CatalogHealth.Yaml
