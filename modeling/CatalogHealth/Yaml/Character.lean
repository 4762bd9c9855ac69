/-!
# Characters of a document text

A document text is a sequence of lines. Two characters of code 13 and 10, or a
single one of code 13, end a line like one of code 10; three more characters end
lines as well. Lines of three dashes or three points separate documents wherever
they stand. A text is taken up piece by piece, and a piece with a character that no
document text may hold is not read.
-/

namespace CatalogHealth.Yaml

/-- A text whose lines all end with a single character. -/
def uniformBreaks : List Char → List Char
  | [] => []
  | '\r' :: '\n' :: rest => '\n' :: uniformBreaks rest
  | c :: rest => (if c = '\r' then '\n' else c) :: uniformBreaks rest

/-- Whether a character ends a line. -/
def isBreak (c : Char) : Bool := c = '\n' || c = '\u0085' || c = '\u2028' || c = '\u2029'

/-- Whether a character separates tokens. -/
def isSpace (c : Char) : Bool := c = ' ' || c = '\t' || isBreak c

/-- Whether a text is at its end or goes on with a separating character. -/
def atSpace : List Char → Bool
  | [] => true
  | c :: _ => isSpace c

/-- Whether a text is at its end or goes on with the end of a line. -/
def atBreak : List Char → Bool
  | [] => true
  | c :: _ => isBreak c

/-- The characters that a document text may hold. -/
def isAllowed (c : Char) : Bool :=
  let n := c.toNat
  n = 0x09 || n = 0x0A || n = 0x0D || (0x20 ≤ n && n ≤ 0x7E) || n = 0x85 ||
    (0xA0 ≤ n && n ≤ 0xD7FF) || (0xE000 ≤ n && n ≤ 0xFFFD) || 0x10000 ≤ n

/-- The number of characters of a piece; two pieces are taken up at first, and then one
after the other. -/
def pieceLength : Nat := 4096

/-- A text up to the first piece that is not read. -/
def readablePart (cs : List Char) : List Char :=
  let count := (cs.takeWhile isAllowed).length
  if count = cs.length then cs
  else if count < 2 * pieceLength then []
  else cs.take (count / pieceLength * pieceLength)

/-- Whether a text at the beginning of a line begins a document. -/
def beginsDocument (cs : List Char) : Bool :=
  ['-', '-', '-'].isPrefixOf cs && atSpace (cs.drop 3)

/-- Whether a text at the beginning of a line ends a document. -/
def endsDocument (cs : List Char) : Bool :=
  ['.', '.', '.'].isPrefixOf cs && atSpace (cs.drop 3)

/-- Whether a text at the beginning of a line separates documents. -/
def separatesDocuments (cs : List Char) : Bool := beginsDocument cs || endsDocument cs

end CatalogHealth.Yaml
