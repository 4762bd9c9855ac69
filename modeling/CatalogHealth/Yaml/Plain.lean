import CatalogHealth.Yaml.Folding

/-!
# Scalars without quotes as they are written

A scalar without quotes ends in front of a colon or a comma that means something
where it stands, in front of a comment, and where a line begins that does not
stand far enough to the right. Inside of brackets more characters end it, but the
columns of its lines say nothing.
-/

namespace CatalogHealth.Yaml

/-- The characters that begin no scalar without quotes. -/
def indicators : List Char :=
  ['-', '?', ':', ',', '[', ']', '\x7b', '\x7d', '#', '&', '*', '!', '|', '>', '\'', '"', '%', '@',
   '\x60']

/-- Whether a scalar without quotes begins with a character, given what comes
after it. A dash may begin one, and outside of brackets so may a colon or a
question mark, if no space follows. -/
def beginsPlain (inside : Bool) (c : Char) (rest : List Char) : Bool :=
  !isSpace c && !indicators.contains c ||
    !atSpace rest && (c = '-' || !inside && (c = '?' || c = ':'))

/-- Whether a scalar without quotes ends in front of a character, given what
comes after it. -/
def endsPlain (inside : Bool) (c : Char) (rest : List Char) : Bool :=
  isSpace c ||
    c = ':' && (atSpace rest ||
      inside && rest.head?.any fun d => [',', '[', ']', '\x7b', '\x7d'].contains d) ||
    inside && [',', '?', '[', ']', '\x7b', '\x7d'].contains c

/-- The text behind spaces and line ends, and its column if a line ended in front
of it. -/
def behindGaps (column? : Option Nat) : List Char → Option Nat × List Char
  | [] => (column?, [])
  | c :: rest =>
    if c = ' ' then behindGaps (column?.map (· + 1)) rest
    else if isBreak c then behindGaps (some 0) rest
    else (column?, c :: rest)

/-- Whether a scalar without quotes goes on behind the spaces and line ends in
front of a text, where outside of brackets its further lines begin at a column or
further right. -/
def resumesPlain (inside : Bool) (least : Nat) (cs : List Char) : Bool :=
  match behindGaps none cs with
  | (_, []) => false
  | (column?, c :: rest) =>
    c != '#' && !endsPlain inside c rest &&
      column?.all fun column =>
        (inside || decide (least ≤ column)) && !(column = 0 && separatesDocuments (c :: rest))

/-- Whether a scalar without quotes goes on with a character, given what comes after
it. -/
def continuesPlain (inside : Bool) (least : Nat) (c : Char) (rest : List Char) : Bool :=
  if c = ' ' || isBreak c then resumesPlain inside least (c :: rest)
  else !endsPlain inside c rest

/-- The longest scalar without quotes in front of a text, and the rest. -/
def takePlain (inside : Bool) (least : Nat) : List Char → List Char × List Char
  | [] => ([], [])
  | c :: rest =>
    if continuesPlain inside least c rest then
      let (taken, after) := takePlain inside least rest
      (c :: taken, after)
    else ([], c :: rest)

end CatalogHealth.Yaml
