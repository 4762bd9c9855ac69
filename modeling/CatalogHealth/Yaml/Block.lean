import CatalogHealth.Yaml.Character

/-!
# Block scalars as they are written

A block scalar stands on the lines below a bar or an angle bracket, as far as they
begin far enough to the right. Behind a bar its lines are kept as they are; behind
an angle bracket neighbouring lines become one, unless one of them begins with
more space. A sign says what becomes of the line ends behind it.
-/

namespace CatalogHealth.Yaml

/-- A line of a text. -/
structure Line where
  /-- Its characters. -/
  content : List Char
  /-- The character that ends it, none at the end of the text. -/
  ending : List Char
deriving DecidableEq, Repr

/-- The lines of a text whose current line, read backwards, is `content`. -/
def linesFrom (content : List Char) : List Char → List Line
  | [] => [{ content := content.reverse, ending := [] }]
  | c :: rest =>
    if isBreak c then
      let kept := if c = '\u0085' then '\n' else c
      { content := content.reverse, ending := [kept] } :: linesFrom [] rest
    else linesFrom (c :: content) rest

/-- The lines of a text. -/
def lines (cs : List Char) : List Line := linesFrom [] cs

namespace Line

/-- Whether a line holds nothing but spaces, at most some. -/
def isEmpty (line : Line) (column : Nat) : Bool :=
  decide (line.content.length ≤ column) && line.content.all (· = ' ')

/-- Whether a line goes on behind some spaces. -/
def isInner (line : Line) (column : Nat) : Bool :=
  decide (column < line.content.length) && (line.content.take column).all (· = ' ')

/-- Whether a line belongs to a block scalar in a column. -/
def isWithin (line : Line) (column : Nat) : Bool :=
  line.isInner column || line.isEmpty column && !line.ending.isEmpty

/-- The number of spaces at the beginning of a line. -/
def margin (line : Line) : Nat := (line.content.takeWhile (· = ' ')).length

/-- The number of characters of a line. -/
def width (line : Line) : Nat := line.content.length + line.ending.length

end Line

/-- What becomes of the line ends behind a block scalar. -/
inductive Chomping where
  /-- One is kept. -/
  | clip
  /-- None is kept. -/
  | strip
  /-- All are kept. -/
  | keep
deriving DecidableEq, Repr

/-- What is said of a block scalar in front of it. -/
structure BlockHeader where
  /-- What becomes of the line ends behind it. -/
  chomping : Chomping := .clip
  /-- How far its lines are to the right, if that is said. -/
  indent : Option Nat := none
deriving DecidableEq, Repr

/-- What a sign in front of a block scalar says. -/
def chomping? : List Char → Option (Chomping × List Char)
  | '+' :: rest => some (.keep, rest)
  | '-' :: rest => some (.strip, rest)
  | _ => none

/-- The digit in front of a block scalar, which is not zero. -/
def indent? : List Char → Option (Nat × List Char)
  | c :: rest => if '1' ≤ c ∧ c ≤ '9' then some (c.toNat - 48, rest) else none
  | [] => none

/-- What is said of a block scalar, a sign and a digit in either order, and the
text behind it. -/
def takeHeader (cs : List Char) : BlockHeader × List Char :=
  match chomping? cs with
  | some (chomping, rest) =>
    match indent? rest with
    | some (indent, after) => ({ chomping, indent := some indent }, after)
    | none => ({ chomping }, rest)
  | none =>
    match indent? cs with
    | some (indent, rest) =>
      match chomping? rest with
      | some (chomping, after) => ({ chomping, indent := some indent }, after)
      | none => ({ indent := some indent }, rest)
    | none => ({}, cs)

/-- Whether nothing but spaces and a comment stands on the line behind what is said
of a block scalar. -/
def endsHeader (cs : List Char) : Bool :=
  let after := cs.dropWhile (· = ' ')
  atBreak cs || cs.head? = some ' ' && (atBreak after || after.head? = some '#')

/-- The column in which the lines of a block scalar begin that says nothing of it: that
of the first line with something on it, or further right if an empty line in front
of it is longer. -/
def foundIndent : List Line → Nat
  | [] => 0
  | line :: rest =>
    if line.content.all (· = ' ') && !line.ending.isEmpty then
      max line.margin (foundIndent rest)
    else line.margin

/-- The last line of a block scalar that was read: whether it begins with more
space, and what ends it. -/
structure LastLine where
  /-- Whether it begins with more space. -/
  spaced : Bool
  /-- What ends it. -/
  ending : List Char

/-- The text of a block scalar from one of its lines on, given the last one in
front of it that is not empty and the ends of the empty ones since. -/
def blockTextFrom (folded : Bool) (chomping : Chomping) (column : Nat) (last : Option LastLine)
    (breaks : List Char) : List Line → List Char
  | [] =>
    let tail := if chomping = .keep then breaks else []
    match last with
    | none => tail
    | some last => (if chomping = .strip then [] else last.ending) ++ tail
  | line :: rest =>
    if line.isEmpty column then
      blockTextFrom folded chomping column last (breaks ++ line.ending) rest
    else
      let text := line.content.drop column
      let spaced := text.head?.any fun c => c = ' ' || c = '\t'
      let joint :=
        match last with
        | none => []
        | some last =>
          if folded && last.ending = ['\n'] && !last.spaced && !spaced then
            if breaks.isEmpty then [' '] else []
          else last.ending
      joint ++ breaks ++ text ++
        blockTextFrom folded chomping column (some { spaced, ending := line.ending }) [] rest

/-- A block scalar behind its bar or angle bracket, given the least column in which
its lines may begin: its text and the number of its characters. -/
def takeBlock (folded : Bool) (least : Nat) (cs : List Char) : Option (List Char × Nat) :=
  let (header, behind) := takeHeader cs
  if endsHeader behind then
    match lines behind with
    | [] => none
    | first :: rest =>
      let column :=
        match header.indent with
        | some indent => least + indent - 1
        | none => max least (foundIndent rest)
      let body := rest.takeWhile (·.isWithin column)
      let width := (first :: body).foldl (fun count line => count + line.width)
        (cs.length - behind.length)
      some (blockTextFrom folded header.chomping column none [] body, width)
  else none

end CatalogHealth.Yaml
