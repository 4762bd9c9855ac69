import CatalogHealth.Yaml.Block
import CatalogHealth.Yaml.Plain
import CatalogHealth.Yaml.Quoted

/-!
# Tokens of a document text

A document text falls into scalars and marks: the dash in front of an item, the
marks in front of a key and of a value, brackets, commas and what separates
documents. Outside of brackets the columns at which lines begin say where lists and
mappings begin and end, and there are marks for that too. A key is recognised by the
colon behind it, on the same line and not too far from where the key begins; its
marks then stand in front of it. Tags and directives are outside of what is read
here and make a text unreadable, as do tabs between tokens. Where a text cannot be
read on, the tokens end with one that carries the fault; it counts only when that
token is reached. No token is given away while a key may still have begun with it, so
the one with the fault then takes its place.
-/

namespace CatalogHealth.Yaml

/-- A scalar or mark of a document text. -/
inductive Token where
  /-- A scalar without quotes. -/
  | plain (text : Text)
  /-- A scalar in quotes or a block scalar, given by what it stands for. -/
  | quoted (text : Text)
  /-- A name for the node behind it. -/
  | anchor (name : String)
  /-- The node of a name. -/
  | aliasOf (name : String)
  /-- The beginning of a list outside of brackets. -/
  | beginList
  /-- The beginning of a mapping outside of brackets. -/
  | beginMap
  /-- The end of a list or a mapping outside of brackets. -/
  | endBlock
  /-- The dash in front of an item. -/
  | dash
  /-- The mark in front of a key, written or not. -/
  | key
  /-- The colon in front of a value. -/
  | colon
  /-- The comma between members in brackets. -/
  | comma
  /-- The bracket that opens a list. -/
  | openList
  /-- The bracket that closes a list. -/
  | closeList
  /-- The brace that opens a mapping. -/
  | openMap
  /-- The brace that closes a mapping. -/
  | closeMap
  /-- The line that begins a document. -/
  | begin
  /-- The line that ends a document. -/
  | finish
  /-- What cannot be read. -/
  | broken (fault : Fault)
deriving DecidableEq, Repr

/-! ## Places -/

/-- A place in a document text. -/
structure Cursor where
  /-- The text from here on. -/
  rest : List Char
  /-- The number of lines in front of this one. -/
  line : Nat := 0
  /-- The number of characters in front of this place on its line. -/
  column : Nat := 0
  /-- The number of characters in front of this place. -/
  index : Nat := 0

/-- The place behind the next character. A byte order mark takes no column. -/
def Cursor.step (here : Cursor) : Cursor :=
  match here.rest with
  | [] => here
  | c :: rest =>
    if isBreak c then { rest, line := here.line + 1, column := 0, index := here.index + 1 }
    else
      let column := if c = '\ufeff' then here.column else here.column + 1
      { rest, line := here.line, column, index := here.index + 1 }

/-- The place behind some characters. -/
def Cursor.skip (here : Cursor) : Nat → Cursor
  | 0 => here
  | width + 1 => here.step.skip width

/-- The number of characters up to the next token, and whether a line ends among
them: spaces, line ends and comments say nothing. -/
def gap (comment : Bool) : List Char → Nat × Bool
  | [] => (0, false)
  | c :: rest =>
    if isBreak c then ((gap false rest).1 + 1, true)
    else if comment || c = ' ' || c = '#' then
      let (width, broke) := gap (comment || c = '#') rest
      (width + 1, broke)
    else (0, false)

/-! ## Reading on -/

/-- A place at which a key may have begun. -/
structure PossibleKey where
  /-- The number of tokens in front of it. -/
  number : Nat
  /-- The place. -/
  place : Cursor
  /-- Whether nothing but a key can begin there. -/
  required : Bool

/-- The greatest distance of the colon of a key from where the key begins. -/
def keyLimit : Nat := 1024

/-- Whether a place is on another line than where a key may have begun, or too far
away. -/
def PossibleKey.isStale (key : PossibleKey) (here : Cursor) : Bool :=
  key.place.line != here.line || decide (key.place.index + keyLimit < here.index)

/-- What is known at a place about the text in front of it. -/
structure Scanner where
  /-- The place. -/
  here : Cursor
  /-- The columns of the lists and mappings that are open outside of brackets, the
  innermost first. -/
  columns : List Nat := []
  /-- The key that may have begun since the innermost open bracket. -/
  key : Option PossibleKey := none
  /-- The keys that may have begun in front of each open bracket since the one around
  it, the innermost first. -/
  outer : List (Option PossibleKey) := []
  /-- Whether a key may begin here. -/
  keyAllowed : Bool := true
  /-- The tokens so far, the latest first. -/
  tokens : List Token := []

namespace Scanner

/-- Whether the place is inside of brackets. -/
def inside (s : Scanner) : Bool := !s.outer.isEmpty

/-- The column in front of which no line of the innermost list or mapping begins. -/
def leastColumn (s : Scanner) : Nat := (s.columns.head?.map (· + 1)).getD 0

/-- A token of some width is read. -/
def take (s : Scanner) (token : Token) (width : Nat) : Scanner :=
  { s with here := s.here.skip width, tokens := token :: s.tokens }

/-- The lists and mappings end that begin further right than a column, or all if
there is no column. Brackets have to be closed first. -/
def closeBlocks (s : Scanner) (column : Option Nat) : Scanner :=
  if s.inside then s
  else
    let (closed, kept) := s.columns.span fun open_ => column.all (· < open_)
    { s with columns := kept, tokens := List.replicate closed.length .endBlock ++ s.tokens }

/-- A list or a mapping begins here, unless one is open in this column. -/
def openBlock (s : Scanner) (token : Token) : Scanner :=
  if s.columns.head?.all (· < s.here.column) then
    { s with columns := s.here.column :: s.columns, tokens := token :: s.tokens }
  else s

/-- No key has begun here after all. -/
def dropKey (s : Scanner) : Except Fault Scanner :=
  if s.key.any (·.required) then .error .unreadableDocument else .ok { s with key := none }

/-- A key may begin here. -/
def noteKey (s : Scanner) : Except Fault Scanner :=
  if s.keyAllowed then do
    let s ← s.dropKey
    let required := !s.inside && s.columns.head? = some s.here.column
    return { s with key := some { number := s.tokens.length, place := s.here, required } }
  else .ok s

/-- Keys of which this place is too far away have not begun. -/
def dropStaleKeys (s : Scanner) : Except Fault Scanner :=
  let isStale (key : PossibleKey) : Bool := key.isStale s.here
  let fresh (key : Option PossibleKey) : Option PossibleKey := key.filter (!isStale ·)
  if (s.key :: s.outer).any fun key => key.any fun key => key.required && isStale key then
    .error .unreadableDocument
  else .ok { s with key := fresh s.key, outer := s.outer.map fresh }

/-- The next token is gone up to, and what ended in front of it is closed. -/
def advance (s : Scanner) : Except Fault Scanner := do
  let (width, broke) := gap false s.here.rest
  let s ← dropStaleKeys
    { s with here := s.here.skip width, keyAllowed := s.keyAllowed || broke && !s.inside }
  return s.closeBlocks (some s.here.column)

/-! ## Tokens one by one -/

/-- Documents are separated here. -/
def separate (s : Scanner) (token : Token) : Except Fault Scanner := do
  let s ← (s.closeBlocks none).dropKey
  return { s.take token 3 with keyAllowed := false }

/-- A bracket is opened. -/
def openBracket (s : Scanner) (token : Token) : Except Fault Scanner := do
  let s ← s.noteKey
  return { s.take token 1 with key := none, outer := s.key :: s.outer, keyAllowed := true }

/-- A bracket is closed. -/
def closeBracket (s : Scanner) (token : Token) : Except Fault Scanner := do
  let s ← s.dropKey
  match s.outer with
  | [] => throw .unreadableDocument
  | key :: outer => return { s.take token 1 with key, outer, keyAllowed := false }

/-- Members in brackets are separated. -/
def separateMembers (s : Scanner) : Except Fault Scanner := do
  let s ← s.dropKey
  return { s.take .comma 1 with keyAllowed := true }

/-- Something begins that may only begin where a key may, outside of brackets. -/
def beginBlock (s : Scanner) (token : Token) : Except Fault Scanner :=
  if s.inside then .ok s
  else if s.keyAllowed then .ok (s.openBlock token)
  else .error .unreadableDocument

/-- An item begins. -/
def dash (s : Scanner) : Except Fault Scanner := do
  let s ← (← s.beginBlock .beginList).dropKey
  return { s.take .dash 1 with keyAllowed := true }

/-- A key begins behind its mark. -/
def markKey (s : Scanner) : Except Fault Scanner := do
  let s ← (← s.beginBlock .beginMap).dropKey
  return { s.take .key 1 with keyAllowed := !s.inside }

/-- A value begins. If a key may have begun in front of it, the marks of that key are
put in front of it. -/
def colon (s : Scanner) : Except Fault Scanner :=
  match s.key with
  | some key =>
    let later := s.tokens.take (s.tokens.length - key.number)
    let before := { s with
      here := key.place, tokens := s.tokens.drop (s.tokens.length - key.number) }
    let opened := if s.inside then before else before.openBlock .beginMap
    let marked := { opened with here := s.here, tokens := later ++ Token.key :: opened.tokens }
    .ok { marked.take .colon 1 with key := none, keyAllowed := false }
  | none => do
    let s ← s.beginBlock .beginMap
    return { s.take .colon 1 with keyAllowed := !s.inside }

/-- A scalar, a name or an alias, which may be a key. -/
def word (s : Scanner) (token : Token) (width : Nat) : Except Fault Scanner := do
  let s ← s.noteKey
  return { s.take token width with keyAllowed := false }

/-- The characters of a name. -/
def isNameChar (c : Char) : Bool :=
  c.isDigit || ('A' ≤ c && c ≤ 'Z') || ('a' ≤ c && c ≤ 'z') || c = '-' || c = '_'

/-- Whether a name may end in front of a text. -/
def endsName (cs : List Char) : Bool :=
  atSpace cs ||
    cs.head?.any fun c => ['?', ':', ',', ']', '\x7d', '%', '@', '\x60'].contains c

/-- A name behind its mark, or an alias. -/
def name (s : Scanner) (token : String → Token) (rest : List Char) : Except Fault Scanner :=
  let name := rest.takeWhile isNameChar
  if name.isEmpty || !endsName (rest.dropWhile isNameChar) then .error .unreadableDocument
  else s.word (token (String.ofList name)) (name.length + 1)

/-- A scalar in quotes. -/
def quotation (s : Scanner) (quotation : Quotation) : Except Fault Scanner :=
  s.word (.quoted (fold quotation.parts)) (quotation.width + 1)

/-- A block scalar. -/
def block (s : Scanner) (folded : Bool) (rest : List Char) : Except Fault Scanner :=
  match takeBlock folded (max 1 s.leastColumn) rest with
  | none => .error .unreadableDocument
  | some (text, width) => do
    let s ← s.dropKey
    return { s.take (.quoted (.ofChars text)) (width + 1) with keyAllowed := true }

/-- A scalar without quotes. -/
def plain (s : Scanner) : Except Fault Scanner :=
  let taken := (takePlain s.inside s.leastColumn s.here.rest).1
  s.word (.plain (fold (taken.map Part.ofChar))) taken.length

/-- The token that begins with a character is read. -/
def next (s : Scanner) (c : Char) (rest : List Char) : Except Fault Scanner :=
  if s.here.column = 0 && beginsDocument (c :: rest) then s.separate .begin
  else if s.here.column = 0 && endsDocument (c :: rest) then s.separate .finish
  else if s.here.column = 0 && c = '%' then .error .unreadableDocument
  else
    match c with
    | '[' => s.openBracket .openList
    | '\x7b' => s.openBracket .openMap
    | ']' => s.closeBracket .closeList
    | '\x7d' => s.closeBracket .closeMap
    | ',' => s.separateMembers
    | '*' => s.name .aliasOf rest
    | '&' => s.name .anchor rest
    | '\'' =>
      match takeSingle rest with
      | some taken => s.quotation taken
      | none => .error .unreadableDocument
    | '"' => do s.quotation (← takeDouble rest)
    | _ =>
      if c = '-' && atSpace rest then s.dash
      else if c = '?' && (s.inside || atSpace rest) then s.markKey
      else if c = ':' && (s.inside || atSpace rest) then s.colon
      else if (c = '|' || c = '>') && !s.inside then s.block (c = '>') rest
      else if beginsPlain s.inside c rest then s.plain
      else .error .unreadableDocument

/-- The number of tokens in front of all with which a key may still have begun. -/
def settled (s : Scanner) : Nat :=
  let keys := (s.key :: s.outer).filterMap fun key => key.filter (!·.isStale s.here)
  (keys.map PossibleKey.number).foldl min s.tokens.length

/-- The tokens up to a fault on the way to the next one. -/
def endWith (s : Scanner) (fault : Fault) : List Token :=
  s.tokens.reverse.take s.settled ++ [.broken fault]

/-- The tokens of the text from a place on; every step but the last takes a
character, so as many steps as characters suffice. -/
def scan : Nat → Scanner → List Token
  | fuel, s =>
    match s.advance with
    | .error fault => s.endWith fault
    | .ok there =>
      match there.here.rest, fuel with
      | [], _ =>
        match (there.closeBlocks none).dropKey with
        | .ok last => last.tokens.reverse
        | .error fault => s.endWith fault
      | _ :: _, 0 => s.endWith .unreadableDocument
      | c :: rest, fuel + 1 =>
        match there.next c rest with
        | .ok behind => scan fuel behind
        | .error fault => s.endWith fault

end Scanner

/-- The tokens of a text whose lines end with single characters. A byte order mark in
front of it says nothing. -/
def tokens (cs : List Char) : List Token :=
  let body := if cs.head? = some '\ufeff' then cs.drop 1 else cs
  Scanner.scan body.length { here := { rest := body } }

end CatalogHealth.Yaml
