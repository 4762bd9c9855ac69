import CatalogHealth.Yaml.Node
import CatalogHealth.Yaml.Token

/-!
# Documents from their text

A document text is one value. Inside brackets members are separated by commas, and
a member of a list with a colon is a mapping of one entry; outside of them the
tokens say where lists and mappings begin and end, and the dashes of a list that is
the value of a key may stand in the column of the key. Every function here returns
the tokens that it left over and takes a token at least at every fourth step, so the
steps are counted from the number of tokens. A text with a second document is
unreadable.
-/

namespace CatalogHealth.Yaml

/-- A node and the tokens behind it. -/
abbrev Parsed := Except Fault (Node × List Token)

/-- The tokens cannot go on like this: the text is no document, unless the fault is
in the next token. -/
def refuse {α : Type} : List Token → Except Fault α
  | .broken fault :: _ => .error fault
  | _ => .error .unreadableDocument

/-- Whether tokens go on with one of some tokens. -/
def goesOnWith (ends tokens : List Token) : Bool :=
  tokens.head?.any fun token => ends.contains token

/-- Where a node may stand. -/
inductive Position where
  /-- In brackets. -/
  | bracketed
  /-- Outside of brackets. -/
  | block
  /-- Outside of brackets behind a key, where the dashes of a list need no further
  column. -/
  | entry
deriving DecidableEq, Repr

/-- Whether a token begins a node that is not only a name, where a node may stand. -/
def beginsContent (position : Position) : Token → Bool
  | .plain _ | .quoted _ | .openList | .openMap | .broken _ => true
  | .beginList | .beginMap => position != .bracketed
  | .dash => position = .entry
  | _ => false

mutual

/-- A node, with its name if it has one. A name may stand alone. -/
def node : Nat → Position → List Token → Parsed
  | _ + 1, _, .aliasOf name :: rest => .ok (.aliasOf name, rest)
  | fuel + 1, position, .anchor name :: rest => do
    let (node, rest) ←
      if rest.head?.any (beginsContent position) then content fuel position rest
      else .ok (.absent, rest)
    return (.anchored name node, rest)
  | fuel + 1, position, tokens => content fuel position tokens
  | 0, _, tokens => refuse tokens

/-- A node without a name. -/
def content : Nat → Position → List Token → Parsed
  | 0, _, tokens => refuse tokens
  | fuel + 1, position, token :: rest =>
    if beginsContent position token then
      match token with
      | .plain text => .ok (.plain text, rest)
      | .quoted text => .ok (.quoted text, rest)
      | .openList => listMembers fuel [] rest
      | .openMap => mapMembers fuel [] rest
      | .beginList => blockItems fuel [] rest
      | .beginMap => blockEntries fuel [] rest
      | .dash => bareItems fuel [] (token :: rest)
      | _ => refuse (token :: rest)
    else refuse (token :: rest)
  | _, _, [] => refuse []

/-- A node that is missing in front of some tokens. -/
def optionalNode : Nat → Position → List Token → List Token → Parsed
  | 0, _, _, tokens => refuse tokens
  | fuel + 1, position, ends, tokens =>
    if goesOnWith ends tokens then .ok (.absent, tokens) else node fuel position tokens

/-- The value of a key, which is missing if there is no colon. -/
def valueNode : Nat → Position → List Token → List Token → Parsed
  | 0, _, _, tokens => refuse tokens
  | fuel + 1, position, ends, .colon :: rest => optionalNode fuel position ends rest
  | _ + 1, _, _, tokens => .ok (.absent, tokens)

/-- A key and its value behind the mark of a key in brackets. -/
def markedEntry : Nat → Token → List Token → Except Fault ((Node × Node) × List Token)
  | 0, _, tokens => refuse tokens
  | fuel + 1, close, tokens => do
    let (key, rest) ← optionalNode fuel .bracketed [.colon, .comma, close] tokens
    let (value, rest) ← valueNode fuel .bracketed [.comma, close] rest
    return ((key, value), rest)

/-- The members of a list up to its closing bracket. -/
def listMembers : Nat → List Node → List Token → Parsed
  | 0, _, tokens => refuse tokens
  | _ + 1, members, .closeList :: rest => .ok (.list members, rest)
  | fuel + 1, members, tokens => do
    let (member, rest) ←
      match tokens with
      | .key :: rest => do
        let (entry, rest) ← markedEntry fuel .closeList rest
        pure (Node.map [entry], rest)
      | tokens => node fuel .bracketed tokens
    match rest with
    | .comma :: rest => listMembers fuel (members ++ [member]) rest
    | .closeList :: rest => return (.list (members ++ [member]), rest)
    | rest => refuse rest

/-- The entries of a mapping up to its closing brace; an entry without a colon
has no value. -/
def mapMembers : Nat → List (Node × Node) → List Token → Parsed
  | 0, _, tokens => refuse tokens
  | _ + 1, entries, .closeMap :: rest => .ok (.map entries, rest)
  | fuel + 1, entries, tokens => do
    let (entry, rest) ←
      match tokens with
      | .key :: rest => markedEntry fuel .closeMap rest
      | tokens => do
        let (key, rest) ← node fuel .bracketed tokens
        pure ((key, Node.absent), rest)
    match rest with
    | .comma :: rest => mapMembers fuel (entries ++ [entry]) rest
    | .closeMap :: rest => return (.map (entries ++ [entry]), rest)
    | rest => refuse rest

/-- The items of a list up to its end. -/
def blockItems : Nat → List Node → List Token → Parsed
  | 0, _, tokens => refuse tokens
  | _ + 1, items, .endBlock :: rest => .ok (.list items, rest)
  | fuel + 1, items, .dash :: rest => do
    let (item, rest) ← optionalNode fuel .block [.dash, .endBlock] rest
    blockItems fuel (items ++ [item]) rest
  | _ + 1, _, tokens => refuse tokens

/-- The items of a list in the column of its key, as far as there are dashes. -/
def bareItems : Nat → List Node → List Token → Parsed
  | 0, _, tokens => refuse tokens
  | fuel + 1, items, .dash :: rest => do
    let (item, rest) ← optionalNode fuel .block [.dash, .key, .colon, .endBlock] rest
    bareItems fuel (items ++ [item]) rest
  | _ + 1, items, tokens => .ok (.list items, tokens)

/-- The entries of a mapping up to its end. -/
def blockEntries : Nat → List (Node × Node) → List Token → Parsed
  | 0, _, tokens => refuse tokens
  | _ + 1, entries, .endBlock :: rest => .ok (.map entries, rest)
  | fuel + 1, entries, .key :: rest => do
    let (key, rest) ← optionalNode fuel .entry [.key, .colon, .endBlock] rest
    let (value, rest) ← valueNode fuel .entry [.key, .colon, .endBlock] rest
    blockEntries fuel (entries ++ [(key, value)]) rest
  | _ + 1, _, tokens => refuse tokens

end

/-- The node that tokens describe: nothing if there are none, or if a document ends
where it begins. -/
def nodeOfTokens (tokens : List Token) : Except Fault Node := do
  let fuel := 4 * tokens.length + 4
  let (node, rest) ←
    match tokens with
    | [] => .ok (.absent, [])
    | .begin :: rest =>
      if rest.isEmpty || goesOnWith [.begin, .finish] rest then .ok (.absent, rest)
      else node fuel .block rest
    | tokens => node fuel .block tokens
  let rest := rest.dropWhile (· = .finish)
  if rest.isEmpty then return node else refuse rest

/-- Tokens up to where names go wrong: a name is given only once, and an alias stands
behind the node of its name. A name counts together with the token behind it. -/
def checkNames (given : List String) : List Token → List Token
  | [] => []
  | .aliasOf name :: rest =>
    if given.contains name then .aliasOf name :: checkNames given rest
    else [.broken .unreadableDocument]
  | .anchor name :: rest =>
    if given.contains name then
      match rest with
      | .broken fault :: _ => [.anchor name, .broken fault]
      | _ => [.anchor name, .broken .unreadableDocument]
    else .anchor name :: checkNames (name :: given) rest
  | token :: rest => token :: checkNames given rest

/-- The value of a document text. What cannot be read in the part that is taken up
counts before the forbidden character behind it. -/
def read (text : String) : Except Fault Value := do
  let cs := uniformBreaks text.toList
  let node ← nodeOfTokens (checkNames [] (tokens (readablePart cs)))
  if !cs.all isAllowed then throw .unreadableDocument
  node.value

end CatalogHealth.Yaml
