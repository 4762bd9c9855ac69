import CatalogHealth.Value.Comparison
import CatalogHealth.Yaml.Scalar

/-!
# Nodes of a document

A document text is first taken apart into nodes and then read as a value. An alias
stands for the node that has its name, and a key of two angle brackets stands for
the entries of the mappings behind it, over which the other entries are laid. A
scalar without quotes may turn out to be an integer that cannot be read, and a
list or a mapping is no key. Values are read level by level, so of several such
faults the one that lies least deep counts, and the first of those in one depth.
-/

namespace CatalogHealth.Yaml

/-- A part of a document, its scalars not yet read. -/
inductive Node where
  /-- A scalar without quotes. -/
  | plain (text : Text)
  /-- A scalar in quotes, given by what it stands for. -/
  | quoted (text : Text)
  /-- A list. -/
  | list (items : List Node)
  /-- A mapping, in the order of its entries. -/
  | map (entries : List (Node × Node))
  /-- A node with a name. -/
  | anchored (name : String) (node : Node)
  /-- The node of a name. -/
  | aliasOf (name : String)
deriving Repr, Inhabited

/-- A scalar without anything in it. -/
def Node.absent : Node := .plain ""

/-! ## Names and merging -/

/-- Nodes by their names. -/
abbrev Anchors := List (String × Node)

/-- Whether an entry stands for the entries of other mappings. -/
def isMerging (entry : Node × Node) : Bool :=
  match entry.1 with
  | .plain text => text = Text.ofString mergeWord
  | _ => false

/-- The entries for which a node behind a merging key stands: those of a mapping, or
of the mappings in a list, the last of them first. -/
def mergedEntries : Node → Except Fault (List (Node × Node))
  | .map entries => .ok entries
  | .list items => do
    let parts ← items.mapM fun item =>
      match item with
      | .map entries => .ok entries
      | _ => .error .unreadableDocument
    return parts.reverse.flatten
  | _ => .error .unreadableDocument

/-- The entries of a mapping behind those that are merged into it. -/
def mergeEntries (entries : List (Node × Node)) : Except Fault (List (Node × Node)) := do
  let merged ← (entries.filter isMerging).mapM fun entry => mergedEntries entry.2
  return merged.flatten ++ entries.filter (!isMerging ·)

namespace Node

mutual

/-- A node without names and merging keys, and the nodes that are named in it or
were before. -/
def expand (anchors : Anchors) : Node → Except Fault (Node × Anchors)
  | plain text => .ok (plain text, anchors)
  | quoted text => .ok (quoted text, anchors)
  | list items => do
    let (items, anchors) ← expandItems anchors items
    return (list items, anchors)
  | map entries => do
    let (entries, anchors) ← expandEntries anchors entries
    return (map (← mergeEntries entries), anchors)
  | anchored name node => do
    let (node, anchors) ← expand anchors node
    if anchors.any (·.1 = name) then throw .unreadableDocument
    return (node, (name, node) :: anchors)
  | aliasOf name =>
    match anchors.lookup name with
    | some node => .ok (node, anchors)
    | none => .error .unreadableDocument

/-- The items of a list without names and merging keys. -/
def expandItems (anchors : Anchors) : List Node → Except Fault (List Node × Anchors)
  | [] => .ok ([], anchors)
  | item :: rest => do
    let (item, anchors) ← expand anchors item
    let (rest, anchors) ← expandItems anchors rest
    return (item :: rest, anchors)

/-- The entries of a mapping without names and merging keys inside of them. -/
def expandEntries (anchors : Anchors) :
    List (Node × Node) → Except Fault (List (Node × Node) × Anchors)
  | [] => .ok ([], anchors)
  | entry :: rest => do
    let (entry, anchors) ← expandEntry anchors entry
    let (rest, anchors) ← expandEntries anchors rest
    return (entry :: rest, anchors)

/-- An entry without names and merging keys inside of it. -/
def expandEntry (anchors : Anchors) : Node × Node → Except Fault ((Node × Node) × Anchors)
  | (key, value) => do
    let (key, anchors) ← expand anchors key
    let (value, anchors) ← expand anchors value
    return ((key, value), anchors)

end

end Node

/-! ## Values -/

/-- What a part of a document is read as, or a fault and how deep it lies. -/
abbrev Leveled (α : Type) := Except (Nat × Fault) α

/-- Two readings as one; of two faults the one that lies less deep, or else the
first, counts. -/
def Leveled.pair {α β : Type} : Leveled α → Leveled β → Leveled (α × β)
  | .ok a, .ok b => .ok (a, b)
  | .error first, .error second => .error (if second.1 < first.1 then second else first)
  | .error fault, .ok _ => .error fault
  | .ok _, .error fault => .error fault

/-- The entries of a mapping with one more; a key that is there keeps its place
and takes the new value. -/
def putEntry (entries : List (Value × Value)) (entry : Value × Value) : List (Value × Value) :=
  if entries.any fun other => other.1.same entry.1 then
    entries.map fun other => if other.1.same entry.1 then (other.1, entry.2) else other
  else entries ++ [entry]

namespace Node

mutual

/-- The value that a node at some depth stands for. -/
def valueAt (depth : Nat) : Node → Leveled Value
  | plain text => (plainValue text).mapError (depth, ·)
  | quoted text => .ok (.text text)
  | list items => (itemsAt (depth + 1) items).map .list
  | map entries => (entriesAt (depth + 1) entries).map fun read => .map (read.foldl putEntry [])
  | anchored _ node => valueAt depth node
  | aliasOf _ => .error (depth, .unreadableDocument)

/-- The values of the items of a list. -/
def itemsAt (depth : Nat) : List Node → Leveled (List Value)
  | [] => .ok []
  | item :: rest =>
    (Leveled.pair (valueAt depth item) (itemsAt depth rest)).map fun (v, vs) => v :: vs

/-- The keys and values of the entries of a mapping. -/
def entriesAt (depth : Nat) : List (Node × Node) → Leveled (List (Value × Value))
  | [] => .ok []
  | entry :: rest =>
    (Leveled.pair (entryAt depth entry) (entriesAt depth rest)).map fun (v, vs) => v :: vs

/-- The key and the value of an entry. -/
def entryAt (depth : Nat) : Node × Node → Leveled (Value × Value)
  | (key, value) => Leveled.pair (keyAt depth key) (valueAt depth value)

/-- The value of a key. -/
def keyAt (depth : Nat) : Node → Leveled Value
  | plain text => (plainKey text).mapError (depth, ·)
  | quoted text => .ok (.text text)
  | _ => .error (depth, .unreadableDocument)

end

/-- The value that a document stands for. -/
def value (node : Node) : Except Fault Value := do
  let (node, _) ← node.expand []
  (node.valueAt 0).mapError (·.2)

end Node

end CatalogHealth.Yaml
