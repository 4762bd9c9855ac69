import CatalogHealth.Check.Basic
import CatalogHealth.Check.ByteSize
import CatalogHealth.Sorting
import CatalogHealth.Text.Blank

/-!
# Redundant indexes

Two indexes of one table do the same work if they have the same access method,
the same condition up to blank characters and the same key signature; a btree
index is also redundant if its signature is the beginning of that of another
one. Uniqueness and constraints are never given up: the prefix of an index is
kept when either of the two is unique, and an index that backs a constraint is
never the redundant one. Hash indexes and invalid indexes are not compared.
-/

namespace CatalogHealth

/-- The condition of an index up to the blank characters in it; what is nothing
or empty is no condition, and what is no text cannot be read as one. -/
def Index.condition (index : Index) : Except Fault Text :=
  match index.predicate with
  | .text condition => .ok (Text.collapse condition)
  | value => if value.truthy then .error (.lacksOperation value.kindName "split") else .ok ""

/-- What decides which of two identical indexes stays, the weightiest part
first: the one that backs a constraint, the unique one, the one scanned more
often, the one named first. -/
structure KeepRank where
  /-- Whether no constraint needs the index. -/
  isFree : Bool
  /-- Whether the index enforces no uniqueness. -/
  isPlain : Bool
  /-- The number of scans, negated. -/
  disuse : Int
  /-- The identifier. -/
  identifier : Text
deriving DecidableEq, Repr

namespace KeepRank

/-- False comes before true. -/
def flagLe (a b : Bool) : Bool := !a || b

/-- The order of ranks: the first part that differs decides. -/
def le : KeepRank → KeepRank → Bool :=
  byPart isFree flagLe <| byPart isPlain flagLe <|
    byPart disuse (fun a b => decide (a ≤ b)) fun a b => textLe a.identifier b.identifier

end KeepRank

/-- The rank of an index among identical ones. -/
def Index.keepRank (index : Index) : KeepRank where
  isFree := !index.isConstraintBacking
  isPlain := !index.isUnique
  disuse := -(index.scanCount.getD 0)
  identifier := index.qualifiedName

/-- How one index makes another one superfluous. -/
inductive Redundancy where
  /-- Both do the same work and each backs a constraint. -/
  | bothNeeded
  /-- Both do the same work. -/
  | identical (redundant kept : Index)
  /-- One does the beginning of the work of the other. -/
  | beginning (redundant kept : Index)
deriving DecidableEq, Repr

namespace Redundancy

/-- The superfluous index, if there is one. -/
def redundant? : Redundancy → Option Index
  | bothNeeded => none
  | identical redundant _ => some redundant
  | beginning redundant _ => some redundant

/-- The index that does its work, if there is one. -/
def kept? : Redundancy → Option Index
  | bothNeeded => none
  | identical _ kept => some kept
  | beginning _ kept => some kept

/-- The name of the reason in metadata. -/
def reason : Redundancy → String
  | bothNeeded => "identical"
  | identical .. => "identical"
  | beginning .. => "prefix"

end Redundancy

/-- Which of two indexes with the same signature is superfluous. -/
def amongIdentical (a b : Index) : Redundancy :=
  if a.isConstraintBacking && b.isConstraintBacking then .bothNeeded
  else if a.keepRank.le b.keepRank then .identical b a
  else .identical a b

/-- Whether a shorter index only does the beginning of the work of a longer
one. -/
def isBeginning (shorter longer : Index) : Bool :=
  shorter.method = .text "btree" && shorter.keys.length != longer.keys.length &&
    KeySignature.allSame (longer.signature.take shorter.keys.length) shorter.signature &&
    !shorter.isUnique && !longer.isUnique && !shorter.isConstraintBacking

/-- How one of two indexes with the same method and condition makes the other
superfluous. -/
def signatureRedundancy? (a b : Index) : Option Redundancy :=
  if KeySignature.allSame a.signature b.signature then some (amongIdentical a b)
  else
    let (shorter, longer) := if a.keys.length < b.keys.length then (a, b) else (b, a)
    if isBeginning shorter longer then some (.beginning shorter longer) else none

/-- How one of two indexes of a table makes the other superfluous. The conditions
are looked at only if the methods are equal, and the signatures, which have to be such
that can be written, only if the conditions are. -/
def redundancy? (a b : Index) : Except Fault (Option Redundancy) := do
  if !a.method.equals b.method then return none
  if (← a.condition) ≠ (← b.condition) then return none
  discard a.writtenSignature
  discard b.writtenSignature
  return signatureRedundancy? a b

/-- How the check for redundant indexes presents itself. -/
def duplicatedIndexesLabel : CheckLabel where
  name := "duplicated_indexes"
  category := "indexes"
  description := "Identical or prefix-redundant indexes on the same table"

/-- The headline about a superfluous index. -/
def redundancyTitle (redundancy : Redundancy) (redundant kept : Text) : Text :=
  match redundancy with
  | .beginning .. => "Index '" ++ redundant ++ "' is redundant, prefix of '" ++ kept ++ "'"
  | _ => "Index '" ++ redundant ++ "' duplicates '" ++ kept ++ "'"

/-- The finding about two indexes that each back a constraint. -/
def bothNeededFinding (table first second : Text) (metadata : Metadata) : Finding where
  severity := .warning
  checkName := duplicatedIndexesLabel.name
  category := duplicatedIndexesLabel.category
  title := "Indexes '" ++ first ++ "' and '" ++ second ++ "' are identical"
  detail :=
    "Both indexes on '" ++ table ++ "' back constraints and have identical definitions. " ++
    "Review which constraint is needed before dropping either."
  objectName := first
  objects := [first, second]
  remediation := "Drop one of the constraints and its index manually."
  metadata := metadata

/-- The finding about a superfluous index. -/
def superfluousFinding (table : Text) (objects : List Text) (redundancy : Redundancy)
    (redundant kept : Index) (metadata : Metadata) : Except Fault Finding := do
  let size ← wholeByteSize redundant.sizeBytes
  return {
    severity := .warning
    checkName := duplicatedIndexesLabel.name
    category := duplicatedIndexesLabel.category
    title := redundancyTitle redundancy redundant.qualifiedName kept.qualifiedName
    detail :=
      "Index '" ++ redundant.name.display ++ "' on '" ++ table ++ "' (" ++ size ++
      ") adds write overhead and " ++
      "storage without serving any lookup that '" ++ kept.name.display ++ "' cannot serve."
    objectName := redundant.qualifiedName
    objects := objects
    remediation := "Drop index '" ++ redundant.qualifiedName ++ "'."
    metadata := metadata }

/-- The finding about two indexes of a table. -/
def redundancyFinding (table : Text) (a b : Index) (redundancy : Redundancy) :
    Except Fault Finding :=
  let (first, second) :=
    if textLe a.qualifiedName b.qualifiedName then (a.qualifiedName, b.qualifiedName)
    else (b.qualifiedName, a.qualifiedName)
  let metadata : Metadata :=
    [("schema", a.tableSchema), ("table", a.tableName), ("reason", .text redundancy.reason),
     ("redundant_index", (redundancy.redundant?.map (·.name)).getD .null),
     ("kept_index", (redundancy.kept?.map (·.name)).getD .null),
     ("wasted_bytes", .int ((redundancy.redundant?.map (·.sizeBytes)).getD 0))]
  match redundancy with
  | .bothNeeded => .ok (bothNeededFinding table first second metadata)
  | .identical redundant kept =>
    superfluousFinding table [first, second] redundancy redundant kept metadata
  | .beginning redundant kept =>
    superfluousFinding table [first, second] redundancy redundant kept metadata

/-- All pairs of distinct positions of a list, in order. -/
def pairs {α : Type} : List α → List (α × α)
  | [] => []
  | x :: rest => rest.map (x, ·) ++ pairs rest

/-- Whether an index takes part in the comparison. -/
def isComparable (index : Index) : Bool :=
  !index.keys.isEmpty && index.isValid && index.method != .text "hash"

/-- What there is to report about two indexes of a table. -/
def redundancyReport (table : Text) (pair : Index × Index) : Except Fault (List Finding) := do
  match ← redundancy? pair.1 pair.2 with
  | some redundancy => return [← redundancyFinding table pair.1 pair.2 redundancy]
  | none => return []

/-- The findings about the indexes of one table, given in the order of their
identifiers. -/
def redundancyFindings (table : Text) (indexes : List Index) : Except Fault (List Finding) :=
  ((pairs indexes).mapM (redundancyReport table)).map List.flatten

/-- Indexes that do the work of others. -/
def duplicatedIndexes : Check where
  toCheckLabel := duplicatedIndexesLabel
  run snapshot _ := do
    let sorted := sortByText Index.qualifiedName snapshot.indexes
    let keyless := (sorted.filter fun index => index.keys.isEmpty).map fun index =>
      duplicatedIndexesLabel.cannotEvaluate index.qualifiedName "index has no key columns"
    let comparable := sorted.filter isComparable
    let reports ← (sortedTexts (comparable.map Index.tableQualifiedName)).mapM fun table =>
      redundancyFindings table (comparable.filter fun index => index.tableQualifiedName = table)
    return keyless ++ reports.flatten

end CatalogHealth
