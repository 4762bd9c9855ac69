import CatalogHealth.Proofs.Range
import CatalogHealth.Snapshot.Document

/-!
# Objections to snapshot documents

A document is read entry by entry and key by key, and the first value that cannot be read ends the
reading. What is objected to depends on the kind of a value alone and on the place where it stands;
this module says so for every place of a document, without reading it. Most values are objected to
as malformed. Two kinds of objection are others: to a value that lacks an operation which is taken
for granted, and to a number beyond the binary64 range. The messages are outside the scope of this
module.
-/

namespace CatalogHealth

/-! ## Objections to the values of a document -/

namespace Objection

/-- The first objection of some in order. -/
def first (objections : List (Option FaultClass)) : Option FaultClass := objections.findSome? id

/-- The objection to a value that should be an integer or spell one. -/
def toInteger : Value → Option FaultClass
  | .bool _ | .int _ | .float (.finite ..) => none
  | .float (.infinite _) => some .overflow
  | .float .nan | .null | .list _ | .map _ => some .value
  | .text spelled => if (Text.integer spelled).toOption.isSome then none else some .value

/-- The objection to a value that should be a number or spell one. -/
def toReal : Value → Option FaultClass
  | .bool _ | .float _ => none
  | .int value => if Binary64.InRange value then none else some .overflow
  | .text spelled => if (Text.number? spelled.numeral).isSome then none else some .value
  | .null | .list _ | .map _ => some .value

/-- The objection to a value that may be absent and should otherwise satisfy another one. -/
def unlessNull (objection : Value → Option FaultClass) : Value → Option FaultClass
  | .null => none
  | value => objection value

/-- The objection to a value that should name a relation: a list or a mapping that holds a point is
taken for a text. -/
def toRelation : Value → Option FaultClass
  | .text _ => none
  | .list items => if items.contains (.text ".") then some .operation else none
  | .map entries => if (entries.map (·.1)).contains (.text ".") then some .operation else none
  | .null | .bool _ | .int _ | .float _ => some .value

/-- The objection to a value that may be empty and should otherwise satisfy another one. -/
def unlessEmpty (objection : Value → Option FaultClass) (value : Value) : Option FaultClass :=
  if value.truthy then objection value else none

/-- The objection to a value that should list things, given the one to each of them and the class
of the one to a value that lists nothing. The characters of a text and the keys of a mapping are
things as well. -/
def toListing (kind : FaultClass) (objection : Value → Option FaultClass) :
    Value → Option FaultClass
  | .list items => items.findSome? objection
  | .text value => value.points.findSome? fun point => objection (.text ⟨[point]⟩)
  | .map entries => entries.findSome? fun entry => objection entry.1
  | _ => some kind

/-- What lists things is objected to for the things that it lists. -/
theorem toListing_of_members {value : Value} {items : List Value} (h : value.members = .ok items)
    (kind : FaultClass) (objection : Value → Option FaultClass) :
    toListing kind objection value = items.findSome? objection := by
  cases value with
  | null | bool _ | int _ | float _ => cases h
  | list _ =>
    cases h
    rfl
  | text _ | map _ =>
    cases h
    rw [List.findSome?_map]
    rfl

/-- What lists nothing is objected to as such. -/
theorem toListing_of_no_members {value : Value} {fault : Fault} (h : value.members = .error fault)
    (kind : FaultClass) (objection : Value → Option FaultClass) :
    toListing kind objection value = some kind := by
  cases value with
  | null | bool _ | int _ | float _ => rfl
  | list _ | text _ | map _ => cases h

/-- The objection to a value that should list things of a document, or be empty. -/
def toMembers (objection : Value → Option FaultClass) : Value → Option FaultClass :=
  unlessEmpty (toListing .value objection)

/-- Nothing is objected to. -/
def toNothing (_ : Value) : Option FaultClass := none

/-- The objection to the value under a key that may be missing. -/
def toField (key : String) (objection : Value → Option FaultClass)
    (entries : List (Value × Value)) : Option FaultClass :=
  (Value.find? key entries).bind objection

/-- The objection to the value under a key that has to be there. -/
def toRequired (key : String) (objection : Value → Option FaultClass)
    (entries : List (Value × Value)) : Option FaultClass :=
  match Value.find? key entries with
  | some value => objection value
  | none => some .value

/-- The objection to an entry that has to be a mapping, given those to its parts in the order in
which they are read. -/
def toEntry (parts : List (List (Value × Value) → Option FaultClass)) : Value → Option FaultClass
  | .map entries => first (parts.map fun part => part entries)
  | _ => some .value

/-- The objection to a column, which may be its bare name. -/
def toColumn : Value → Option FaultClass
  | .text _ => none
  | entry => toEntry [toRequired "name" toNothing] entry

/-- The objection to a key of an index, which may be its bare column name. The keys of another
value are looked up as if it were a mapping. -/
def toIndexKey : Value → Option FaultClass
  | .text _ | .map _ => none
  | _ => some .operation

/-- The objection to the type of a constraint: another value than a text is taken for one. -/
def toConstraintType : Value → Option FaultClass
  | .text name => if (ConstraintType.ofText? name).isSome then none else some .value
  | _ => some .operation

/-- The objection to what a constraint refers to, if it refers to anything. -/
def toReference : Value → Option FaultClass := unlessEmpty toRelation

/-- The objection to a table. -/
def toTable : Value → Option FaultClass :=
  toEntry [toRequired "name" toRelation, toField "columns" (toMembers toColumn),
    toField "rows" toInteger, toField "size" toInteger, toField "bloat_ratio" (unlessNull toReal),
    toField "indexes" (toMembers toNothing), toField "constraints" (toMembers toNothing)]

/-- The objection to an index. -/
def toIndex : Value → Option FaultClass :=
  toEntry [toRequired "table" toRelation, toRequired "name" toNothing,
    toField "columns" (toMembers toIndexKey), toField "size" toInteger,
    toField "scans" (unlessNull toInteger), toField "bloat_ratio" (unlessNull toReal)]

/-- The objection to a constraint. -/
def toConstraint : Value → Option FaultClass :=
  toEntry [toRequired "table" toRelation, toRequired "type" toConstraintType,
    toField "references" toReference, toRequired "name" toNothing,
    toField "columns" (toMembers toNothing), toField "ref_columns" (toMembers toNothing)]

/-- The objection to a sequence. -/
def toSequence : Value → Option FaultClass :=
  toEntry [toRequired "name" toRelation, toField "increment" toInteger]

/-- The objection to a document. -/
def toDocument : Value → Option FaultClass :=
  toEntry [toField "tables" (toMembers toTable), toField "indexes" (toMembers toIndex),
    toField "constraints" (toMembers toConstraint), toField "sequences" (toMembers toSequence)]

end Objection

/-! ## The classes of objections -/

namespace Objection

section Classes

/-- Whether an objection, if it is one, has one of some classes. -/
def IsAmong (kinds : List FaultClass) (objection : Option FaultClass) : Prop :=
  ∀ kind ∈ objection, kind ∈ kinds

variable {kinds : List FaultClass} {objection : Value → Option FaultClass}

theorem isAmong_none : IsAmong kinds none := by simp [IsAmong]

theorem isAmong_some {kind : FaultClass} (h : kind ∈ kinds) : IsAmong kinds (some kind) := by
  simpa [IsAmong] using h

theorem isAmong_ite {p : Prop} [Decidable p] {yes no : Option FaultClass}
    (hyes : IsAmong kinds yes) (hno : IsAmong kinds no) :
    IsAmong kinds (if p then yes else no) := by
  split
  · exact hyes
  · exact hno

theorem isAmong_findSome? {α : Type} {objection : α → Option FaultClass} {xs : List α}
    (h : ∀ x ∈ xs, IsAmong kinds (objection x)) : IsAmong kinds (xs.findSome? objection) := by
  intro kind hkind
  obtain ⟨x, hx, hfound⟩ := List.exists_of_findSome?_eq_some hkind
  exact h x hx kind hfound

theorem isAmong_toField (h : ∀ value, IsAmong kinds (objection value)) (key : String)
    (entries : List (Value × Value)) : IsAmong kinds (toField key objection entries) := by
  unfold toField
  cases Value.find? key entries with
  | none => exact isAmong_none
  | some value => exact h value

theorem isAmong_toRequired (hvalue : .value ∈ kinds) (h : ∀ value, IsAmong kinds (objection value))
    (key : String) (entries : List (Value × Value)) :
    IsAmong kinds (toRequired key objection entries) := by
  unfold toRequired
  cases Value.find? key entries with
  | none => exact isAmong_some hvalue
  | some value => exact h value

theorem isAmong_unlessNull (h : ∀ value, IsAmong kinds (objection value)) (value : Value) :
    IsAmong kinds (unlessNull objection value) := by
  unfold unlessNull
  split
  · exact isAmong_none
  · exact h value

theorem isAmong_unlessEmpty (h : ∀ value, IsAmong kinds (objection value)) (value : Value) :
    IsAmong kinds (unlessEmpty objection value) :=
  isAmong_ite (h value) isAmong_none

theorem isAmong_toListing {kind : FaultClass} (hkind : kind ∈ kinds)
    (h : ∀ value, IsAmong kinds (objection value)) (value : Value) :
    IsAmong kinds (toListing kind objection value) := by
  unfold toListing
  split
  · exact isAmong_findSome? fun item _ => h item
  · exact isAmong_findSome? fun point _ => h _
  · exact isAmong_findSome? fun entry _ => h entry.1
  · exact isAmong_some hkind

theorem isAmong_toEntry (hvalue : .value ∈ kinds)
    {parts : List (List (Value × Value) → Option FaultClass)}
    (h : ∀ part ∈ parts, ∀ entries, IsAmong kinds (part entries)) (value : Value) :
    IsAmong kinds (toEntry parts value) := by
  unfold toEntry
  split
  · rename_i entries
    refine isAmong_findSome? fun objection hobjection => ?_
    obtain ⟨part, hpart, rfl⟩ := List.mem_map.1 hobjection
    exact h part hpart entries
  · exact isAmong_some hvalue

theorem isAmong_toNothing (value : Value) : IsAmong kinds (toNothing value) := isAmong_none

end Classes

/-- The classes of the objections to documents. -/
def documentKinds : List FaultClass := [.value, .operation, .overflow]

theorem value_mem_documentKinds : .value ∈ documentKinds := by decide

theorem isAmong_value : IsAmong documentKinds (some .value) :=
  isAmong_some value_mem_documentKinds

theorem isAmong_operation : IsAmong documentKinds (some .operation) := isAmong_some (by decide)

theorem isAmong_overflow : IsAmong documentKinds (some .overflow) := isAmong_some (by decide)

theorem isAmong_toInteger (value : Value) : IsAmong documentKinds (toInteger value) := by
  cases value with
  | bool _ | int _ => exact isAmong_none
  | null | list _ | map _ => exact isAmong_value
  | float x =>
    cases x with
    | nan => exact isAmong_value
    | infinite _ => exact isAmong_overflow
    | finite _ _ => exact isAmong_none
  | text spelled => exact isAmong_ite isAmong_none isAmong_value

theorem isAmong_toReal (value : Value) : IsAmong documentKinds (toReal value) := by
  cases value with
  | bool _ | float _ => exact isAmong_none
  | null | list _ | map _ => exact isAmong_value
  | int i =>
    simp only [toReal]
    exact isAmong_ite isAmong_none isAmong_overflow
  | text spelled => exact isAmong_ite isAmong_none isAmong_value

theorem isAmong_toRelation (value : Value) : IsAmong documentKinds (toRelation value) := by
  cases value with
  | text _ => exact isAmong_none
  | null | bool _ | int _ | float _ => exact isAmong_value
  | list _ | map _ => exact isAmong_ite isAmong_operation isAmong_none

theorem isAmong_toConstraintType (value : Value) :
    IsAmong documentKinds (toConstraintType value) := by
  unfold toConstraintType
  split
  · exact isAmong_ite isAmong_none isAmong_value
  · exact isAmong_operation

theorem isAmong_toMembers {objection : Value → Option FaultClass}
    (h : ∀ value, IsAmong documentKinds (objection value)) (value : Value) :
    IsAmong documentKinds (toMembers objection value) :=
  isAmong_unlessEmpty (isAmong_toListing value_mem_documentKinds h) value

theorem isAmong_toColumn (entry : Value) : IsAmong documentKinds (toColumn entry) := by
  unfold toColumn
  split
  · exact isAmong_none
  · refine isAmong_toEntry value_mem_documentKinds (fun part hpart => ?_) entry
    rw [List.mem_singleton.1 hpart]
    exact isAmong_toRequired value_mem_documentKinds isAmong_toNothing _

theorem isAmong_toIndexKey (entry : Value) : IsAmong documentKinds (toIndexKey entry) := by
  unfold toIndexKey
  split
  · exact isAmong_none
  · exact isAmong_none
  · exact isAmong_operation

theorem isAmong_toTable (entry : Value) : IsAmong documentKinds (toTable entry) := by
  refine isAmong_toEntry value_mem_documentKinds ?_ entry
  simp only [List.forall_mem_cons]
  exact ⟨isAmong_toRequired value_mem_documentKinds isAmong_toRelation _,
    isAmong_toField (isAmong_toMembers isAmong_toColumn) _,
    isAmong_toField isAmong_toInteger _, isAmong_toField isAmong_toInteger _,
    isAmong_toField (isAmong_unlessNull isAmong_toReal) _,
    isAmong_toField (isAmong_toMembers isAmong_toNothing) _,
    isAmong_toField (isAmong_toMembers isAmong_toNothing) _, List.forall_mem_nil _⟩

theorem isAmong_toIndex (entry : Value) : IsAmong documentKinds (toIndex entry) := by
  refine isAmong_toEntry value_mem_documentKinds ?_ entry
  simp only [List.forall_mem_cons]
  exact ⟨isAmong_toRequired value_mem_documentKinds isAmong_toRelation _,
    isAmong_toRequired value_mem_documentKinds isAmong_toNothing _,
    isAmong_toField (isAmong_toMembers isAmong_toIndexKey) _,
    isAmong_toField isAmong_toInteger _,
    isAmong_toField (isAmong_unlessNull isAmong_toInteger) _,
    isAmong_toField (isAmong_unlessNull isAmong_toReal) _, List.forall_mem_nil _⟩

theorem isAmong_toConstraint (entry : Value) : IsAmong documentKinds (toConstraint entry) := by
  refine isAmong_toEntry value_mem_documentKinds ?_ entry
  simp only [List.forall_mem_cons]
  exact ⟨isAmong_toRequired value_mem_documentKinds isAmong_toRelation _,
    isAmong_toRequired value_mem_documentKinds isAmong_toConstraintType _,
    isAmong_toField (isAmong_unlessEmpty isAmong_toRelation) _,
    isAmong_toRequired value_mem_documentKinds isAmong_toNothing _,
    isAmong_toField (isAmong_toMembers isAmong_toNothing) _,
    isAmong_toField (isAmong_toMembers isAmong_toNothing) _, List.forall_mem_nil _⟩

theorem isAmong_toSequence (entry : Value) : IsAmong documentKinds (toSequence entry) := by
  refine isAmong_toEntry value_mem_documentKinds ?_ entry
  simp only [List.forall_mem_cons]
  exact ⟨isAmong_toRequired value_mem_documentKinds isAmong_toRelation _,
    isAmong_toField isAmong_toInteger _, List.forall_mem_nil _⟩

/-- Documents give rise to objections of three classes only. -/
theorem isAmong_toDocument (document : Value) : IsAmong documentKinds (toDocument document) := by
  refine isAmong_toEntry value_mem_documentKinds ?_ document
  simp only [List.forall_mem_cons]
  exact ⟨isAmong_toField (isAmong_toMembers isAmong_toTable) _,
    isAmong_toField (isAmong_toMembers isAmong_toIndex) _,
    isAmong_toField (isAmong_toMembers isAmong_toConstraint) _,
    isAmong_toField (isAmong_toMembers isAmong_toSequence) _, List.forall_mem_nil _⟩

end Objection

end CatalogHealth
