import CatalogHealth.Proofs.Traversal
import CatalogHealth.Snapshot.Document
import Mathlib.Logic.Relation

/-!
# Spellings of relation names

A document names a relation bare or below its schema. The schema of a bare name comes from its
entry, from the document or, for a reference, from the table that refers; written out in front of
the name it makes no difference, and neither does a schema that moves from the name into the entry.
So a document may be respelled anywhere and any number of times. Other rewritings of a document,
such as an order of keys, are outside the scope.
-/

namespace CatalogHealth

/-! ## Mappings with a new value -/

namespace Value

variable {key other : String} {value : Value} {entries : List (Value × Value)}

/-- A mapping with a value under a textual key, in the place of an older one if there is one. -/
def put (key : String) (value : Value) : List (Value × Value) → List (Value × Value)
  | [] => [(.text key, value)]
  | (k, old) :: rest =>
    if k = .text key then (k, value) :: rest else (k, old) :: put key value rest

theorem find?_put_self : find? key (put key value entries) = some value := by
  induction entries with
  | nil => simp [put, find?_cons]
  | cons entry rest ih =>
    obtain ⟨k, old⟩ := entry
    by_cases hkey : k = .text key
    · simp [put, find?_cons, hkey]
    · simp [put, find?_cons, hkey, ih]

/-- All other values stay as they are. -/
theorem find?_put_of_ne (h : other ≠ key) :
    find? other (put key value entries) = find? other entries := by
  have htext : (Value.text key : Value) ≠ .text other := fun heq =>
    h (Text.ofString_injective (Value.text.inj heq)).symm
  induction entries with
  | nil => simp [put, find?_cons, htext, find?]
  | cons entry rest ih =>
    obtain ⟨k, old⟩ := entry
    by_cases hkey : k = .text key
    · simp [put, find?_cons, hkey, htext]
    · simp [put, find?_cons, hkey, ih]

end Value

/-! ## Names -/

/-- No point stands in the text. -/
def Text.HasNoPoint (t : Text) : Prop := CodePoint.char '.' ∉ t.points

instance (t : Text) : Decidable t.HasNoPoint := inferInstanceAs (Decidable (_ ∉ t.points))

section Names

variable {schema name : Text}

/-- A bare name takes the schema that is given. -/
theorem relationName_bare (h : name.HasNoPoint) (default : Value) :
    relationName default (.text name) = .ok (default, .text name) := by
  rw [relationName, Text.cut_eq_none_iff.2 h]

theorem points_qualified (schema name : Text) : (schema ++ "." ++ name).points =
    schema.points ++ CodePoint.char '.' :: name.points := by
  have hpoint : ("." : Text).points = [CodePoint.char '.'] := rfl
  rw [Text.points_append, Text.points_append, hpoint, List.append_assoc, List.singleton_append]

/-- A qualified name has a point, whatever its parts are. -/
theorem qualified_ne_empty (schema name : Text) : schema ++ "." ++ name ≠ "" := by
  intro hempty
  have hpoints := (points_qualified schema name).symm.trans (congrArg Text.points hempty)
  exact List.append_ne_nil_of_right_ne_nil _ (List.cons_ne_nil _ _) hpoints

/-- A qualified name brings its schema along. -/
theorem relationName_qualified (h : schema.HasNoPoint) (name : Text) (default : Value) :
    relationName default (.text (schema ++ "." ++ name)) = .ok (.text schema, .text name) := by
  rw [relationName, points_qualified, Text.cut_append_cons h]

end Names

/-! ## Entries -/

/-- A list of a document. -/
inductive DocumentList where
  /-- The tables. -/
  | tables
  /-- The indexes. -/
  | indexes
  /-- The constraints. -/
  | constraints
  /-- The sequences. -/
  | sequences
deriving DecidableEq, Repr

namespace DocumentList

/-- The key of a list in the document. -/
def title : DocumentList → String
  | tables => "tables"
  | indexes => "indexes"
  | constraints => "constraints"
  | sequences => "sequences"

/-- The key under which an entry names its relation. -/
def relationKey : DocumentList → String
  | tables => "name"
  | indexes => "table"
  | constraints => "table"
  | sequences => "name"

/-- Tables and sequences are the relations that entries name as themselves. -/
theorem relationKey_eq_name {list : DocumentList} (h : list = tables ∨ list = sequences) :
    list.relationKey = "name" := by
  cases h with
  | inl h => rw [h, relationKey]
  | inr h => rw [h, relationKey]

theorem title_injective {a b : DocumentList} (h : a.title = b.title) : a = b := by
  cases a <;> cases b <;> first | rfl | exact absurd h (by decide)

end DocumentList

open Value (find? put)

/-- One name in an entry of a list is spelled in another way. -/
inductive RespellsEntry (default : Value) :
    DocumentList → List (Value × Value) → List (Value × Value) → Prop
  /-- A bare name of the relation is qualified by the schema of the entry. -/
  | qualify {list : DocumentList} {entry : List (Value × Value)} {schema name : Text}
      (hname : find? list.relationKey entry = some (.text name)) (hbare : name.HasNoPoint)
      (hschema : (find? "schema" entry).getD default = .text schema) (hfree : schema.HasNoPoint) :
      RespellsEntry default list entry
        (put list.relationKey (.text (schema ++ "." ++ name)) entry)
  /-- A bare name that a constraint refers to is qualified by the schema of its own table. -/
  | qualifyReference {entry : List (Value × Value)} {schema name : Text} {table : Value}
      (hname : find? "references" entry = some (.text name)) (hne : name ≠ "")
      (hbare : name.HasNoPoint)
      (hschema : (Value.map entry).relation "table" default = .ok (.text schema, table))
      (hfree : schema.HasNoPoint) :
      RespellsEntry default .constraints entry
        (put "references" (.text (schema ++ "." ++ name)) entry)
  /-- The schema of a table or sequence moves from its name into the entry. -/
  | unqualify {list : DocumentList} {entry : List (Value × Value)} {schema name : Text}
      (hlist : list = .tables ∨ list = .sequences)
      (hname : find? "name" entry = some (.text (schema ++ "." ++ name)))
      (hfree : schema.HasNoPoint) (hbare : name.HasNoPoint) :
      RespellsEntry default list entry (put "schema" (.text schema) (put "name" (.text name) entry))

section Entries

variable {default : Value} {list : DocumentList} {entry entry' : List (Value × Value)}

/-- The schema and the name of a relation are read from two values of its entry. -/
theorem relation_map {key : String} {name : Value} (h : find? key entry = some name) :
    (Value.map entry).relation key default =
      relationName ((find? "schema" entry).getD default) name := by
  rw [Value.relation, Value.require, h, Value.lookupD_map]
  rfl

/-- An entry names the same relation as before. -/
theorem RespellsEntry.relation_eq (h : RespellsEntry default list entry entry') :
    (Value.map entry').relation list.relationKey default =
      (Value.map entry).relation list.relationKey default := by
  cases h with
  | qualify hname hbare hschema hfree =>
    rw [relation_map Value.find?_put_self, relation_map hname, relationName_qualified hfree,
      hschema, relationName_bare hbare]
  | qualifyReference hname hne hbare hschema hfree =>
    rw [Value.relation, Value.relation, Value.require, Value.require, Value.lookupD_map,
      Value.lookupD_map, Value.find?_put_of_ne (by decide), Value.find?_put_of_ne (by decide)]
  | unqualify hlist hname hfree hbare =>
    have hput : ∀ (value : Value) (entries : List (Value × Value)),
        find? "name" (put "schema" value entries) = find? "name" entries :=
      fun value entries => Value.find?_put_of_ne (by decide)
    rw [DocumentList.relationKey_eq_name hlist,
      relation_map ((hput _ _).trans Value.find?_put_self), Value.find?_put_self,
      relation_map hname, relationName_qualified hfree]
    exact relationName_bare hbare _

/-- An entry says the same about everything but its names. -/
theorem RespellsEntry.find?_eq (h : RespellsEntry default list entry entry') {key : String}
    (hrelation : key ≠ list.relationKey) (hschema : key ≠ "schema")
    (hreferences : key ≠ "references") : find? key entry' = find? key entry := by
  cases h with
  | qualify => exact Value.find?_put_of_ne hrelation
  | qualifyReference => exact Value.find?_put_of_ne hreferences
  | unqualify hlist =>
    rw [DocumentList.relationKey_eq_name hlist] at hrelation
    rw [Value.find?_put_of_ne hschema, Value.find?_put_of_ne hrelation]

theorem RespellsEntry.lookupD_eq (h : RespellsEntry default list entry entry') {key : String}
    (hrelation : key ≠ list.relationKey) (hschema : key ≠ "schema")
    (hreferences : key ≠ "references") (other : Value) :
    (Value.map entry').lookupD key other = (Value.map entry).lookupD key other := by
  rw [Value.lookupD_map, Value.lookupD_map, h.find?_eq hrelation hschema hreferences]

theorem RespellsEntry.require_eq (h : RespellsEntry default list entry entry') {key : String}
    (hrelation : key ≠ list.relationKey) (hschema : key ≠ "schema")
    (hreferences : key ≠ "references") :
    (Value.map entry').require key = (Value.map entry).require key := by
  rw [Value.require, Value.require, h.find?_eq hrelation hschema hreferences]

/-- A table is read from its entry as before. -/
theorem RespellsEntry.table_eq (h : RespellsEntry default .tables entry entry') :
    Table.ofEntry default (.map entry') = Table.ofEntry default (.map entry) := by
  have hrelation : (Value.map entry').relation "name" default =
      (Value.map entry).relation "name" default := h.relation_eq
  have hkept := @RespellsEntry.lookupD_eq _ _ _ _ h
  simp (disch := decide) only [Table.ofEntry, Value.memberList, Value.integerOr, Value.real?,
    hrelation, hkept]

/-- An index is read from its entry as before. -/
theorem RespellsEntry.index_eq (h : RespellsEntry default .indexes entry entry') :
    Index.ofEntry default (.map entry') = Index.ofEntry default (.map entry) := by
  have hrelation : (Value.map entry').relation "table" default =
      (Value.map entry).relation "table" default := h.relation_eq
  have hkept := @RespellsEntry.lookupD_eq _ _ _ _ h
  have hname : (Value.map entry').require "name" = (Value.map entry).require "name" :=
    h.require_eq (by decide) (by decide) (by decide)
  simp (disch := decide) only [Index.ofEntry, Value.memberList, Value.integerOr, Value.real?,
    Value.flag, hrelation, hkept, hname]

/-- The schema and the name of the table that a constraint refers to, which are empty if there is
none. -/
def referenceOf (schema entry : Value) : Except Fault (Value × Value) := do
  let references ← entry.lookupD "references" .null
  if references.truthy then relationName schema references else return (.text "", .text "")

/-- What comes after the reference comes after each of its two cases. -/
theorem referenceOf_bind {α : Type} (schema entry : Value) (rest : Value × Value → Except Fault α) :
    (referenceOf schema entry >>= rest) = (do
      let references ← entry.lookupD "references" .null
      if references.truthy then
        let reference ← relationName schema references
        rest reference
      else
        let reference ← pure (.text "", .text "")
        rest reference) := by
  rw [referenceOf, bind_assoc]
  refine Traversal.bind_congr fun references _ => ?_
  cases references.truthy with
  | false => rfl
  | true => rfl

/-- A text refers to a table unless it is empty. -/
theorem referenceOf_map {schema : Value} {name : Text} (hname : find? "references" entry =
    some (.text name)) (hne : name ≠ "") :
    referenceOf schema (.map entry) = relationName schema (.text name) := by
  have htruthy : (Value.text name).truthy = true := bne_iff_ne.2 hne
  rw [referenceOf, Value.lookupD_map, hname]
  exact if_pos htruthy

/-- A constraint refers to the same table as before. -/
theorem RespellsEntry.reference_eq (h : RespellsEntry default .constraints entry entry')
    {schema table : Value}
    (htable : (Value.map entry).relation "table" default = .ok (schema, table)) :
    referenceOf schema (.map entry') = referenceOf schema (.map entry) := by
  cases h with
  | qualify =>
    rw [referenceOf, referenceOf, Value.lookupD_map, Value.lookupD_map,
      Value.find?_put_of_ne (by decide)]
  | qualifyReference hname hne hbare hschema hfree =>
    cases hschema.symm.trans htable
    rw [referenceOf_map Value.find?_put_self (qualified_ne_empty _ _), referenceOf_map hname hne,
      relationName_qualified hfree, relationName_bare hbare]
  | unqualify hlist => simp at hlist

/-- A constraint is read from its entry as before. -/
theorem RespellsEntry.constraint_eq (h : RespellsEntry default .constraints entry entry') :
    Constraint.ofEntry default (.map entry') = Constraint.ofEntry default (.map entry) := by
  have hrelation : (Value.map entry').relation "table" default =
      (Value.map entry).relation "table" default := h.relation_eq
  have hkept := @RespellsEntry.lookupD_eq _ _ _ _ h
  have hname : (Value.map entry').require "name" = (Value.map entry).require "name" :=
    h.require_eq (by decide) (by decide) (by decide)
  have htype : (Value.map entry').require "type" = (Value.map entry).require "type" :=
    h.require_eq (by decide) (by decide) (by decide)
  simp (disch := decide) only [Constraint.ofEntry, Value.memberList, Value.flag, hrelation, hkept,
    hname, htype]
  -- What a reference takes its schema from is known only once the table has been read.
  refine Traversal.bind_congr fun relation htable => ?_
  have hreference := fun rest : Value × Value → Except Fault Constraint =>
    (referenceOf_bind relation.1 (.map entry') rest).symm.trans
      ((congrArg (· >>= rest) (h.reference_eq htable)).trans (referenceOf_bind _ _ rest))
  simp only [hreference]

/-- A sequence is read from its entry as before. -/
theorem RespellsEntry.sequence_eq (h : RespellsEntry default .sequences entry entry') :
    Sequence.ofEntry default (.map entry') = Sequence.ofEntry default (.map entry) := by
  have hrelation : (Value.map entry').relation "name" default =
      (Value.map entry).relation "name" default := h.relation_eq
  have hkept := @RespellsEntry.lookupD_eq _ _ _ _ h
  simp (disch := decide) only [Sequence.ofEntry, Value.integerOr, Value.flag, hrelation, hkept]

end Entries

/-! ## Documents -/

/-- One name in an entry of a document is spelled in another way. -/
inductive Respells : List (Value × Value) → List (Value × Value) → Prop
  /-- The entry stands in one of the lists. -/
  | entry {document entry entry' : List (Value × Value)} {list : DocumentList}
      {front back : List Value}
      (hlist : find? list.title document = some (.list (front ++ .map entry :: back)))
      (hentry : RespellsEntry (Snapshot.defaultSchema document) list entry entry') :
      Respells document (put list.title (.list (front ++ .map entry' :: back)) document)

section Documents

variable {document document' entry entry' : List (Value × Value)} {list : DocumentList}
  {front back : List Value}

/-- A document says the same about everything but the list that changes. -/
theorem lookupD_put {key : String} (h : key ≠ list.title) (value other : Value) :
    (Value.map (put list.title value document)).lookupD key other =
      (Value.map document).lookupD key other := by
  rw [Value.lookupD_map, Value.lookupD_map, Value.find?_put_of_ne h]

/-- The members of a list are those that are listed. -/
theorem memberList_title {members : List Value}
    (h : find? list.title document = some (.list members)) :
    (Value.map document).memberList list.title = .ok members := by
  rw [Value.memberList, Value.lookupD_map, h]
  exact Value.membersOrNone_list members

/-- A list is read as before if its entries are, and the other lists are not changed. -/
theorem read_respelled {α β : Type} (other : DocumentList) (ofEntry : Value → Except Fault α)
    (hlist : find? list.title document = some (.list (front ++ .map entry :: back)))
    (hentry : list = other → ofEntry (.map entry') = ofEntry (.map entry))
    (rest : List α → Except Fault β) :
    (do
      let members ← (Value.map
        (put list.title (.list (front ++ .map entry' :: back)) document)).memberList other.title
      let objects ← members.mapM ofEntry
      rest objects) = (do
      let members ← (Value.map document).memberList other.title
      let objects ← members.mapM ofEntry
      rest objects) := by
  by_cases hother : list = other
  · have hsame : (front ++ .map entry' :: back).mapM ofEntry =
        (front ++ .map entry :: back).mapM ofEntry := by
      rw [List.mapM_append, List.mapM_append, List.mapM_cons, List.mapM_cons, hentry hother]
    rw [← hother, memberList_title Value.find?_put_self, memberList_title hlist]
    exact congrArg (· >>= rest) hsame
  · have htitle : other.title ≠ list.title := fun heq =>
      hother (DocumentList.title_injective heq).symm
    rw [Value.memberList, lookupD_put htitle]
    rfl

/-- The objects of a document are the same if one of its entries is respelled. -/
theorem entriesOf_respelled {schema : Value}
    (hlist : find? list.title document = some (.list (front ++ .map entry :: back)))
    (hentry : RespellsEntry schema list entry entry') :
    Snapshot.entriesOf (.map (put list.title (.list (front ++ .map entry' :: back)) document))
      schema = Snapshot.entriesOf (.map document) schema := by
  have htable : list = .tables → Table.ofEntry schema (.map entry') =
      Table.ofEntry schema (.map entry) := fun heq => (heq ▸ hentry).table_eq
  have hindex : list = .indexes → Index.ofEntry schema (.map entry') =
      Index.ofEntry schema (.map entry) := fun heq => (heq ▸ hentry).index_eq
  have hconstraint : list = .constraints → Constraint.ofEntry schema (.map entry') =
      Constraint.ofEntry schema (.map entry) := fun heq => (heq ▸ hentry).constraint_eq
  have hsequence : list = .sequences → Sequence.ofEntry schema (.map entry') =
      Sequence.ofEntry schema (.map entry) := fun heq => (heq ▸ hentry).sequence_eq
  unfold Snapshot.entriesOf
  refine (read_respelled .tables _ hlist htable _).trans ?_
  refine Traversal.bind_congr fun _ _ => Traversal.bind_congr fun tables _ => ?_
  refine (read_respelled .indexes _ hlist hindex _).trans ?_
  refine Traversal.bind_congr fun _ _ => Traversal.bind_congr fun indexes _ => ?_
  refine (read_respelled .constraints _ hlist hconstraint _).trans ?_
  refine Traversal.bind_congr fun _ _ => Traversal.bind_congr fun constraints _ => ?_
  exact read_respelled .sequences _ hlist hsequence _

/-- A document is read as before if one of its names is respelled. -/
theorem Respells.ofDocument_eq (h : Respells document document') :
    Snapshot.ofDocument (.map document') = Snapshot.ofDocument (.map document) := by
  obtain @⟨entry, entry', list, front, back, hlist, hentry⟩ := h
  have hdefault : "default_schema" ≠ list.title := by cases list <;> decide
  have hdatabase : "database" ≠ list.title := by cases list <;> decide
  have hschema : Snapshot.defaultSchema (put list.title (.list (front ++ .map entry' :: back))
      document) = Snapshot.defaultSchema document := by
    rw [Snapshot.defaultSchema, Snapshot.defaultSchema, Value.find?_put_of_ne hdefault]
  rw [Snapshot.ofDocument_map, Snapshot.ofDocument_map, hschema, entriesOf_respelled hlist hentry,
    lookupD_put hdatabase]

/-- Whatever names of a document are spelled in another way, bare or qualified, it describes the
same snapshot, or is refused for the same reason. -/
theorem ofDocument_eq_of_respelled (h : Relation.ReflTransGen Respells document document') :
    Snapshot.ofDocument (.map document') = Snapshot.ofDocument (.map document) := by
  induction h with
  | refl => rfl
  | tail _ hstep ih => exact hstep.ofDocument_eq.trans ih

end Documents

/-- A document with a schema for bare names, two tables and a constraint. -/
def shopDocument (orders days key : List (Value × Value)) : List (Value × Value) :=
  [(.text "default_schema", .text "shop"), (.text "tables", .list [.map orders, .map days]),
   (.text "constraints", .list [.map key])]

/-- A foreign key of a table in another schema. -/
def pastKey (references : Text) : List (Value × Value) :=
  [(.text "name", .text "orders_day_fkey"), (.text "table", .text "past.orders"),
   (.text "type", .text "foreign key"), (.text "references", .text references)]

/-- The names of the shop as they are short. -/
def shortShop : List (Value × Value) :=
  shopDocument [(.text "name", .text "orders")] [(.text "name", .text "past.days")] (pastKey "days")

/-- The names of the shop with every schema written out. -/
def longShop : List (Value × Value) :=
  shopDocument [(.text "name", .text "shop.orders")]
    [(.text "name", .text "days"), (.text "schema", .text "past")] (pastKey "past.days")

/-- Each of the three names is respelled in its own way. -/
theorem respells_shop : Relation.ReflTransGen Respells shortShop longShop := by
  have horders : RespellsEntry (.text "shop") .tables [(.text "name", .text "orders")]
      [(.text "name", .text "shop.orders")] :=
    @RespellsEntry.qualify _ .tables _ "shop" "orders" rfl (by decide +kernel) rfl
      (by decide +kernel)
  have hdays : RespellsEntry (.text "shop") .tables [(.text "name", .text "past.days")]
      [(.text "name", .text "days"), (.text "schema", .text "past")] :=
    @RespellsEntry.unqualify _ .tables _ "past" "days" (.inl rfl) rfl (by decide +kernel)
      (by decide +kernel)
  have hkey : RespellsEntry (.text "shop") .constraints (pastKey "days") (pastKey "past.days") :=
    @RespellsEntry.qualifyReference _ _ "past" "days" (.text "orders") rfl (by decide +kernel)
      (by decide +kernel) rfl (by decide +kernel)
  have hfirst : Respells shortShop (shopDocument [(.text "name", .text "shop.orders")]
      [(.text "name", .text "past.days")] (pastKey "days")) :=
    @Respells.entry _ _ _ .tables [] [_] rfl horders
  have hsecond : Respells (shopDocument [(.text "name", .text "shop.orders")]
      [(.text "name", .text "past.days")] (pastKey "days")) (shopDocument
        [(.text "name", .text "shop.orders")]
        [(.text "name", .text "days"), (.text "schema", .text "past")] (pastKey "days")) :=
    @Respells.entry _ _ _ .tables [_] [] rfl hdays
  have hthird : Respells (shopDocument [(.text "name", .text "shop.orders")]
      [(.text "name", .text "days"), (.text "schema", .text "past")] (pastKey "days")) longShop :=
    @Respells.entry _ _ _ .constraints [] [] rfl hkey
  exact ((Relation.ReflTransGen.single hfirst).tail hsecond).tail hthird

/-- With its short names the shop has a table of its own, one of the past, and a foreign key between
tables of the past, and with its long names it is the same. -/
theorem ofDocument_eq_of_respelled_shop : ∃ s,
    Snapshot.ofDocument (.map shortShop) = .ok s ∧
      s.tables.map Table.qualifiedName = [("shop.orders" : Text), "past.days"] ∧
      s.constraints.map (fun key => (key.qualifiedName, key.refQualifiedName)) =
        [(("past.orders.orders_day_fkey" : Text), ("past.days" : Text))] ∧
      s.indexes = [] ∧ s.sequences = [] ∧
      Relation.ReflTransGen Respells shortShop longShop ∧
        Snapshot.ofDocument (.map longShop) = .ok s := by
  have hread : (Snapshot.ofDocument (.map shortShop)).toOption.any (fun s =>
      s.tables.map Table.qualifiedName = [("shop.orders" : Text), "past.days"] ∧
        s.constraints.map (fun key => (key.qualifiedName, key.refQualifiedName)) =
          [(("past.orders.orders_day_fkey" : Text), ("past.days" : Text))] ∧
        s.indexes = [] ∧ s.sequences = []) = true := by
    decide +kernel
  obtain ⟨s, hs, hobjects⟩ := Traversal.exists_ok_of_toOption hread
  obtain ⟨htables, hconstraints, hindexes, hsequences⟩ := of_decide_eq_true hobjects
  exact ⟨s, hs, htables, hconstraints, hindexes, hsequences, respells_shop,
    (ofDocument_eq_of_respelled respells_shop).trans hs⟩

end CatalogHealth
