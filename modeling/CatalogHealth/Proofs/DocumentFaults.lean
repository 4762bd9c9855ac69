import CatalogHealth.Proofs.Objection
import CatalogHealth.Proofs.Traversal

/-!
# What a snapshot document is refused for

Reading a document fails with the first objection to it. Objections to malformed entries are
reported as unacceptable values, and so are identifiers that repeat or cannot be written; the two
other kinds of objection go past the report. So a mapping is read or refused as unacceptable
exactly if its first objection is that something is malformed, or there is none.
-/

namespace CatalogHealth

/-! ## Objections in order -/

namespace Objection

theorem first_cons (objection : Option FaultClass) (rest : List (Option FaultClass)) :
    first (objection :: rest) = objection.or (first rest) := by
  cases objection <;> rfl

theorem first_singleton (objection : Option FaultClass) : first [objection] = objection := by
  cases objection <;> rfl

section Reading

variable {classify : Fault → FaultClass} {α β : Type} {objection : Value → Option FaultClass}
  {rest : List (Option FaultClass)}

/-- The parts of what is read are objected to in the order in which they are read. -/
theorem failure_bind_first {x : Except Fault α} {f : α → Except Fault β}
    {objection : Option FaultClass} (hx : Traversal.failure classify x = objection)
    (hf : ∀ a, Traversal.failure classify (f a) = first rest) :
    Traversal.failure classify (x >>= f) = first (objection :: rest) := by
  rw [Traversal.failure_bind fun a _ => hf a, first_cons, hx]

/-- A default that is not objected to makes no difference. -/
theorem getD_find? {default : Value} (h : objection default = none) (key : String)
    (entries : List (Value × Value)) :
    objection ((Value.find? key entries).getD default) = toField key objection entries := by
  unfold toField
  cases Value.find? key entries with
  | none => exact h
  | some value => rfl

/-- The value under a key that may be missing is objected to if it is there, as long as the default
is not, and otherwise what follows. -/
theorem failure_lookupD_first {entries : List (Value × Value)} {key : String}
    {read : Value → Except Fault α} {default : Value}
    (h : ∀ value, Traversal.failure classify (read value) = first (objection value :: rest))
    (hdefault : objection default = none) :
    Traversal.failure classify ((Value.map entries).lookupD key default >>= read) =
      first (toField key objection entries :: rest) := by
  rw [← getD_find? hdefault]
  exact h ((Value.find? key entries).getD default)

/-- A value that may be empty is only read if it is not. -/
theorem failure_membersOrNone {read : List Value → Except Fault α}
    (h : ∀ value : Value, Traversal.failure classify (value.members >>= read) = objection value)
    (hempty : Traversal.failure classify (read []) = none) (value : Value) :
    Traversal.failure classify (value.membersOrNone >>= read) = unlessEmpty objection value := by
  unfold Value.membersOrNone unlessEmpty
  split
  · exact h value
  · exact hempty

/-- A list fails with its first item that fails. -/
theorem failure_members {read : Value → Except Fault α} {kind : FaultClass}
    (hkind : ∀ name, classify (.notIterable name) = kind)
    (h : ∀ item, Traversal.failure classify (read item) = objection item) (value : Value) :
    Traversal.failure classify (value.members >>= List.mapM read) =
      toListing kind objection value := by
  cases hmembers : value.members with
  | error fault =>
    obtain ⟨name, rfl⟩ := Value.notIterable_of_members hmembers
    rw [toListing_of_no_members hmembers]
    exact congrArg some (hkind name)
  | ok items =>
    refine Eq.trans Traversal.failure_mapM ?_
    rw [toListing_of_members hmembers]
    exact congrArg (items.findSome? ·) (funext h)

end Reading

end Objection

/-! ## Reading objects to what it fails on -/

namespace Objection

/-- The class of the fault that a reading of an entry ends with. -/
abbrev ofReading {α : Type} (x : Except Fault α) : Option FaultClass :=
  Traversal.failure (fun fault => fault.inEntry.kind) x

/-- A text that spells no integer is a value of the right kind that cannot be accepted. -/
theorem kind_of_integer {spelled : Text} {fault : Fault}
    (h : Text.integer spelled = .error fault) : fault.inEntry.kind = .value := by
  unfold Text.integer at h
  simp only at h
  split at h
  · cases h
    rfl
  · split at h
    · cases h
      rfl
    · split at h
      · cases h
        rfl
      · cases h

theorem ofReading_integer (value : Value) : ofReading value.integer = toInteger value := by
  cases value with
  | null | bool _ | int _ | list _ | map _ => rfl
  | float x =>
    cases x with
    | nan | infinite _ | finite _ _ => rfl
  | text spelled =>
    simp only [Value.integer, toInteger]
    cases h : Text.integer spelled with
    | ok i => rfl
    | error fault => exact congrArg some (kind_of_integer h)

/-- Only an integer out of range is not converted. -/
theorem ofReading_toFloat (i : Int) : ofReading (Number.int i).toFloat =
    if Binary64.InRange i then none else some .overflow := by
  by_cases h : Binary64.InRange i
  · rw [if_pos h, ofReading, Traversal.failure_eq_none_iff]
    exact Number.exists_toFloat_int_iff.2 h
  · rw [if_neg h, Number.toFloat, Binary64.ofInt?_of_not_inRange h]
    rfl

theorem ofReading_real (value : Value) : ofReading value.real = toReal value := by
  cases value with
  | null | float _ | list _ | map _ => rfl
  | bool b =>
    have hone : Binary64.InRange (if b then 1 else 0) := by
      cases b <;> decide +kernel
    exact (ofReading_toFloat (if b then 1 else 0)).trans (if_pos hone)
  | int i => exact ofReading_toFloat i
  | text spelled =>
    simp only [Value.real, toReal]
    cases Text.number? spelled.numeral <;> rfl

theorem ofReading_relationName (schema value : Value) :
    ofReading (relationName schema value) = toRelation value := by
  cases value with
  | null | bool _ | int _ | float _ => rfl
  | text name =>
    simp only [relationName, toRelation]
    cases Text.cut (.char '.') name.points <;> rfl
  | list items =>
    simp only [relationName, toRelation]
    cases items.contains (.text ".") <;> rfl
  | map entries =>
    simp only [relationName, toRelation]
    cases (entries.map (·.1)).contains (.text ".") <;> rfl

/-- A list of a document fails with its first item that fails. -/
theorem ofReading_members {α : Type} {read : Value → Except Fault α}
    {objection : Value → Option FaultClass} (h : ∀ item, ofReading (read item) = objection item)
    (value : Value) :
    ofReading (value.membersOrNone >>= List.mapM read) = toMembers objection value :=
  failure_membersOrNone (failure_members (fun _ => rfl) h) rfl value

/-! ## Fields of an entry -/

section Fields

variable {α : Type} {entries : List (Value × Value)} {key : String}

theorem ofReading_lookupD {read : Value → Except Fault α} {objection : Value → Option FaultClass}
    {default : Value} (h : ∀ value, ofReading (read value) = objection value)
    (hdefault : objection default = none) :
    ofReading ((Value.map entries).lookupD key default >>= read) =
      toField key objection entries := by
  rw [ofReading, failure_lookupD_first (fun value => (h value).trans (first_singleton _).symm)
    hdefault, first_singleton]

/-- The value under a key that has to be there is objected to, and otherwise what follows. -/
theorem ofReading_require_first {read : Value → Except Fault α}
    {objection : Value → Option FaultClass} {rest : List (Option FaultClass)}
    (h : ∀ value, ofReading (read value) = first (objection value :: rest)) :
    ofReading ((Value.map entries).require key >>= read) =
      first (toRequired key objection entries :: rest) := by
  rw [Value.require, toRequired]
  cases Value.find? key entries with
  | none => rfl
  | some value => exact h value

theorem ofReading_require {read : Value → Except Fault α} {objection : Value → Option FaultClass}
    (h : ∀ value, ofReading (read value) = objection value) :
    ofReading ((Value.map entries).require key >>= read) = toRequired key objection entries := by
  rw [ofReading_require_first fun value => (h value).trans (first_singleton _).symm,
    first_singleton]

theorem ofReading_name : ofReading ((Value.map entries).require key) =
    toRequired key toNothing entries := by
  rw [Value.require, toRequired]
  cases Value.find? key entries <;> rfl

theorem ofReading_relation (schema : Value) : ofReading ((Value.map entries).relation key schema) =
    toRequired key toRelation entries :=
  ofReading_require fun value => ofReading_relationName _ value

theorem ofReading_integerOr {default : Int} :
    ofReading ((Value.map entries).integerOr key default) = toField key toInteger entries :=
  ofReading_lookupD ofReading_integer rfl

/-- A value that may be absent is read as it is if it is there. -/
theorem ofReading_unlessNull {read : Value → Except Fault α} {objection : Value → Option FaultClass}
    (h : ∀ value, ofReading (read value) = objection value) (value : Value) :
    ofReading (match value with
      | .null => pure none
      | value => some <$> read value) = unlessNull objection value := by
  cases value with
  | null => rfl
  | bool b => exact Traversal.failure_map.trans (h (.bool b))
  | int i => exact Traversal.failure_map.trans (h (.int i))
  | float x => exact Traversal.failure_map.trans (h (.float x))
  | text spelled => exact Traversal.failure_map.trans (h (.text spelled))
  | list items => exact Traversal.failure_map.trans (h (.list items))
  | map entries => exact Traversal.failure_map.trans (h (.map entries))

theorem ofReading_real? : ofReading ((Value.map entries).real? key) =
    toField key (unlessNull toReal) entries :=
  ofReading_lookupD (ofReading_unlessNull ofReading_real) rfl

/-- The things under a key that may be missing are objected to. -/
theorem ofReading_memberList {read : Value → Except Fault α}
    {objection : Value → Option FaultClass} (h : ∀ item, ofReading (read item) = objection item) :
    ofReading ((Value.map entries).memberList key >>= List.mapM read) =
      toField key (toMembers objection) entries := by
  rw [Value.memberList, bind_assoc]
  exact ofReading_lookupD (ofReading_members h) rfl

/-- Things of any kind are listed. -/
theorem ofReading_memberList_any : ofReading ((Value.map entries).memberList key) =
    toField key (toMembers toNothing) entries := by
  have hread : ∀ item : Value, ofReading (.ok item) = toNothing item := fun _ => rfl
  have hitems : ∀ items : List Value, ofReading (items.mapM Except.ok) = none := by
    intro items
    rw [ofReading, Traversal.failure_mapM]
    exact List.findSome?_eq_none_iff.2 fun _ _ => rfl
  have hboth := Traversal.failure_bind (x := (Value.map entries).memberList key)
    fun items _ => hitems items
  rw [Option.or_none] at hboth
  exact hboth.symm.trans (ofReading_memberList hread)

end Fields

/-! ## Entries -/

section Steps

variable {α β : Type} {x : Except Fault α} {f : α → Except Fault β}

/-- A step that always succeeds is not objected to. -/
theorem ofReading_bind_of_none {objection : Option FaultClass} (hx : ofReading x = none)
    (hf : ∀ a, ofReading (f a) = objection) : ofReading (x >>= f) = objection := by
  rw [ofReading, Traversal.failure_bind fun a _ => hf a]
  exact congrArg (Option.or · _) hx

end Steps

theorem ofReading_column (entry : Value) : ofReading (Column.ofEntry entry) = toColumn entry := by
  cases entry with
  | text name => rfl
  | null | bool _ | int _ | float _ | list _ => rfl
  | map entries =>
    refine failure_bind_first ofReading_name fun _ => ?_
    rfl

theorem ofReading_indexKey (entry : Value) :
    ofReading (IndexKey.ofEntry entry) = toIndexKey entry := by
  cases entry with
  | text _ | null | bool _ | int _ | float _ | list _ | map _ => rfl

theorem ofReading_table (schema entry : Value) :
    ofReading (Table.ofEntry schema entry) = toTable entry := by
  cases entry with
  | null | bool _ | int _ | float _ | text _ | list _ => rfl
  | map entries =>
    refine failure_bind_first (ofReading_relation schema) fun _ => ?_
    simp only
    rw [← bind_assoc]
    refine failure_bind_first (ofReading_memberList ofReading_column) fun _ => ?_
    refine failure_bind_first ofReading_integerOr fun _ => ?_
    refine failure_bind_first ofReading_integerOr fun _ => ?_
    refine failure_bind_first ofReading_real? fun _ => ?_
    refine failure_bind_first ofReading_memberList_any fun _ => ?_
    refine failure_bind_first ofReading_memberList_any fun _ => ?_
    rfl

theorem ofReading_index (schema entry : Value) :
    ofReading (Index.ofEntry schema entry) = toIndex entry := by
  cases entry with
  | null | bool _ | int _ | float _ | text _ | list _ => rfl
  | map entries =>
    refine failure_bind_first (ofReading_relation schema) fun _ => ?_
    refine failure_bind_first ofReading_name fun _ => ?_
    simp only
    rw [← bind_assoc]
    refine failure_bind_first (ofReading_memberList ofReading_indexKey) fun _ => ?_
    -- The flags, the method, the condition and the constraint are taken as they come.
    refine ofReading_bind_of_none rfl fun _ => ?_
    refine ofReading_bind_of_none rfl fun _ => ?_
    refine ofReading_bind_of_none rfl fun _ => ?_
    refine ofReading_bind_of_none rfl fun _ => ?_
    refine ofReading_bind_of_none rfl fun _ => ?_
    refine failure_bind_first ofReading_integerOr fun _ => ?_
    have hrest : ∀ (scanCount : Option Int) (make : Option Int → Option Binary64 → Value → Index),
        ofReading (do
          let bloatRatio ← (Value.map entries).real? "bloat_ratio"
          let definition ← (Value.map entries).lookupD "definition" (.text "")
          return make scanCount bloatRatio definition) =
            first [toField "bloat_ratio" (unlessNull toReal) entries] :=
      fun scanCount make => failure_bind_first ofReading_real? fun _ => rfl
    have hcounted : ∀ (scans : Value) (make : Option Int → Option Binary64 → Value → Index),
        ofReading (do
          let scanCount ← some <$> scans.integer
          let bloatRatio ← (Value.map entries).real? "bloat_ratio"
          let definition ← (Value.map entries).lookupD "definition" (.text "")
          return make scanCount bloatRatio definition) =
            first [toInteger scans, toField "bloat_ratio" (unlessNull toReal) entries] :=
      fun scans make => failure_bind_first (Traversal.failure_map.trans (ofReading_integer scans))
        fun scanCount => hrest scanCount make
    refine failure_lookupD_first (fun scans => ?_) rfl
    cases scans with
    | null => exact hrest none _
    | bool _ | int _ | float _ | text _ | list _ | map _ => exact hcounted _ _

/-- An unknown type is reported under the name of the constraint, and so is the lack of a name that
can be written. -/
theorem ofReading_unknownType (entries : List (Value × Value)) (typeName : Text) :
    ofReading (do
      let shown ← (← (Value.map entries).require "name").shown
      (throw (.unknownConstraintType shown typeName) : Except Fault Constraint)) =
        some .value := by
  simp only [Value.require]
  cases Value.find? "name" entries with
  | none => rfl
  | some name =>
    change ofReading (name.shown >>= _) = _
    unfold Value.shown
    split <;> rfl

theorem ofReading_constraint (schema entry : Value) :
    ofReading (Constraint.ofEntry schema entry) = toConstraint entry := by
  cases entry with
  | null | bool _ | int _ | float _ | text _ | list _ => rfl
  | map entries =>
    refine failure_bind_first (ofReading_relation schema) fun _ => ?_
    refine ofReading_require_first fun typeValue => ?_
    cases typeValue with
    | null | bool _ | int _ | float _ | list _ | map _ => rfl
    | text typeName =>
      simp only [Value.text?, toConstraintType]
      cases ConstraintType.ofText? typeName with
      | none => exact ofReading_unknownType entries typeName
      | some kind =>
        refine failure_lookupD_first (fun references => ?_) rfl
        simp only [toReference, unlessEmpty]
        split
        · refine failure_bind_first (ofReading_relationName _ references) fun _ => ?_
          refine failure_bind_first ofReading_name fun _ => ?_
          refine failure_bind_first ofReading_memberList_any fun _ => ?_
          refine failure_bind_first ofReading_memberList_any fun _ => ?_
          rfl
        · refine failure_bind_first rfl fun _ => ?_
          refine failure_bind_first ofReading_name fun _ => ?_
          refine failure_bind_first ofReading_memberList_any fun _ => ?_
          refine failure_bind_first ofReading_memberList_any fun _ => ?_
          rfl

theorem ofReading_sequence (schema entry : Value) :
    ofReading (Sequence.ofEntry schema entry) = toSequence entry := by
  cases entry with
  | null | bool _ | int _ | float _ | text _ | list _ => rfl
  | map entries =>
    refine failure_bind_first (ofReading_relation schema) fun _ => ?_
    refine ofReading_bind_of_none rfl fun _ => ?_
    refine ofReading_bind_of_none rfl fun _ => ?_
    refine ofReading_bind_of_none rfl fun _ => ?_
    refine ofReading_bind_of_none rfl fun _ => ?_
    refine failure_bind_first ofReading_integerOr fun _ => ?_
    rfl

/-- The four lists of a document are objected to in order. -/
theorem ofReading_entriesOf (schema : Value) (fields : List (Value × Value)) :
    ofReading (Snapshot.entriesOf (.map fields) schema) = toDocument (.map fields) := by
  unfold Snapshot.entriesOf
  rw [← bind_assoc]
  refine failure_bind_first (ofReading_memberList (ofReading_table schema)) fun _ => ?_
  rw [← bind_assoc]
  refine failure_bind_first (ofReading_memberList (ofReading_index schema)) fun _ => ?_
  rw [← bind_assoc]
  refine failure_bind_first (ofReading_memberList (ofReading_constraint schema)) fun _ => ?_
  rw [← bind_assoc]
  refine failure_bind_first (ofReading_memberList (ofReading_sequence schema)) fun _ => ?_
  rfl

end Objection

/-! ## Documents -/

namespace Snapshot

/-- Objects are only refused for identifiers that repeat or cannot be written. -/
theorem kind_of_distinctObjects {α : Type} {kind : String} {identifier : α → Text}
    {isWritable : α → Bool} {objects : List α} {fault : Fault}
    (h : distinctObjects kind identifier isWritable objects = .error fault) :
    fault.kind = .value := by
  unfold distinctObjects at h
  split at h
  · split at h
    · cases h
      rfl
    · cases h
  · split at h
    · cases h
      rfl
    · cases h
      rfl

theorem kind_of_ofObjects {tables : List Table} {indexes : List Index}
    {constraints : List Constraint} {sequences : List Sequence} {database : Value} {fault : Fault}
    (h : ofObjects tables indexes constraints sequences database = .error fault) :
    fault.kind = .value := by
  rcases Traversal.bind_eq_error.1 h with htables | ⟨⟨_, _⟩, -, h⟩
  · exact kind_of_distinctObjects htables
  rcases Traversal.bind_eq_error.1 h with hindexes | ⟨⟨_, _⟩, -, h⟩
  · exact kind_of_distinctObjects hindexes
  rcases Traversal.bind_eq_error.1 h with hconstraints | ⟨⟨_, _⟩, -, h⟩
  · exact kind_of_distinctObjects hconstraints
  rcases Traversal.bind_eq_error.1 h with hsequences | ⟨⟨_, _⟩, -, h⟩
  · exact kind_of_distinctObjects hsequences
  dsimp only at h
  split at h
  · cases h
    rfl
  · cases h

/-- A document is read as a snapshot whose objects of each kind have distinct identifiers, or
refused as unacceptable. -/
def ReadsOrReports (document : Value) : Prop :=
  (∃ s, ofDocument document = .ok s ∧ (s.tables.map Table.qualifiedName).Nodup ∧
    (s.indexes.map Index.qualifiedName).Nodup ∧
    (s.constraints.map Constraint.qualifiedName).Nodup ∧
    (s.sequences.map Sequence.qualifiedName).Nodup) ∨
  ∃ fault, ofDocument document = .error fault ∧ fault.kind = .value

/-- Entries that are objected to are refused with the class of the first objection. -/
theorem exists_fault_of_objection {fields : List (Value × Value)} {kind : FaultClass}
    (h : Objection.toDocument (.map fields) = some kind) :
    ∃ fault, ofDocument (.map fields) = .error fault ∧ fault.kind = kind := by
  obtain ⟨fault, hfault, hkind⟩ := Traversal.failure_eq_some_iff.1
    ((Objection.ofReading_entriesOf (defaultSchema fields) fields).trans h)
  refine ⟨fault.inEntry, ?_, hkind⟩
  rw [ofDocument_map, hfault]
  rfl

/-- Entries that are not objected to are at most refused for their identifiers. -/
theorem kind_of_no_objection {fields : List (Value × Value)} {fault : Fault}
    (h : Objection.toDocument (.map fields) = none)
    (hfault : ofDocument (.map fields) = .error fault) : fault.kind = .value := by
  obtain ⟨⟨tables, indexes, constraints, sequences⟩, hentries⟩ := Traversal.failure_eq_none_iff.1
    ((Objection.ofReading_entriesOf (defaultSchema fields) fields).trans h)
  rw [ofDocument_map, hentries] at hfault
  exact kind_of_ofObjects hfault

/-- A mapping is read or refused as unacceptable exactly if nothing in it lacks an operation or is
a number beyond its range before anything else is wrong. Otherwise the refusal has the class of the
first objection, which is one of three. -/
theorem readsOrReports_iff (fields : List (Value × Value)) :
    (ReadsOrReports (.map fields) ↔ ∀ kind ∈ Objection.toDocument (.map fields), kind = .value) ∧
      (∀ kind ∈ Objection.toDocument (.map fields),
        ∃ fault, ofDocument (.map fields) = .error fault ∧ fault.kind = kind) ∧
      ∀ fault, ofDocument (.map fields) = .error fault →
        fault.kind = .value ∨ fault.kind = .operation ∨ fault.kind = .overflow := by
  cases hobjection : Objection.toDocument (.map fields) with
  | none =>
    have hkind : ∀ fault, ofDocument (.map fields) = .error fault → fault.kind = .value :=
      fun _ => kind_of_no_objection hobjection
    refine ⟨iff_of_true ?_ (by simp), by simp, fun fault hfault => .inl (hkind fault hfault)⟩
    cases hdocument : ofDocument (.map fields) with
    | ok s =>
      exact .inl ⟨s, hdocument, s.tables_nodup, s.indexes_nodup, s.constraints_nodup,
        s.sequences_nodup⟩
    | error fault => exact .inr ⟨fault, hdocument, hkind fault hdocument⟩
  | some kind =>
    obtain ⟨fault, hfault, hkind⟩ := exists_fault_of_objection hobjection
    have hthree : kind = .value ∨ kind = .operation ∨ kind = .overflow := by
      simpa [Objection.documentKinds] using
        Objection.isAmong_toDocument (.map fields) kind hobjection
    have hunique : ∀ other, ofDocument (.map fields) = .error other → other.kind = kind := by
      intro other hother
      cases hfault.symm.trans hother
      exact hkind
    refine ⟨?_, ?_, fun other hother => hunique other hother ▸ hthree⟩
    · simp only [Option.mem_some_iff, forall_eq']
      constructor
      · rintro (⟨s, hs, -⟩ | ⟨other, hother, hvalue⟩)
        · cases hfault.symm.trans hs
        · exact (hunique other hother).symm.trans hvalue
      · exact fun hvalue => .inr ⟨fault, hfault, hkind.trans hvalue⟩
    · simp only [Option.mem_some_iff, forall_eq']
      exact ⟨fault, hfault, hkind⟩

/-- An estimate beyond the binary64 range is objected to before the missing name of a later table
is. -/
example : Objection.toDocument (.map [(.text "tables", .list
    [.map [(.text "bloat_ratio", .int (Int.pow 10 400)), (.text "name", .text "orders")],
      .map []])]) = some .overflow := by
  decide +kernel

/-- A document with an index whose only key is a number. -/
def numberedKey : List (Value × Value) :=
  [(.text "indexes", .list
    [.map [(.text "columns", .list [.int 5]), (.text "name", .text "by_day"),
      (.text "table", .text "orders")]])]

/-- The document is neither read nor refused as unacceptable: a number lacks an operation. -/
theorem numberedKey_neither :
    (∃ fault, ofDocument (.map numberedKey) = .error fault ∧ fault.kind = .operation) ∧
      ¬ReadsOrReports (.map numberedKey) := by
  obtain ⟨fault, hfault, hkind⟩ := exists_fault_of_objection
    (show Objection.toDocument (.map numberedKey) = some .operation by decide +kernel)
  refine ⟨⟨fault, hfault, hkind⟩, ?_⟩
  rintro (⟨s, hs, -⟩ | ⟨other, hother, hvalue⟩)
  · cases hfault.symm.trans hs
  · cases hfault.symm.trans hother
    cases hkind.symm.trans hvalue

end Snapshot

end CatalogHealth
