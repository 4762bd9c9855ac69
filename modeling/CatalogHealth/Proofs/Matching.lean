import CatalogHealth.Exclusion
import CatalogHealth.Proofs.Traversal

/-!
# What rules of exclusion hide

A rule is matched against an object or the table that owns it, and what the rules say about a
finding depends on its check and the objects that it names alone. Rules are asked in order until
one of them answers yes, so the order decides which of them are asked; it decides nothing about
the answer. Matching fails only where a pattern or a name is no text. Which texts a glob accepts
is outside the scope of this module.
-/

namespace CatalogHealth

/-- Every object of a snapshot has a text as its own name. -/
def Snapshot.ObjectNamesAreTexts (s : Snapshot) : Prop :=
  ∀ object ∈ s.objects, ∃ name, object.name = .text name

/-- The pattern of every rule is a text. -/
def Exclusions.PatternsAreTexts (rules : Exclusions) : Prop :=
  ∀ rule ∈ rules, ∃ pattern, rule.pattern = .text pattern

namespace ExclusionRule

variable {rule : ExclusionRule} {object : SchemaObject}

/-- A rule that cannot be matched meets a value of the wrong kind. -/
theorem fault_of_describes {fault : Fault} (h : rule.describes object = .error fault) :
    fault = .wrongKind := by
  have hlooks : ∀ other, rule.looksAtIdentifiers = .error other → other = .wrongKind := by
    intro other hother
    unfold looksAtIdentifiers at hother
    split at hother <;> cases hother
    rfl
  unfold describes at h
  cases hidentifiers : rule.looksAtIdentifiers with
  | error other =>
    rw [hidentifiers] at h
    cases h
    exact hlooks _ hidentifiers
  | ok identifiers =>
    rw [hidentifiers] at h
    simp only [bind, Except.bind] at h
    split at h <;> cases h
    rfl

/-- A text is matched against any text. -/
theorem exists_describes {pattern name : Text} (hpattern : rule.pattern = .text pattern)
    (hname : object.name = .text name) : ∃ b, rule.describes object = .ok b := by
  have hlooks : rule.looksAtIdentifiers = .ok (pattern.points.contains '.') := by
    simp [looksAtIdentifiers, hpattern]
  unfold describes
  rw [hlooks, hpattern, hname]
  cases pattern.points.contains '.' with
  | true => exact ⟨_, rfl⟩
  | false => exact ⟨_, rfl⟩

end ExclusionRule

namespace Exclusions

variable {rules rules' : Exclusions} {s : Snapshot} {snapshot? : Option Snapshot}
  {check : String} {object : SchemaObject} {f g : Finding}

/-- Rules that cannot be matched against an object meet a value of the wrong kind. -/
theorem fault_of_excludes {fault : Fault}
    (h : rules.excludes check snapshot? object = .error fault) : fault = .wrongKind := by
  obtain ⟨rule, -, h⟩ := Traversal.exists_fault_of_anyM h
  obtain ⟨subject, -, h⟩ := Traversal.exists_fault_of_anyM h
  exact rule.fault_of_describes h

/-- Rules that cannot be matched against the objects of a finding meet a value of the wrong
kind. -/
theorem fault_of_silences {fault : Fault} (h : rules.silences s check f = .error fault) :
    fault = .wrongKind := by
  obtain ⟨object, -, h⟩ := Traversal.exists_fault_of_anyM h
  exact fault_of_excludes h

/-- A filter that does not go through meets a value of the wrong kind. -/
theorem fault_of_filterFindings {found : List Finding} {fault : Fault}
    (h : rules.filterFindings s check found = .error fault) : fault = .wrongKind := by
  induction found with
  | nil => cases h
  | cons f rest ih =>
    rw [filterFindings] at h
    cases hsilenced : rules.silences s check f with
    | error other =>
      rw [hsilenced] at h
      cases h
      exact fault_of_silences hsilenced
    | ok silenced =>
      cases hrest : rules.filterFindings s check rest with
      | error other =>
        rw [hsilenced, hrest] at h
        cases h
        exact ih hrest
      | ok kept =>
        rw [hsilenced, hrest] at h
        cases h

/-- Some rule about a check describes an object or the table that owns it. -/
def Describe (rules : Exclusions) (check : String) (snapshot? : Option Snapshot)
    (object : SchemaObject) : Prop :=
  ∃ rule ∈ rules, rule.appliesTo check = true ∧
    ∃ subject ∈ subjects snapshot? object, rule.describes subject = .ok true

/-- Rules that have an answer about an object exclude it exactly if one of them describes it. -/
theorem excludes_eq_ok {b : Bool} (h : rules.excludes check snapshot? object = .ok b) :
    b = true ↔ rules.Describe check snapshot? object := by
  have hrules := Traversal.anyM_eq_ok_iff h fun rule _ c hc =>
    Traversal.anyM_eq_ok_iff hc fun subject _ d hd =>
      (show d = true ↔ rule.describes subject = .ok true by simp [hd])
  rw [hrules]
  simp only [Describe, rulesFor, List.mem_filter, and_assoc]

/-- The objects of a snapshot that a finding names. -/
def named (s : Snapshot) (f : Finding) : List SchemaObject := f.objects.filterMap s.object?

/-- Rules that have an answer about a finding silence it exactly if one of them describes an
object that it names. -/
theorem silences_eq_ok {b : Bool} (h : rules.silences s check f = .ok b) :
    b = true ↔ ∃ object ∈ named s f, rules.Describe check (some s) object :=
  Traversal.anyM_eq_ok_iff h fun _ _ _ hc => excludes_eq_ok hc

/-- Whether a finding names an object that the rules exclude from the check that made it. -/
def hides (rules : Exclusions) (s : Snapshot) (f : Finding) : Bool :=
  (named s f).any fun object =>
    (rules.excludes f.checkName (some s) object).toOption == some true

/-- What is hidden is decided by the key of a finding. -/
theorem hides_eq_of_key (h : f.key = g.key) : rules.hides s f = rules.hides s g := by
  obtain ⟨hname, hobjects⟩ := Prod.mk.inj h
  simp only [hides, named, hname, hobjects]

/-- What the rules say about a finding of their check is decided by its key. -/
theorem silences_eq_of_key (h : f.key = g.key) :
    rules.silences s f.checkName f = rules.silences s g.checkName g := by
  obtain ⟨hname, hobjects⟩ := Prod.mk.inj h
  simp only [silences, hname, hobjects]

/-- The answer of the rules about a finding of their check is whether they hide it. -/
theorem hides_of_silences {b : Bool} (h : rules.silences s f.checkName f = .ok b) :
    rules.hides s f = b := by
  have hexcluded : b = true ↔ ∃ object ∈ named s f,
      (rules.excludes f.checkName (some s) object).toOption = some true :=
    Traversal.anyM_eq_ok_iff h fun object _ c hc => by simp [hc, Except.toOption]
  rw [Bool.eq_iff_iff, hexcluded, hides, List.any_eq_true]
  simp only [beq_iff_eq]

/-- Rules that have an answer about a finding hide it or not, whatever their order and
repetition. -/
theorem hides_eq_of_mem_iff {b c : Bool} (hsame : ∀ rule, rule ∈ rules ↔ rule ∈ rules')
    (h : rules.silences s f.checkName f = .ok b) (h' : rules'.silences s f.checkName f = .ok c) :
    rules.hides s f = rules'.hides s f := by
  rw [hides_of_silences h, hides_of_silences h', Bool.eq_iff_iff, silences_eq_ok h,
    silences_eq_ok h']
  simp only [Describe, hsame]

/-- More rules exclude what either part of them excludes; the later part is asked only about what
the earlier one does not exclude. -/
theorem excludes_append :
    Exclusions.excludes (rules ++ rules') check snapshot? object = (do
      if ← rules.excludes check snapshot? object then return true
      else rules'.excludes check snapshot? object) := by
  rw [excludes, rulesFor, List.filter_append, Traversal.anyM_append]
  rfl

/-- More rules silence what either part of them silences. -/
theorem silences_append {b c : Bool} (h : rules.silences s check f = .ok b)
    (h' : rules'.silences s check f = .ok c) :
    Exclusions.silences (rules ++ rules') s check f = .ok (b || c) := by
  have hexcludes : Exclusions.excludes (rules ++ rules') check (some s) = fun object => (do
      if ← rules.excludes check (some s) object then return true
      else rules'.excludes check (some s) object) :=
    funext fun _ => excludes_append
  rw [silences, hexcludes]
  exact Traversal.anyM_either h h'

/-- More rules hide what either part of them hides. -/
theorem silences_append_eq {b c : Bool} (h : rules.silences s f.checkName f = .ok b)
    (h' : rules'.silences s f.checkName f = .ok c) :
    Exclusions.silences (rules ++ rules') s f.checkName f =
      .ok (rules.hides s f || rules'.hides s f) := by
  rw [hides_of_silences h, hides_of_silences h']
  exact silences_append h h'

/-- An object that a finding names, and the table that owns it, belong to the snapshot. -/
theorem mem_objects_of_mem_subjects {subject : SchemaObject} (hobject : object ∈ named s f)
    (h : subject ∈ subjects (some s) object) : subject ∈ s.objects := by
  rcases List.mem_cons.1 h with rfl | howner
  · obtain ⟨identifier, -, hfound⟩ := List.mem_filterMap.1 hobject
    exact List.mem_of_find?_eq_some hfound
  · simp only [Option.bind_some, Option.mem_toList, owningTable?,
      Option.map_eq_some_iff, Option.bind_eq_some_iff] at howner
    obtain ⟨table, ⟨owner, -, htable⟩, rfl⟩ := howner
    exact Snapshot.table_mem_objects.2 (List.mem_of_find?_eq_some htable)

/-- Rules and names that are texts always have an answer. -/
theorem exists_silences (hnames : s.ObjectNamesAreTexts) (hpatterns : rules.PatternsAreTexts)
    (check : String) (f : Finding) : ∃ b, rules.silences s check f = .ok b := by
  refine Traversal.exists_anyM fun object hobject => ?_
  refine Traversal.exists_anyM fun rule hrule => ?_
  refine Traversal.exists_anyM fun subject hsubject => ?_
  obtain ⟨pattern, hpattern⟩ := hpatterns rule (List.mem_filter.1 hrule).1
  obtain ⟨name, hname⟩ := hnames subject (mem_objects_of_mem_subjects hobject hsubject)
  exact rule.exists_describes hpattern hname

/-- A filter goes through exactly if the rules have an answer about each finding, and then it
leaves those that are not hidden. -/
theorem filterFindings_eq_ok {found kept : List Finding}
    (hnames : ∀ f ∈ found, f.checkName = check) : rules.filterFindings s check found = .ok kept ↔
      (∀ f ∈ found, ∃ b, rules.silences s f.checkName f = .ok b) ∧
        kept = found.filter fun f => !rules.hides s f := by
  induction found generalizing kept with
  | nil => simp [filterFindings, eq_comm]
  | cons f rest ih =>
    obtain ⟨rfl, hrest⟩ := List.forall_mem_cons.1 hnames
    rw [filterFindings, Traversal.bind_eq_ok, List.forall_mem_cons]
    constructor
    · rintro ⟨b, hb, h⟩
      obtain ⟨others, hothers, h⟩ := Traversal.bind_eq_ok.1 h
      obtain ⟨hanswers, rfl⟩ := (ih hrest).1 hothers
      cases Traversal.pure_eq_ok.1 h
      refine ⟨⟨⟨b, hb⟩, hanswers⟩, ?_⟩
      rw [List.filter_cons, hides_of_silences hb]
      cases b <;> rfl
    · rintro ⟨⟨⟨b, hb⟩, hanswers⟩, rfl⟩
      refine ⟨b, hb, Traversal.bind_eq_ok.2 ⟨_, (ih hrest).2 ⟨hanswers, rfl⟩, ?_⟩⟩
      rw [List.filter_cons, hides_of_silences hb]
      cases b <;> rfl

end Exclusions

end CatalogHealth
