import Mathlib.Data.List.Induction
import Mathlib.Data.String.Basic
import CatalogHealth.Proofs.Recording

/-!
# What a registry remembers of the calls on it

A registry is made by calls, one after the other. A check is registered by the first call that
offers one of its name, and a call that is refused changes nothing. What was disabled before it was
registered stays enabled, and after that the last call about a name decides. Checks that ask for a
place are listed in front, in a strict order that no history can change, and the others follow as
they were registered. What the checks do when they run is outside the scope of this module.
-/

namespace CatalogHealth

/-- A call on a registry. -/
inductive RegistryCall where
  /-- Something is offered as a check. -/
  | register (candidate : Candidate)
  /-- A check is switched off. -/
  | disable (name : String)
  /-- A check is switched on. -/
  | enable (name : String)

/-- The check that a call offers, if it offers one. -/
def RegistryCall.offered? : RegistryCall → Option Check
  | register candidate => candidate.check?
  | disable _ => none
  | enable _ => none

/-! ## The order of names and places -/

/-- The order of code points is that of strings. -/
theorem textLe_ofString_iff {s t : String} :
    textLe (.ofString s) (.ofString t) = true ↔ s ≤ t := by
  have hlists : ∀ cs ds : List Char,
      dictionaryLe pointLe ((cs.map CodePoint.char).map CodePoint.value)
        ((ds.map CodePoint.char).map CodePoint.value) = true ↔ ¬ds < cs := by
    intro cs
    induction cs with
    | nil => simp [dictionaryLe]
    | cons c cs ih =>
      intro ds
      cases ds with
      | nil => simp [dictionaryLe]
      | cons d ds =>
        have hpoints : c.toNat = d.toNat ↔ c = d := Char.toNat_inj
        have horder : pointLe c.toNat d.toNat = true ↔ ¬d < c := by
          rw [pointLe, decide_eq_true_iff, Nat.not_lt.symm, Char.lt_def, UInt32.lt_iff_toNat_lt]
          rfl
        rw [List.cons_lt_cons_iff]
        by_cases h : c = d
        · subst h
          simpa [dictionaryLe] using ih ds
        · simpa [dictionaryLe, CodePoint.value, hpoints, h, Ne.symm h] using horder
  rw [← not_lt, String.lt_iff_toList_lt]
  exact hlists s.toList t.toList

/-- Both checks ask for a place, and the place of the first is before that of the second or, if it
is the same one, its name is. -/
def Check.Precedes (a b : Check) : Prop :=
  ∃ place place', a.priority = some place ∧ b.priority = some place' ∧
    (place < place' ∨ place = place' ∧ a.name < b.name)

/-- No check precedes one that precedes it. -/
theorem Check.Precedes.not_precedes {a b : Check} (h : a.Precedes b) : ¬b.Precedes a := by
  intro hback
  obtain ⟨place, place', ha, hb, hlt⟩ := h
  obtain ⟨_, _, hb', ha', hlt'⟩ := hback
  cases ha.symm.trans ha'
  cases hb.symm.trans hb'
  cases hlt with
  | inl hlt => omega
  | inr hsame =>
    cases hlt' with
    | inl hlt' => omega
    | inr hsame' => exact lt_asymm hsame.2 hsame'.2

namespace Registry

variable {registry : Registry} {calls : List RegistryCall} {call : RegistryCall} {name : String}
  {checks : List Check} {check : Check}

theorem placeLe_iff {a b : Int × Check} : placeLe a b = true ↔
    a.1 < b.1 ∨ a.1 = b.1 ∧ a.2.name ≤ b.2.name := by
  rw [placeLe, byPart_iff, textLe_ofString_iff, decide_eq_true_iff, and_comm, lt_iff_le_and_ne]

/-- Checks of distinct names that ask for a place are put into strict order. -/
theorem placed_pairwise (h : (checks.map fun check => check.name).Nodup) :
    (placed checks).Pairwise Check.Precedes := by
  have htrans : ∀ a b c, placeLe a b = true → placeLe b c = true → placeLe a c = true :=
    byPart_trans (fun x y z hxy hyz => by simp only [decide_eq_true_iff] at *; omega)
      (fun x y hxy hyx => by simp only [decide_eq_true_iff] at *; omega)
      fun a b c => textLe_trans a.2.name b.2.name c.2.name
  have htotal : ∀ a b, placeLe a b = true ∨ placeLe b a = true :=
    byPart_total (fun x y => by simp only [decide_eq_true_iff]; omega)
      fun a b => textLe_total a.2.name b.2.name
  have hsorted := sortBy_pairwise htrans htotal
    (checks.filterMap fun check => check.priority.map (·, check))
  have hnames : ((placed checks).map fun check => check.name).Nodup :=
    ((placed_perm checks).map _).nodup_iff.2 (h.sublist (List.filter_sublist.map _))
  rw [placed, List.map_map] at hnames
  rw [placed, List.pairwise_map]
  refine (hsorted.and (List.pairwise_map.1 hnames)).imp_of_mem ?_
  intro a b ha hb hab
  have hplace : ∀ c : Int × Check, c ∈ sortBy placeLe
      (checks.filterMap fun check => check.priority.map (·, check)) → c.2.priority = some c.1 := by
    intro c hc
    obtain ⟨check, -, hcheck⟩ := List.mem_filterMap.1 (mem_sortBy.1 hc)
    obtain ⟨place, hplace, heq⟩ := Option.map_eq_some_iff.1 hcheck
    rw [← heq]
    exact hplace
  refine ⟨a.1, b.1, hplace a ha, hplace b hb, ?_⟩
  cases placeLe_iff.1 hab.1 with
  | inl hlt => exact .inl hlt
  | inr hle => exact .inr ⟨hle.1, lt_of_le_of_ne hle.2 hab.2⟩

/-! ## What is listed -/

/-- The checks that are switched on, of some categories or, if none is given, of all, in the order
of their registration. -/
def requested (registry : Registry) (categories : List Text) : List Check :=
  registry.checks.filter fun check =>
    registry.isEnabled check.name && (categories.isEmpty || categories.contains check.category)

/-- A registered check is switched on if its name is not among those switched off. -/
theorem isEnabled_eq (h : check ∈ registry.checks) :
    registry.isEnabled check.name = !registry.disabled.contains check.name := by
  have hname : registry.names.contains check.name = true :=
    List.contains_iff_mem.2 (List.mem_map_of_mem h)
  rw [isEnabled, hname, Bool.true_and]

theorem requested_eq (registry : Registry) (categories : List Text) :
    registry.requested categories = registry.checks.filter fun check =>
      !registry.disabled.contains check.name &&
        (categories.isEmpty || categories.contains check.category) :=
  List.filter_congr fun check hcheck => by rw [isEnabled_eq hcheck]

theorem enabledChecks_eq (registry : Registry) (categories : List Text) :
    registry.enabledChecks categories =
      placed (registry.requested categories) ++ unplaced (registry.requested categories) := by
  rw [requested_eq]
  rfl

/-- In front are the checks that ask for a place. -/
theorem filter_enabledChecks (registry : Registry) (categories : List Text) :
    (registry.enabledChecks categories).filter (fun check => check.priority.isSome) =
      placed (registry.requested categories) := by
  have hplaced : ∀ check ∈ placed (registry.requested categories),
      check.priority.isSome = true := fun check hcheck =>
    (List.mem_filter.1 ((placed_perm _).mem_iff.1 hcheck)).2
  have hunplaced : ∀ check ∈ unplaced (registry.requested categories),
      ¬check.priority.isSome = true := fun check hcheck => by
    have hnone := (List.mem_filter.1 hcheck).2
    rw [Option.isNone_iff_eq_none.1 hnone]
    exact Bool.false_ne_true
  rw [enabledChecks_eq, List.filter_append, List.filter_eq_self.2 hplaced,
    List.filter_eq_nil_iff.2 hunplaced, List.append_nil]

/-- The requested checks are the same in other registries with the same checks, up to their
order. -/
theorem requested_perm {other : Registry} (hchecks : other.checks.Perm registry.checks)
    (hdisabled : ∀ name, name ∈ other.disabled ↔ name ∈ registry.disabled)
    (categories : List Text) :
    (other.requested categories).Perm (registry.requested categories) := by
  have hsame : ∀ name, other.isEnabled name = registry.isEnabled name := by
    intro name
    have hnames : name ∈ other.names ↔ name ∈ registry.names := (hchecks.map _).mem_iff
    rw [isEnabled, isEnabled, Bool.eq_iff_iff]
    simp only [Bool.and_eq_true, Bool.not_eq_true', ← Bool.not_eq_true, List.contains_iff_mem,
      hnames, hdisabled]
  unfold requested
  simp only [hsame]
  exact hchecks.filter _

/-- What a registry lists when it is asked for the checks of some categories. -/
structure Lists (registry : Registry) (categories : List Text) (listed : List Check) : Prop where
  /-- The checks that are switched on and of the categories, each of them once. -/
  perm : listed.Perm (registry.requested categories)
  /-- Those that ask for a place come first, and the others follow as they were registered. -/
  split : listed = (listed.filter fun check => check.priority.isSome) ++
    (registry.requested categories).filter fun check => check.priority.isNone
  /-- Those that ask for a place are in strict order. -/
  ascending : (listed.filter fun check => check.priority.isSome).Pairwise Check.Precedes
  /-- Their order is the same in each registry with the same checks switched on, in whatever order
  they were registered. -/
  settled : ∀ other : Registry, other.checks.Perm registry.checks →
    (∀ name, name ∈ other.disabled ↔ name ∈ registry.disabled) →
      (other.enabledChecks categories).filter (fun check => check.priority.isSome) =
        listed.filter fun check => check.priority.isSome

theorem requested_names_nodup (registry : Registry) (categories : List Text) :
    ((registry.requested categories).map fun check => check.name).Nodup :=
  registry.names_nodup.sublist (List.filter_sublist.map _)

theorem lists_enabledChecks (registry : Registry) (categories : List Text) :
    registry.Lists categories (registry.enabledChecks categories) where
  perm := by
    rw [requested_eq]
    exact registry.enabledChecks_perm categories
  split := by
    rw [filter_enabledChecks, enabledChecks_eq]
    rfl
  ascending := by
    rw [filter_enabledChecks]
    exact placed_pairwise (registry.requested_names_nodup categories)
  settled other hchecks hdisabled := by
    have hperm := (requested_perm hchecks hdisabled categories).filter
      fun check => check.priority.isSome
    rw [filter_enabledChecks, filter_enabledChecks]
    refine List.Perm.eq_of_pairwise (fun a b _ _ hab hba => ?_)
      (placed_pairwise (other.requested_names_nodup categories))
      (placed_pairwise (registry.requested_names_nodup categories))
      ((placed_perm _).trans (hperm.trans (placed_perm _).symm))
    exact absurd hba hab.not_precedes

/-! ## Steps -/

/-- The registry after a call. A refused check leaves it as it was. -/
def called (registry : Registry) : RegistryCall → Registry
  | .register candidate =>
    match registry.register candidate with
    | .ok registered => registered
    | .error _ => registry
  | .disable name => registry.disable name
  | .enable name => registry.enable name

/-- The registry after calls on an empty one. -/
def after (calls : List RegistryCall) : Registry := calls.foldl called {}

theorem after_concat : after (calls ++ [call]) = (after calls).called call := by
  rw [after, List.foldl_append]
  rfl

/-- What comes of an offer: a check of a new name is put at the end, and all else is refused and
changes nothing. -/
structure Answers (registry : Registry) (candidate : Candidate) : Prop where
  /-- A check of a new name is registered behind the others, and what is switched off stays so. -/
  accepts : ∀ check, candidate.check? = some check → check.name ∉ registry.names →
    registry.register candidate = .ok (registry.called (.register candidate)) ∧
      (registry.called (.register candidate)).checks = registry.checks ++ [check] ∧
      (registry.called (.register candidate)).disabled = registry.disabled
  /-- A name that is taken is refused. -/
  refusesTaken : ∀ check, candidate.check? = some check → check.name ∈ registry.names →
    registry.register candidate = .error (.checkRegistered check.name) ∧
      registry.called (.register candidate) = registry
  /-- What is no check is refused. -/
  refusesOthers : candidate.check? = none →
    registry.register candidate = .error (.notACheck candidate.shown) ∧
      registry.called (.register candidate) = registry

theorem answers (registry : Registry) (candidate : Candidate) : registry.Answers candidate where
  accepts check hcheck hname := by
    have hregister : ∃ registered, registry.register candidate = .ok registered ∧
        registered.checks = registry.checks ++ [check] ∧
          registered.disabled = registry.disabled := by
      simp [register, hcheck, hname]
    obtain ⟨registered, hregistered, hchecks, hdisabled⟩ := hregister
    have hcalled : registry.called (.register candidate) = registered := by
      rw [called, hregistered]
    rw [hcalled]
    exact ⟨hregistered, hchecks, hdisabled⟩
  refusesTaken check hcheck hname := by
    have hregister : registry.register candidate = .error (.checkRegistered check.name) := by
      simp [register, hcheck, hname]
    refine ⟨hregister, ?_⟩
    rw [called, hregister]
  refusesOthers hcheck := by
    have hregister : registry.register candidate = .error (.notACheck candidate.shown) := by
      simp [register, hcheck]
    refine ⟨hregister, ?_⟩
    rw [called, hregister]

theorem checks_disable (registry : Registry) (name : String) :
    (registry.disable name).checks = registry.checks := by
  unfold disable
  split
  · rfl
  · rfl

/-- A name is switched off if it is registered. -/
theorem mem_disabled_disable {other : String} : name ∈ (registry.disable other).disabled ↔
    name = other ∧ name ∈ registry.names ∨ name ∈ registry.disabled := by
  unfold disable
  split
  · rename_i h
    have hregistered : name = other → name ∈ registry.names := fun heq => heq ▸ h.1
    rw [List.mem_cons, and_iff_left_of_imp hregistered]
  · rename_i h
    rw [not_and, Classical.not_not] at h
    have hoff : name = other ∧ name ∈ registry.names → name ∈ registry.disabled := by
      intro hname
      have hother : other ∈ registry.names := hname.1 ▸ hname.2
      exact hname.1 ▸ h hother
    rw [or_iff_right_of_imp hoff]

/-- After a call the names are those from before it and the one that it offers. -/
theorem mem_names_called : name ∈ (registry.called call).names ↔
    name ∈ registry.names ∨ call.offered?.map (fun check => check.name) = some name := by
  cases call with
  | register candidate =>
    have hanswers := registry.answers candidate
    cases hcheck : candidate.check? with
    | none =>
      rw [(hanswers.refusesOthers hcheck).2]
      simp [RegistryCall.offered?, hcheck]
    | some check =>
      by_cases hname : check.name ∈ registry.names
      · rw [(hanswers.refusesTaken check hcheck hname).2]
        have hsame : check.name = name → name ∈ registry.names := fun heq => heq ▸ hname
        simpa [RegistryCall.offered?, hcheck] using hsame
      · have hchecks := (hanswers.accepts check hcheck hname).2.1
        rw [names, hchecks]
        simp [RegistryCall.offered?, hcheck, names, eq_comm]
  | disable other => simp [called, names, checks_disable, RegistryCall.offered?]
  | enable other => simp [called, enable, names, RegistryCall.offered?]

/-- After a call those names are switched off that were so before it and are not switched on by it,
and the name that it switches off, if it is registered. -/
theorem mem_disabled_called : name ∈ (registry.called call).disabled ↔
    call = .disable name ∧ name ∈ registry.names ∨
      call ≠ .enable name ∧ name ∈ registry.disabled := by
  cases call with
  | register candidate =>
    have hsame : (registry.called (.register candidate)).disabled = registry.disabled := by
      have hanswers := registry.answers candidate
      cases hcheck : candidate.check? with
      | none => rw [(hanswers.refusesOthers hcheck).2]
      | some check =>
        by_cases hname : check.name ∈ registry.names
        · rw [(hanswers.refusesTaken check hcheck hname).2]
        · exact (hanswers.accepts check hcheck hname).2.2
    simp [hsame]
  | disable other =>
    rw [called, mem_disabled_disable]
    simp [eq_comm]
  | enable other =>
    have hkept : name ∈ (registry.enable other).disabled ↔
        name ∈ registry.disabled ∧ name ≠ other := by
      simp [enable]
    rw [called, hkept]
    simp [and_comm, eq_comm]

/-! ## Runs -/

/-- The names after some calls are those of the checks that the calls offer. -/
theorem mem_names_after : name ∈ (after calls).names ↔
    ∃ call ∈ calls, call.offered?.map (fun check => check.name) = some name := by
  induction calls using List.reverseRecOn with
  | nil => simp [after, names]
  | append_singleton calls call ih =>
    rw [after_concat, mem_names_called, ih]
    simp [or_and_right, exists_or]

/-- A call switches a name off that is registered by then, and no later one switches it on. -/
def StaysOff (calls : List RegistryCall) (name : String) : Prop :=
  ∃ front back, calls = front ++ .disable name :: back ∧ name ∈ (after front).names ∧
    .enable name ∉ back

/-- One more call leaves a name switched off unless it switches it on. -/
theorem staysOff_concat : StaysOff (calls ++ [call]) name ↔
    call = .disable name ∧ name ∈ (after calls).names ∨
      call ≠ .enable name ∧ StaysOff calls name := by
  constructor
  · intro h
    obtain ⟨front, back, hsplit, hname, hback⟩ := h
    cases List.eq_nil_or_concat back with
    | inl hnil =>
      rw [hnil] at hsplit
      obtain ⟨hfront, hcall⟩ := List.append_inj' hsplit rfl
      rw [hfront]
      exact .inl ⟨List.singleton_inj.1 hcall, hname⟩
    | inr hconcat =>
      obtain ⟨others, last, hconcat⟩ := hconcat
      rw [List.concat_eq_append] at hconcat
      rw [hconcat, ← List.cons_append, ← List.append_assoc] at hsplit
      obtain ⟨hcalls, hcall⟩ := List.append_inj' hsplit rfl
      rw [hconcat, List.mem_append, not_or, ← hcall, List.mem_singleton] at hback
      exact .inr ⟨Ne.symm hback.2, front, others, hcalls, hname, hback.1⟩
  · intro h
    cases h with
    | inl hlast =>
      rw [hlast.1]
      exact ⟨calls, [], rfl, hlast.2, List.not_mem_nil⟩
    | inr hearlier =>
      obtain ⟨hcall, front, back, hsplit, hname, hback⟩ := hearlier
      refine ⟨front, back ++ [call], by rw [hsplit]; simp, hname, ?_⟩
      rw [List.mem_append, not_or, List.mem_singleton]
      exact ⟨hback, Ne.symm hcall⟩

/-- The names switched off after some calls are those that a call switched off for good. -/
theorem mem_disabled_after : name ∈ (after calls).disabled ↔ StaysOff calls name := by
  induction calls using List.reverseRecOn with
  | nil =>
    have hnone : ¬StaysOff [] name := by
      intro h
      obtain ⟨front, back, hsplit, -⟩ := h
      simp at hsplit
    exact iff_of_false List.not_mem_nil hnone
  | append_singleton calls call ih =>
    rw [after_concat, mem_disabled_called, staysOff_concat, ih]

/-- A registry is what some calls on an empty one make of it. -/
structure Follows (registry : Registry) (calls : List RegistryCall) : Prop where
  /-- No two checks have the same name. -/
  names_nodup : registry.names.Nodup
  /-- Those names are registered that are offered. -/
  mem_names : ∀ name, name ∈ registry.names ↔
    ∃ call ∈ calls, call.offered?.map (fun check => check.name) = some name
  /-- Only what is registered is switched off. -/
  disabled_registered : ∀ name ∈ registry.disabled, name ∈ registry.names
  /-- One more offer registers a check of a new name, or it is refused and changes nothing. -/
  answers : ∀ candidate, registry.Answers candidate
  /-- A registered check is switched on if each call that switched it off after it was registered
  is followed by one that switched it on. -/
  isEnabled_iff : ∀ check ∈ registry.checks, registry.isEnabled check.name = true ↔
    ∀ front back, calls = front ++ .disable check.name :: back →
      check.name ∈ (after front).names → .enable check.name ∈ back
  /-- The checks that are switched on are listed in the order in which they run. -/
  lists : ∀ categories, registry.Lists categories (registry.enabledChecks categories)

theorem follows_after (calls : List RegistryCall) : (after calls).Follows calls where
  names_nodup := (after calls).names_nodup
  mem_names _ := mem_names_after
  disabled_registered := (after calls).disabled_registered
  answers := (after calls).answers
  isEnabled_iff check hcheck := by
    rw [isEnabled_eq hcheck, Bool.not_eq_true', ← Bool.not_eq_true, List.contains_iff_mem,
      mem_disabled_after, StaysOff]
    push Not
    rfl
  lists := (after calls).lists_enabledChecks

/-- A registry of candidates is what offering them one after the other makes. -/
theorem eq_of_registerAll {candidates : List Candidate} {made : Registry}
    (h : registry.registerAll candidates = .ok made) :
    made = (candidates.map .register).foldl called registry := by
  induction candidates generalizing registry with
  | nil => exact (Traversal.pure_eq_ok.1 h).symm
  | cons candidate rest ih =>
    rw [registerAll, List.foldlM_cons] at h
    obtain ⟨registered, hregistered, hrest⟩ := Traversal.bind_eq_ok.1 h
    have hcalled : registry.called (.register candidate) = registered := by
      rw [called, hregistered]
    rw [List.map_cons, List.foldl_cons, hcalled]
    exact ih hrest

/-- However a registry of some candidates is called, it keeps names distinct and only registered
ones switched off, offers that are refused change nothing, what is switched on is decided by the
last call about it since its registration, and the checks are listed in the order of places and
names and then of registration. -/
theorem follows_calls {candidates : List Candidate} {made : Registry}
    (h : registerAll {} candidates = .ok made) (calls : List RegistryCall) :
    (calls.foldl called made).Follows (candidates.map .register ++ calls) := by
  have hmade : calls.foldl called made = after (candidates.map .register ++ calls) := by
    rw [eq_of_registerAll h, after, List.foldl_append]
  rw [hmade]
  exact follows_after _

/-- Something offered as a check of a given name that asks for a place or for none. -/
def stub (name : String) (priority : Option Int) : Candidate where
  shown := name
  name := some name
  category := some "tables"
  description := some "a stub"
  priority := some priority
  run := some fun _ _ => .ok []

/-- Three checks, of which one asks for no place. -/
def stubs : List Candidate := [stub "z" none, stub "b" (some 2), stub "a" (some 2)]

/-- Calls that switch a check off too early, one on again and one off for good, and that offer a
name that is taken. -/
def stubCalls : List RegistryCall :=
  [.disable "c", .register (stub "c" (some 1)), .disable "a", .disable "z", .enable "a",
   .register (stub "z" (some 0))]

/-- After these calls the check that was switched off for good is not listed, and the one that was
registered last comes first by its place. -/
theorem follows_calls_stubs : ∃ made, registerAll {} stubs = .ok made ∧
    (stubCalls.foldl called made).Follows (stubs.map .register ++ stubCalls) ∧
    ((stubCalls.foldl called made).enabledChecks []).map (fun check => check.name) =
      ["c", "a", "b"] := by
  have hmade : ∃ made, registerAll {} stubs = .ok made ∧
      ((stubCalls.foldl called made).enabledChecks []).map (fun check => check.name) =
        ["c", "a", "b"] := ⟨_, rfl, rfl⟩
  obtain ⟨made, hmade, hlisted⟩ := hmade
  exact ⟨made, hmade, follows_calls hmade stubCalls, hlisted⟩

end Registry

end CatalogHealth
