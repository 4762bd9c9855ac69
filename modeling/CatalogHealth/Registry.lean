import CatalogHealth.Check.Builtin
import CatalogHealth.Sorting

/-!
# The registry of checks

A registry holds the checks of an evaluation in the order of their
registration, and the names of those that are switched off. Names are distinct.
Checks that ask for a place come first, ordered by place and name; the others
follow in the order of their registration.
-/

namespace CatalogHealth

/-- Something offered as a check. It is one if nothing is missing and its name
is not empty. -/
structure Candidate where
  /-- How messages show it. -/
  shown : String
  /-- The name, if there is one. -/
  name : Option String := none
  /-- The category, if there is one. -/
  category : Option String := none
  /-- The description, if there is one. -/
  description : Option String := none
  /-- The place it asks for, if it says whether it asks for one. -/
  priority : Option (Option Int) := none
  /-- What it does with a snapshot, if anything. -/
  run : Option (Snapshot → Thresholds → Except Fault (List Finding)) := none

/-- The check that a candidate is. -/
def Candidate.check? (candidate : Candidate) : Option Check :=
  match candidate with
  | { name := some name, category := some category, description := some description,
      priority := some priority, run := some run, .. } =>
    if name = "" then none else some { name, category, description, priority, run }
  | _ => none

/-- A check offered as it is. -/
def Candidate.ofCheck (check : Check) : Candidate where
  shown := check.name
  name := check.name
  category := check.category
  description := check.description
  priority := check.priority
  run := check.run

/-- The checks of an evaluation. -/
structure Registry where
  /-- The checks in the order of their registration. -/
  checks : List Check := []
  /-- The names of the checks that are switched off. -/
  disabled : List String := []
  /-- Names are distinct. -/
  names_nodup : (checks.map fun check => check.name).Nodup := by decide
  /-- Only registered checks are switched off. -/
  disabled_registered : ∀ name ∈ disabled, name ∈ checks.map fun check => check.name := by decide

namespace Registry

/-- The names of all checks. -/
def names (registry : Registry) : List String := registry.checks.map fun check => check.name

/-- The check of a given name. -/
def get? (registry : Registry) (name : String) : Option Check :=
  registry.checks.find? fun check => check.name = name

/-- The registry with one more check at the end; a candidate that is no check
and a name that is taken are refused. -/
def register (registry : Registry) (candidate : Candidate) : Except Fault Registry :=
  match candidate.check? with
  | none => .error (.notACheck candidate.shown)
  | some check =>
    if h : check.name ∈ registry.names then .error (.checkRegistered check.name)
    else
      .ok
        { checks := registry.checks ++ [check]
          disabled := registry.disabled
          names_nodup := by
            rw [List.map_append, List.map_singleton, List.nodup_append]
            refine ⟨registry.names_nodup, by simp, ?_⟩
            rintro a ha b hb rfl
            exact h (List.mem_singleton.1 hb ▸ ha)
          disabled_registered := fun name hname => by
            rw [List.map_append]
            exact List.mem_append_left _ (registry.disabled_registered name hname) }

/-- The registry with a check switched off; a name that is not registered
changes nothing. -/
def disable (registry : Registry) (name : String) : Registry :=
  if h : name ∈ registry.names ∧ name ∉ registry.disabled then
    { registry with
      disabled := name :: registry.disabled
      disabled_registered := fun other hother => by
        rcases List.mem_cons.1 hother with rfl | hother
        · exact h.1
        · exact registry.disabled_registered other hother }
  else registry

/-- The registry with a check switched on. -/
def enable (registry : Registry) (name : String) : Registry :=
  { registry with
    disabled := registry.disabled.filter (· ≠ name)
    disabled_registered := fun other hother =>
      registry.disabled_registered other (List.mem_filter.1 hother).1 }

/-- Whether a check is registered and not switched off. -/
def isEnabled (registry : Registry) (name : String) : Bool :=
  registry.names.contains name && !registry.disabled.contains name

/-- The categories of all checks, sorted. -/
def categories (registry : Registry) : List Text :=
  sortedTexts (registry.checks.map fun check => Text.ofString check.category)

/-- The order of checks that ask for a place. -/
def placeLe (a b : Int × Check) : Bool :=
  byPart Prod.fst (fun x y => decide (x ≤ y)) (fun x y => textLe x.2.name y.2.name) a b

/-- The checks that ask for a place, in the order of places and names. -/
def placed (checks : List Check) : List Check :=
  (sortBy placeLe (checks.filterMap fun check => check.priority.map (·, check))).map (·.2)

/-- The checks that ask for no place. -/
def unplaced (checks : List Check) : List Check :=
  checks.filter fun check => check.priority.isNone

/-- The checks that are switched on, of some categories or, if none is given,
of all, in the order in which they run. -/
def enabledChecks (registry : Registry) (categories : List Text) : List Check :=
  let enabled := registry.checks.filter fun check =>
    !registry.disabled.contains check.name &&
      (categories.isEmpty || categories.contains check.category)
  placed enabled ++ unplaced enabled

/-- The registry of the built-in checks. -/
def builtin : Registry where
  checks := builtinChecks
  names_nodup := builtinChecks_names_nodup
  disabled_registered := by simp

/-- The registry of the built-in checks without those that a selection leaves
out and those that are excluded. -/
def selection (exclude : List Text) (includeOnly : Option (List Text)) : Registry :=
  let selected :=
    match includeOnly with
    | none => builtin
    | some kept =>
      let others := builtin.names.filter fun (name : String) => !kept.contains name
      others.foldl disable builtin
  (exclude.filterMap Text.string?).foldl disable selected

/-- A registry of candidates, registered in order. -/
def registerAll (registry : Registry) (candidates : List Candidate) : Except Fault Registry :=
  candidates.foldlM register registry

end Registry

end CatalogHealth
