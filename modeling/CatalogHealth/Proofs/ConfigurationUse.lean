import CatalogHealth.CommandLine.Execution
import CatalogHealth.Proofs.ConfigurationFaults

/-!
# What becomes of a configuration that is refused

A configuration that was read is checked before it is used: its names, then the scopes of its
exclusions, then its thresholds. A command reports a fault of the file or of this check in one line
if the fault is about an unacceptable value, and ends before anything is evaluated. The two kinds of
fault that are no such complaint go past the report; which contents of a file give rise to them is
told here exactly. Files that are missing or cannot be read as a value are outside the scope.
-/

namespace CatalogHealth

/-! ## Checking a configuration to what it fails on -/

namespace Objection

open CatalogHealth.Configuration

theorem first_toNames (known : List String) (items : List Value)
    (rest : List (Option FaultClass)) : first (toNames known items :: rest) =
      first (items.findSome? toText :: items.findSome? (toKnown known) :: rest) := by
  rw [first_cons, toNames, first_cons, first_singleton, first_cons, first_cons, Option.or_assoc]

/-- Names are refused if there is a stranger among them. -/
theorem ofUsing_unknownNames {α : Type} {f : List Text → Fault} {x : Except Fault α}
    {rest : List (Option FaultClass)} (hf : ∀ names, (f names).kind = .config)
    (hx : ofUsing x = first rest) (known : List String) (items : List Value) :
    ofUsing (do
      let unknown ← Value.sortedNames (strangers known items)
      if !unknown.isEmpty then throw (f unknown)
      x) = first (toNames known items :: rest) := by
  rw [first_toNames, first_names]
  generalize strangers known items = strangers
  unfold Value.sortedNames
  cases strangers with
  | nil => exact hx
  | cons stranger others =>
    cases htexts : (stranger :: others).all fun item => item.text?.isSome with
    | false => rfl
    | true =>
      obtain ⟨name, hname⟩ := Option.isSome_iff_exists.1
        (List.all_eq_true.1 htexts stranger List.mem_cons_self)
      have hmem : name ∈ sortedTexts ((stranger :: others).filterMap Value.text?) :=
        mem_sortedTexts.2 (List.mem_filterMap.2 ⟨stranger, List.mem_cons_self, hname⟩)
      have hsome : ¬(sortedTexts ((stranger :: others).filterMap Value.text?)).isEmpty = true := by
        rw [List.isEmpty_iff]
        exact List.ne_nil_of_mem hmem
      simp only [if_true, bind, Except.bind]
      rw [Bool.eq_false_iff.2 hsome]
      exact congrArg some (hf _)

theorem ofUsing_checkNumber (name : String) (value : Value) :
    ofUsing (Thresholds.checkNumber name value) = toThreshold value := by
  cases value with
  | int value =>
    simp only [Thresholds.checkNumber, toThreshold, Value.shown, complaint]
    split
    · split <;> rfl
    · rfl
  | float x =>
    simp only [Thresholds.checkNumber, toThreshold]
    split <;> rfl
  | null | bool _ | text _ | list _ | map _ => exact ofUsing_complaint (fun _ => rfl) _

theorem ofUsing_checkRatio (name : String) (ratio : Value) :
    ofUsing (Thresholds.checkRatio name ratio) = toRatio ratio := by
  unfold Thresholds.checkRatio toRatio
  cases hnumber : ratio.number? with
  | none => cases ratio <;> cases hnumber <;> rfl
  | some number =>
    rw [Value.compare_numbers hnumber rfl]
    change ofUsing (if (Number.int 1).lt number then _ else _) = _
    simp only
    split <;> rfl

theorem ofUsing_validateThresholds (thresholds : Thresholds) :
    ofUsing thresholds.validate = toThresholds thresholds := by
  refine failure_bind_first (ofUsing_checkNumber _ _) fun _ => ?_
  refine failure_bind_first (ofUsing_checkNumber _ _) fun _ => ?_
  refine failure_bind_first (ofUsing_checkNumber _ _) fun _ => ?_
  refine failure_bind_first (ofUsing_checkNumber _ _) fun _ => ?_
  refine failure_bind_first (ofUsing_checkNumber _ _) fun _ => ?_
  refine failure_bind_first (ofUsing_checkRatio _ _) fun _ => ?_
  rw [first_singleton]
  exact ofUsing_checkRatio _ _

/-- A configuration is checked to the first objection to it. -/
theorem ofUsing_validate (known : List String) (configuration : Configuration) :
    ofUsing (configuration.validate known) = toUse known configuration := by
  refine ofUsing_unknownNames (fun _ => rfl) ?_ known _
  rw [first_toNames]
  cases hscopes : Value.distinct configuration.exclusions.scopes with
  | error fault =>
    have hset : configuration.exclusions.scopes.findSome? toMember = some fault.kind := by
      rw [← ofUsing_distinct, hscopes]
      rfl
    rw [findSome?_toText hset]
    rfl
  | ok scopes =>
    rw [← first_names_of_distinct hscopes, ← first_toNames]
    refine ofUsing_unknownNames (fun _ => rfl) ?_ known scopes
    rw [first_singleton]
    exact ofUsing_validateThresholds configuration.thresholds

/-- A check named by a number has no place among unknown names. -/
example : toUse Registry.builtin.names { exclude := [.int 5] } = some .type := by
  decide +kernel

end Objection

/-! ## What a command does about it -/

namespace CommandLine

/-- How a command line ends over a fault of some class in its configuration: with one line and an
exit code if the class is one of the two for unacceptable values, and with the fault itself
otherwise. Nothing else is printed, written or asked of a database. -/
def EndsOver (words : List String) (surroundings : Surroundings) (kind : FaultClass) : Prop :=
  ∃ fault : Fault, fault.kind = kind ∧ run words surroundings =
    if kind = .value ∨ kind = .config then
      (.code 1, { err := "Error: " ++ fault.message ++ "\n", tree := surroundings.tree })
    else (.fault fault, { tree := surroundings.tree })

section Commands

variable {words : List String} {surroundings : Surroundings} {request : CheckRequest}
  {tree : FileTree} {fault : Fault}

/-- A command line whose configuration fails ends before anything else is done. -/
theorem run_of_configuration_error (hwords : Invocation.ofWords words = .check request)
    (hfault : request.configuration surroundings.tree = .error fault) :
    run words surroundings =
      if Command.isReported fault then
        (.code 1, { err := "Error: " ++ fault.message ++ "\n", tree := surroundings.tree })
      else (.fault fault, { tree := surroundings.tree }) := by
  unfold run
  rw [hwords]
  simp only [Invocation.perform, CheckRequest.perform, hfault, Command.accept]
  cases Command.isReported fault with
  | true => rfl
  | false => rfl

theorem endsOver_of_configuration_error (hwords : Invocation.ofWords words = .check request)
    (hfault : request.configuration surroundings.tree = .error fault)
    (hkind : fault.kind ∈ Objection.configurationKinds) :
    EndsOver words surroundings fault.kind := by
  have hreported : Command.isReported fault = true ↔
      fault.kind = .value ∨ fault.kind = .config := by
    unfold Command.isReported
    generalize fault.kind = kind at hkind ⊢
    simp only [Objection.configurationKinds, List.mem_cons, List.not_mem_nil, or_false] at hkind
    rcases hkind with rfl | rfl | rfl | rfl <;> decide
  refine ⟨fault, rfl, (run_of_configuration_error hwords hfault).trans ?_⟩
  exact if_congr hreported rfl rfl

/-- The fault of a file is the fault of the configuration. -/
theorem configuration_of_load_error
    (h : loadConfiguration tree request.config true = .error fault) :
    request.configuration tree = .error fault := by
  unfold CheckRequest.configuration
  rw [h]
  rfl

/-- What was read is checked together with what is laid over it. -/
theorem configuration_of_validate_error {loaded : Configuration} {overrides : Overrides}
    (hloaded : loadConfiguration tree request.config true = .ok loaded)
    (hoverrides : request.overrides = .ok overrides)
    (h : (loaded.withOverrides overrides).validate Registry.builtin.names = .error fault) :
    request.configuration tree = .error fault := by
  unfold CheckRequest.configuration
  rw [hloaded, hoverrides]
  change (discard ((loaded.withOverrides overrides).validate Registry.builtin.names) >>= fun _ =>
    pure (loaded.withOverrides overrides)) = _
  rw [h]
  rfl

end Commands

end CommandLine

/-! ## Refused configurations -/

/-- A step succeeds or is refused with a fault of one of some classes. -/
def SucceedsOrRefuses {α : Type} (kinds : List FaultClass) (x : Except Fault α) : Prop :=
  (∃ a, x = .ok a) ∨ ∃ fault, x = .error fault ∧ fault.kind ∈ kinds

theorem succeedsOrRefuses_iff {α : Type} {kinds : List FaultClass} {x : Except Fault α} :
    SucceedsOrRefuses kinds x ↔ Objection.IsAmong kinds (Objection.ofUsing x) := by
  cases x with
  | ok a => simp [SucceedsOrRefuses, Objection.IsAmong, Traversal.failure]
  | error fault => simp [SucceedsOrRefuses, Objection.IsAmong, Traversal.failure]

namespace Configuration

open CommandLine

/-- The content of a file is read as a configuration or refused as unacceptable exactly if what is
objected to first is so, and at worst refused for a value of the wrong kind or for a selection that
is no mapping. The same holds of the check of a configuration, where at worst a name is no text or a
threshold cannot be written. A command with that configuration file ends over the first objection to
its content, or else to what was read and laid over it. -/
theorem refusals (path : String) (content : Value) :
    (SucceedsOrRefuses [.value, .config] (ofFileContent path content) ↔
        Objection.IsAmong [.value, .config] (Objection.toConfiguration content)) ∧
      SucceedsOrRefuses [.value, .config, .type, .operation] (ofFileContent path content) ∧
      (∀ configuration known,
        (SucceedsOrRefuses [.config] (validate configuration known) ↔
          Objection.IsAmong [.config] (Objection.toUse known configuration)) ∧
        SucceedsOrRefuses [.value, .config, .type] (validate configuration known)) ∧
      ∀ words surroundings request, Invocation.ofWords words = .check request →
        loadConfiguration surroundings.tree request.config true = ofFileContent path content →
        (∀ kind ∈ Objection.toConfiguration content, EndsOver words surroundings kind) ∧
          ∀ configuration overrides, ofFileContent path content = .ok configuration →
            request.overrides = .ok overrides →
            ∀ kind ∈
              Objection.toUse Registry.builtin.names (configuration.withOverrides overrides),
              EndsOver words surroundings kind := by
  have hread : Objection.ofUsing (ofFileContent path content) = Objection.toConfiguration content :=
    Objection.ofUsing_ofFileContent path content
  refine ⟨?_, ?_, fun configuration known => ⟨?_, ?_⟩, ?_⟩
  · rw [succeedsOrRefuses_iff, hread]
  · rw [succeedsOrRefuses_iff, hread]
    exact Objection.isAmong_toConfiguration content
  · rw [succeedsOrRefuses_iff, Objection.ofUsing_validate]
  · rw [succeedsOrRefuses_iff, Objection.ofUsing_validate]
    exact Objection.isAmong_toUse known configuration
  · intro words surroundings request hwords hload
    constructor
    · intro kind hkind
      obtain ⟨fault, hfault, rfl⟩ := Traversal.failure_eq_some_iff.1 (hread.trans hkind)
      exact endsOver_of_configuration_error hwords
        (configuration_of_load_error (hload.trans hfault))
        (Objection.isAmong_toConfiguration content _ hkind)
    · intro configuration overrides hconfiguration hoverrides kind hkind
      obtain ⟨fault, hfault, rfl⟩ := Traversal.failure_eq_some_iff.1
        ((Objection.ofUsing_validate _ _).trans hkind)
      have hsubset : [.value, .config, .type] ⊆ Objection.configurationKinds := by decide
      exact endsOver_of_configuration_error hwords
        (configuration_of_validate_error (hload.trans hconfiguration) hoverrides hfault)
        (hsubset (Objection.isAmong_toUse _ _ _ hkind))

/-- A file in which the selected checks are a number. -/
def numberedChecks : Value := .map [(.text "checks", .int 5)]

/-- A command goes past the report over a selection that is no mapping. -/
theorem refusals_numberedChecks :
    EndsOver ["--snapshot", "day.json", "--config", "checks.yaml"]
      { tree := { files := [(["", "checks.yaml"], .document numberedChecks)] } } .operation := by
  obtain ⟨-, -, -, hcommand⟩ := refusals "checks.yaml" numberedChecks
  exact (hcommand _ _ _ rfl rfl).1 .operation (by decide)

/-- The content is neither read nor refused as unacceptable: a number lacks an operation. -/
theorem numberedChecks_neither :
    (∃ fault, ofFileContent "checks.yaml" numberedChecks = .error fault ∧
      fault.kind = .operation) ∧
      ¬SucceedsOrRefuses [.value, .config] (ofFileContent "checks.yaml" numberedChecks) := by
  have hobjection : Objection.ofUsing (ofFileContent "checks.yaml" numberedChecks) =
      some .operation := by
    rw [Objection.ofUsing_ofFileContent]
    decide
  refine ⟨Traversal.failure_eq_some_iff.1 hobjection, fun h => ?_⟩
  exact absurd (succeedsOrRefuses_iff.1 h .operation hobjection) (by decide)

end Configuration

end CatalogHealth
