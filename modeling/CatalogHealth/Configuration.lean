import CatalogHealth.Exclusion
import CatalogHealth.Migration.Options
import CatalogHealth.Registry
import CatalogHealth.Sorting
import CatalogHealth.Threshold
import CatalogHealth.Value.Reading

/-!
# Configuration

A configuration selects checks, sets thresholds, lists exclusions and says how
statements are generated. It is read from a document with a section for each of
these, and what is asked for on the spot is laid over it. Checking it refuses
names of checks that nobody knows and thresholds out of their range; a section
that does not have the shape of a mapping is refused while it is read. Sections
without a meaning here are left alone.
-/

namespace CatalogHealth

namespace Value

/-- Names in order; what is no text has no place among them. -/
def sortedNames (items : List Value) : Except Fault (List Text) :=
  if items.all fun item => item.text?.isSome then .ok (sortedTexts (items.filterMap text?))
  else .error .wrongKind

end Value

/-- What an evaluation is to do, as a document says it. The selected checks
are values, because a document may list anything as the name of a check. -/
structure Configuration where
  /-- The checks that are left out. -/
  exclude : List Value := []
  /-- The only checks that are run, if the selection is that narrow. -/
  includeOnly : Option (List Value) := none
  /-- The thresholds, not yet checked. -/
  thresholds : Thresholds := {}
  /-- The rules of exclusion. -/
  exclusions : Exclusions := []
  /-- How statements are generated. -/
  generating : GeneratingOptions := .standard

/-- What is asked for on the spot. -/
structure Overrides where
  /-- More checks that are left out. -/
  exclude : List Text := []
  /-- The only checks that are run, in place of those of the configuration. -/
  includeOnly : Option (List Text) := none
  /-- More rules of exclusion. -/
  exclusions : Exclusions := []
  /-- Whether indexes for foreign keys are generated in any case. -/
  indexForeignKeys : Bool := false
  /-- Whether statements lock in any case. -/
  noConcurrently : Bool := false

namespace Configuration

/-- The checks that a section selects: those left out, and the only ones that
are run. -/
def selectionOf (part : Value) : Except Fault (List Value × Option (List Value)) := do
  let exclude ← Value.distinct (← (← part.lookupD "exclude" .null).membersOrNone)
  let only ← part.lookupD "include_only" .null
  if only = .null then return (exclude, none)
  return (exclude, some (← Value.distinct (← only.members)))

/-- The rule of exclusion that an entry describes: a text in the short form, or
a mapping with a pattern. -/
def exclusionOf (entry : Value) : Except Fault ExclusionRule :=
  match entry with
  | .text short => ExclusionRule.ofText short
  | .map fields =>
    match Value.find? "pattern" fields with
    | none => do throw (.exclusionLacksPattern (← entry.shownQuoted))
    | some pattern =>
      match pattern.shown with
      | .error fault => .error (.invalidExclusion fault.message)
      | .ok shown =>
        (ExclusionRule.ofPattern (.text shown) ((Value.find? "check" fields).getD .null)).mapError
          fun fault => .invalidExclusion fault.message
  | _ => do throw (.exclusionLacksPattern (← entry.shownQuoted))

/-- A section of a configuration that holds settings. -/
structure Section where
  /-- Its name. -/
  name : String
  /-- The names of its settings. -/
  known : List String
  /-- What takes its settings, as messages call it. -/
  taker : String

/-- The section with the thresholds. -/
def thresholdSection : Section where
  name := "thresholds"
  known := Thresholds.names
  taker := "pg_health.config.Thresholds"

/-- The section that says how statements are generated. -/
def generatingSection : Section where
  name := "migrations"
  known := GeneratingOptions.names
  taker := "pg_health.migrations.GeneratingOptions"

/-- The settings of a section that may hold some names only. An empty section
sets nothing. -/
def settingsOf (part : Section) (content : Value) : Except Fault (List (String × Value)) := do
  if !content.truthy then return []
  let keys ← Value.distinct (← content.members)
  let unknown := keys.filter fun key => !part.known.any fun name => key = .text name
  if !unknown.isEmpty then throw (.unknownSettings part.name (← Value.sortedNames unknown))
  match content with
  | .map fields =>
    return fields.filterMap fun (key, value) =>
      (part.known.find? fun (name : String) => key = .text name).map (·, value)
  | _ => throw (.sectionOfWrongKind part.name part.taker)

/-- How a section says that statements are generated. -/
def generatingOf (content : Value) : Except Fault GeneratingOptions := do
  let settings ← settingsOf generatingSection content
  (GeneratingOptions.ofEntries settings).mapError fun fault =>
    .invalidSection generatingSection.name fault.message

/-- The configuration that the sections of a document describe. -/
def ofSections (sections : List (Value × Value)) : Except Fault Configuration := do
  let (exclude, includeOnly) ←
    match Value.find? "checks" sections with
    | some part => if part.truthy then selectionOf part else pure ([], none)
    | none => pure ([], none)
  let thresholds ←
    Thresholds.ofEntries
      (← settingsOf thresholdSection ((Value.find? thresholdSection.name sections).getD .null))
  let entries ← ((Value.find? "exclusions" sections).getD .null).membersOrNone
  let exclusions ← entries.mapM exclusionOf
  let generating ← generatingOf ((Value.find? generatingSection.name sections).getD .null)
  return { exclude, includeOnly, thresholds, exclusions, generating }

/-- The configuration in a file whose content was read as a value; an empty
file changes nothing. -/
def ofFileContent (path : String) (content : Value) : Except Fault Configuration :=
  if content.truthy then
    match content with
    | .map sections => ofSections sections
    | _ => .error (.configNotMapping path)
  else .ok {}

/-- A configuration with what is asked for on the spot laid over it. -/
def withOverrides (configuration : Configuration) (overrides : Overrides) : Configuration :=
  let added := (overrides.exclude.map Value.text).filter fun name =>
    !name.isAmong configuration.exclude
  let generating := configuration.generating
  { configuration with
    exclude := configuration.exclude ++ added.eraseDups
    includeOnly :=
      match overrides.includeOnly with
      | some names => some (names.map Value.text).eraseDups
      | none => configuration.includeOnly
    exclusions := configuration.exclusions ++ overrides.exclusions
    generating :=
      { generating with
        indexForeignKeys := generating.indexForeignKeys || overrides.indexForeignKeys
        concurrently := generating.concurrently && !overrides.noConcurrently } }

/-- The checks that a configuration names, known or not. -/
def namedChecks (configuration : Configuration) : List Value :=
  configuration.exclude ++ configuration.includeOnly.getD []

/-- The members that are no known name. -/
def strangers (known : List String) (items : List Value) : List Value :=
  items.filter fun item => !known.any fun name => item = .text name

/-- Whether a configuration can be used: every check that it names has to be known,
every rule of exclusion about all checks or a known one, and every threshold in its
range. -/
def validate (configuration : Configuration) (known : List String) : Except Fault Unit := do
  let unknown ← Value.sortedNames (strangers known configuration.namedChecks)
  if !unknown.isEmpty then throw (.unknownChecks unknown)
  let scopes ← Value.distinct configuration.exclusions.scopes
  let unscoped ← Value.sortedNames (strangers known scopes)
  if !unscoped.isEmpty then throw (.unknownScopes unscoped)
  configuration.thresholds.validate

/-- The registry of the checks that a configuration selects. -/
def registry (configuration : Configuration) : Registry :=
  Registry.selection (configuration.exclude.filterMap Value.text?)
    (configuration.includeOnly.map (·.filterMap Value.text?))

end Configuration

end CatalogHealth
