import CatalogHealth.Configuration
import CatalogHealth.Proofs.Objection

/-!
# Objections to configurations

The content of a configuration file is read section by section, and what was read is checked before
anything is evaluated. Both end with the first objection, and as for snapshot documents this module
says what is objected to without reading or checking anything. Most values are objected to as
unacceptable configuration. Three kinds of objection are others: to a value of a kind that cannot
stand where it does, to a selection of checks that is no mapping, and to a value that is just
unacceptable, because a complaint about it would have to write what cannot be written or because
a short form lacks a pattern. The messages are outside the scope of this module.
-/

namespace CatalogHealth.Objection

/-! ## Reading a configuration -/

/-- The objection to a member of a set. -/
def toMember (item : Value) : Option FaultClass := if item.isScalar then none else some .type

/-- The objection to what should be a text. -/
def toText (item : Value) : Option FaultClass := if item.text?.isSome then none else some .type

/-- The objection to what should be one of some names. -/
def toKnown (known : List String) (item : Value) : Option FaultClass :=
  if known.any fun name => item = .text name then none else some .config

/-- The objection to what should be a mapping, given the one to its entries. -/
def toMapping (objection : List (Value × Value) → Option FaultClass) : Value → Option FaultClass
  | .map entries => objection entries
  | _ => some .config

/-- The class of a complaint that quotes a value. -/
def complaint (value : Value) : FaultClass := if value.isWritable then .config else .value

/-- The objection to the selected checks. Only a mapping has keys that can be looked up. What is
left out may be empty in any way; the only checks are absent or listed. -/
def toSelection : Value → Option FaultClass
  | .map part =>
    first [toField "exclude" (unlessEmpty (toListing .type toMember)) part,
      toField "include_only" (unlessNull (toListing .type toMember)) part]
  | _ => some .operation

/-- The objection to a rule of exclusion. A short form needs a pattern in front of its first colon,
a mapping one that can be written and is not empty. -/
def toExclusion : Value → Option FaultClass
  | .text short => if short.points.head?.all (· == .char ':') then some .value else none
  | .map fields =>
    match Value.find? "pattern" fields with
    | some pattern => if pattern.isWritable && pattern.display != "" then none else some .config
    | none => some (complaint (.map fields))
  | entry => some (complaint entry)

/-- The objection to an indentation. -/
def toIndentation : Value → Option FaultClass
  | .int spaces => if 0 ≤ spaces ∧ spaces ≤ 8 then none else some .config
  | _ => some .config

/-- The objection to what a section says about generating, of which the last setting of a name
counts. -/
def toGenerating (entries : List (Value × Value)) : Option FaultClass :=
  first [toField "indentation" toIndentation entries.reverse,
    toField "idx_position" (toKnown ["suffix", "prefix", "none"]) entries.reverse]

/-- The objection to a section with settings, given the one to what it sets. All names are looked at
before the section has to be a mapping. -/
def toSettings (part : Configuration.Section)
    (settings : List (Value × Value) → Option FaultClass) : Value → Option FaultClass :=
  unlessEmpty fun content =>
    first [toListing .type toText content, toListing .type (toKnown part.known) content,
      toMapping settings content]

/-- The objection to the content of a configuration file. -/
def toConfiguration : Value → Option FaultClass :=
  unlessEmpty <| toMapping fun sections =>
    first [toField "checks" (unlessEmpty toSelection) sections,
      toField "thresholds" (toSettings Configuration.thresholdSection fun _ => none) sections,
      toField "exclusions" (unlessEmpty (toListing .type toExclusion)) sections,
      toField "migrations" (toSettings Configuration.generatingSection toGenerating) sections]

/-! ## Using a configuration -/

/-- The objection to names of which all should be known; what is no text comes first. -/
def toNames (known : List String) (items : List Value) : Option FaultClass :=
  first [items.findSome? toText, items.findSome? (toKnown known)]

/-- The objection to a threshold: it should be a number and not negative. -/
def toThreshold : Value → Option FaultClass
  | .int value => if value < 0 then some (complaint (.int value)) else none
  | .float x => if (Number.float x).lt (.int 0) then some .config else none
  | value => some (complaint value)

/-- The objection to a ratio that should be at most one, and a number in any case. -/
def toRatio (ratio : Value) : Option FaultClass :=
  match ratio.number? with
  | some number => if (Number.int 1).lt number then some .config else none
  | none => some .type

/-- The objection to thresholds. -/
def toThresholds (thresholds : Thresholds) : Option FaultClass :=
  first [toThreshold thresholds.bloatRatio, toThreshold thresholds.bloatMinSize,
    toThreshold thresholds.unusedIndexMaxScans, toThreshold thresholds.unusedIndexMinTableSize,
    toThreshold thresholds.sequenceRemainingRatio, toRatio thresholds.bloatRatio,
    toRatio thresholds.sequenceRemainingRatio]

/-- The objection to a configuration that should be used with some known checks. -/
def toUse (known : List String) (configuration : Configuration) : Option FaultClass :=
  first [toNames known configuration.namedChecks, toNames known configuration.exclusions.scopes,
    toThresholds configuration.thresholds]

/-! ## The classes of objections -/

/-- The classes of the objections to configurations. -/
def configurationKinds : List FaultClass := [.value, .config, .type, .operation]

section Classes

variable {kinds : List FaultClass}

theorem isAmong_first {objections : List (Option FaultClass)}
    (h : ∀ objection ∈ objections, IsAmong kinds objection) : IsAmong kinds (first objections) :=
  isAmong_findSome? h

theorem isAmong_toMapping (hconfig : .config ∈ kinds)
    {objection : List (Value × Value) → Option FaultClass}
    (h : ∀ entries, IsAmong kinds (objection entries)) (value : Value) :
    IsAmong kinds (toMapping objection value) := by
  unfold toMapping
  split
  · exact h _
  · exact isAmong_some hconfig

theorem isAmong_toMember (htype : .type ∈ kinds) (item : Value) :
    IsAmong kinds (toMember item) :=
  isAmong_ite isAmong_none (isAmong_some htype)

theorem isAmong_toText (htype : .type ∈ kinds) (item : Value) : IsAmong kinds (toText item) :=
  isAmong_ite isAmong_none (isAmong_some htype)

theorem isAmong_toKnown (hconfig : .config ∈ kinds) (known : List String) (item : Value) :
    IsAmong kinds (toKnown known item) :=
  isAmong_ite isAmong_none (isAmong_some hconfig)

theorem isAmong_complaint (hvalue : .value ∈ kinds) (hconfig : .config ∈ kinds) (value : Value) :
    IsAmong kinds (some (complaint value)) := by
  unfold complaint
  split
  · exact isAmong_some hconfig
  · exact isAmong_some hvalue

theorem isAmong_toNames (htype : .type ∈ kinds) (hconfig : .config ∈ kinds) (known : List String)
    (items : List Value) : IsAmong kinds (toNames known items) := by
  refine isAmong_first ?_
  simp only [List.forall_mem_cons]
  exact ⟨isAmong_findSome? fun item _ => isAmong_toText htype item,
    isAmong_findSome? fun item _ => isAmong_toKnown hconfig known item, List.forall_mem_nil _⟩

theorem isAmong_toThreshold (hvalue : .value ∈ kinds) (hconfig : .config ∈ kinds) (value : Value) :
    IsAmong kinds (toThreshold value) := by
  cases value with
  | int value => exact isAmong_ite (isAmong_complaint hvalue hconfig _) isAmong_none
  | float x => exact isAmong_ite (isAmong_some hconfig) isAmong_none
  | null | bool _ | text _ | list _ | map _ => exact isAmong_complaint hvalue hconfig _

theorem isAmong_toRatio (htype : .type ∈ kinds) (hconfig : .config ∈ kinds) (ratio : Value) :
    IsAmong kinds (toRatio ratio) := by
  unfold toRatio
  split
  · exact isAmong_ite (isAmong_some hconfig) isAmong_none
  · exact isAmong_some htype

end Classes

theorem isAmong_toSelection (part : Value) : IsAmong configurationKinds (toSelection part) := by
  have hset : ∀ value, IsAmong configurationKinds (toListing .type toMember value) :=
    isAmong_toListing (by decide) (isAmong_toMember (by decide))
  unfold toSelection
  split
  · refine isAmong_first ?_
    simp only [List.forall_mem_cons]
    exact ⟨isAmong_toField (isAmong_unlessEmpty hset) _ _,
      isAmong_toField (isAmong_unlessNull hset) _ _, List.forall_mem_nil _⟩
  · exact isAmong_some (by decide)

theorem isAmong_toExclusion (entry : Value) : IsAmong configurationKinds (toExclusion entry) := by
  have hcomplaint : ∀ value, IsAmong configurationKinds (some (complaint value)) :=
    isAmong_complaint (by decide) (by decide)
  cases entry with
  | null | bool _ | int _ | float _ | list _ => exact hcomplaint _
  | text short => exact isAmong_ite (isAmong_some (by decide)) isAmong_none
  | map fields =>
    simp only [toExclusion]
    split
    · exact isAmong_ite isAmong_none (isAmong_some (by decide))
    · exact hcomplaint _

theorem isAmong_toIndentation (value : Value) :
    IsAmong configurationKinds (toIndentation value) := by
  unfold toIndentation
  split
  · exact isAmong_ite isAmong_none (isAmong_some (by decide))
  · exact isAmong_some (by decide)

theorem isAmong_toGenerating (entries : List (Value × Value)) :
    IsAmong configurationKinds (toGenerating entries) := by
  refine isAmong_first ?_
  simp only [List.forall_mem_cons]
  exact ⟨isAmong_toField isAmong_toIndentation _ _,
    isAmong_toField (isAmong_toKnown (by decide) _) _ _, List.forall_mem_nil _⟩

theorem isAmong_toSettings {settings : List (Value × Value) → Option FaultClass}
    (h : ∀ entries, IsAmong configurationKinds (settings entries)) (part : Configuration.Section)
    (content : Value) : IsAmong configurationKinds (toSettings part settings content) := by
  refine isAmong_unlessEmpty (fun value => isAmong_first ?_) content
  simp only [List.forall_mem_cons]
  exact ⟨isAmong_toListing (by decide) (isAmong_toText (by decide)) _,
    isAmong_toListing (by decide) (isAmong_toKnown (by decide) _) _,
    isAmong_toMapping (by decide) h _, List.forall_mem_nil _⟩

/-- What is read from a configuration file gives rise to objections of four classes only. -/
theorem isAmong_toConfiguration (content : Value) :
    IsAmong configurationKinds (toConfiguration content) := by
  refine isAmong_unlessEmpty
    (isAmong_toMapping (by decide) fun sections => isAmong_first ?_) content
  simp only [List.forall_mem_cons]
  exact ⟨isAmong_toField (isAmong_unlessEmpty isAmong_toSelection) _ _,
    isAmong_toField (isAmong_toSettings (fun _ => isAmong_none) _) _ _,
    isAmong_toField (isAmong_unlessEmpty (isAmong_toListing (by decide) isAmong_toExclusion)) _ _,
    isAmong_toField (isAmong_toSettings isAmong_toGenerating _) _ _, List.forall_mem_nil _⟩

/-- A configuration that was read gives rise to objections of three classes when it is used. -/
theorem isAmong_toUse (known : List String) (configuration : Configuration) :
    IsAmong [.value, .config, .type] (toUse known configuration) := by
  have hthreshold : ∀ value, IsAmong [.value, .config, .type] (toThreshold value) :=
    isAmong_toThreshold (by decide) (by decide)
  have hratio : ∀ ratio, IsAmong [.value, .config, .type] (toRatio ratio) :=
    isAmong_toRatio (by decide) (by decide)
  have hthresholds : IsAmong [.value, .config, .type] (toThresholds configuration.thresholds) := by
    refine isAmong_first ?_
    simp only [List.forall_mem_cons]
    exact ⟨hthreshold _, hthreshold _, hthreshold _, hthreshold _, hthreshold _, hratio _, hratio _,
      List.forall_mem_nil _⟩
  refine isAmong_first ?_
  simp only [List.forall_mem_cons]
  exact ⟨isAmong_toNames (by decide) (by decide) known _,
    isAmong_toNames (by decide) (by decide) known _, hthresholds, List.forall_mem_nil _⟩

end CatalogHealth.Objection
