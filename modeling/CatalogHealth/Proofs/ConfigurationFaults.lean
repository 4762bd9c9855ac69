import CatalogHealth.Proofs.ConfigurationObjection
import CatalogHealth.Proofs.DocumentFaults

/-!
# What a configuration file is refused for

Reading the content of a configuration file fails with the first objection to it. The names in it
are members of sets: whether all of them are texts, and known, does not change when repetitions are
taken out. A section that was not refused for its names sets known ones only, so what takes its
settings can refuse them for their values but never for a name.
-/

namespace CatalogHealth

/-! ## Sets -/

namespace Value

/-- What is the same as a text is that text. -/
theorem eq_text_iff_of_same {v w : Value} (h : v.same w = true) (t : Text) :
    v = .text t ↔ w = .text t := by
  cases v with
  | text s =>
    rw [same_text, decide_eq_true_eq] at h
    rw [h]
  | null | bool _ | int _ | float _ | list _ | map _ =>
    refine iff_of_false (by simp) ?_
    rintro rfl
    simp [same, number?] at h

theorem isText_eq_of_same {v w : Value} (h : v.same w = true) :
    v.text?.isSome = w.text?.isSome := by
  have hiff : ∀ u : Value, u.text?.isSome = true ↔ ∃ t, u = .text t := fun u => by
    cases u <;> simp [text?]
  rw [Bool.eq_iff_iff, hiff, hiff]
  exact exists_congr (eq_text_iff_of_same h)

/-- What does not tell apart the same values holds of all values or of those that are left without
repetition. -/
theorem all_withoutRepetition {p : Value → Bool} (h : ∀ v w, v.same w = true → p v = p w)
    (values : List Value) : (withoutRepetition values).all p = values.all p := by
  have hfrom : ∀ kept : List Value,
      (values.foldl (fun kept value => if value.isAmong kept then kept else kept ++ [value])
        kept).all p = (kept.all p && values.all p) := by
    induction values with
    | nil => intro kept; simp
    | cons value rest ih =>
      intro kept
      rw [List.foldl_cons, ih, List.all_cons]
      split
      · rename_i hamong
        obtain ⟨same, hkept, hsame⟩ := List.any_eq_true.1 hamong
        cases hp : p value with
        | true => rw [Bool.true_and]
        | false =>
          -- The value was kept before, so what was kept fails already.
          have hall : kept.all p = false :=
            List.all_eq_false.2 ⟨same, hkept, by rw [← h value same hsame, hp]; simp⟩
          rw [hall, Bool.false_and, Bool.false_and]
      · rw [List.all_append, List.all_cons, List.all_nil, Bool.and_true, Bool.and_assoc]
  exact hfrom []

/-- The members of a set are the values without repetition. -/
theorem eq_of_distinct {values members : List Value} (h : distinct values = .ok members) :
    members = withoutRepetition values := by
  obtain ⟨scalars, hscalars, rfl⟩ := Traversal.map_eq_ok.1 h
  have hsame : List.Forall₂ Eq values scalars := by
    refine (Traversal.mapM_eq_ok.1 hscalars).imp fun value scalar hmember => ?_
    unfold asMember at hmember
    split at hmember
    · exact Except.ok.inj hmember
    · cases hmember
  rw [List.forall₂_eq_eq_eq] at hsame
  rw [hsame]

end Value

/-! ## Settings -/

namespace Configuration

/-- What an entry of a section sets, if its key is a known name. -/
def settingIn (part : Section) (entry : Value × Value) : Option (String × Value) :=
  (part.known.find? fun (name : String) => entry.1 = .text name).map (·, entry.2)

/-- What the entries of a section set. -/
def settingsIn (part : Section) (entries : List (Value × Value)) : List (String × Value) :=
  entries.filterMap (settingIn part)

/-- A section that is not empty and whose keys are known holds the settings of a mapping; otherwise
the strangers among its keys are complained about. -/
theorem settingsOf_eq {part : Section} {content : Value} {items keys : List Value}
    (htruthy : content.truthy = true) (hmembers : content.members = .ok items)
    (hkeys : Value.distinct items = .ok keys) :
    settingsOf part content =
      if (strangers part.known keys).isEmpty then
        match content with
        | .map fields => .ok (settingsIn part fields)
        | _ => .error (.sectionOfWrongKind part.name part.taker)
      else Value.sortedNames (strangers part.known keys) >>= fun names =>
        .error (.unknownSettings part.name names) := by
  unfold settingsOf strangers settingsIn
  rw [htruthy, hmembers]
  simp only [Bool.not_true, Bool.false_eq_true, if_false, bind, Except.bind, hkeys]
  cases (keys.filter fun key => !part.known.any fun name => key = .text name).isEmpty with
  | true => cases content <;> rfl
  | false => rfl

/-- A section whose keys make no set is refused for them. -/
theorem settingsOf_of_error {part : Section} {content : Value} {fault : Fault}
    (htruthy : content.truthy = true) (h : content.members >>= Value.distinct = .error fault) :
    settingsOf part content = .error fault := by
  unfold settingsOf
  simp only [htruthy, Bool.not_true, Bool.false_eq_true, if_false]
  rw [← bind_assoc, h]
  rfl

section Settings

variable {part : Section} {entries : List (Value × Value)}

/-- Only known names are set. -/
theorem mem_known_of_mem_settingsIn {setting : String × Value}
    (h : setting ∈ settingsIn part entries) : setting.1 ∈ part.known := by
  obtain ⟨entry, -, hsetting⟩ := List.mem_filterMap.1 h
  obtain ⟨name, hname, rfl⟩ := Option.map_eq_some_iff.1 hsetting
  exact List.mem_of_find?_eq_some hname

/-- A known name is set to what stands under it. -/
theorem lookup_settingsIn {name : String} (h : name ∈ part.known) :
    (settingsIn part entries).lookup name = Value.find? name entries := by
  induction entries with
  | nil => rfl
  | cons entry rest ih =>
    obtain ⟨key, value⟩ := entry
    rw [Value.find?_cons, settingsIn]
    cases hfound : part.known.find? fun (name : String) => key = .text name with
    | none =>
      have hother : key ≠ .text name := by
        simpa using List.find?_eq_none.1 hfound name h
      have hnone : settingIn part (key, value) = none := by
        rw [settingIn, hfound, Option.map_none]
      rw [if_neg hother, List.filterMap_cons_none hnone]
      exact ih
    | some found =>
      have hkey : key = .text found := by
        simpa using List.find?_some hfound
      have hsome : settingIn part (key, value) = some (found, value) := by
        rw [settingIn, hfound, Option.map_some]
      rw [List.filterMap_cons_some hsome, List.lookup_cons]
      by_cases hname : name = found
      · rw [if_pos (hname ▸ hkey), hname, beq_self_eq_true]
      · have hother : key ≠ .text name := by
          rintro rfl
          exact hname (Text.ofString_injective (Value.text.inj hkey))
        rw [if_neg hother, beq_eq_false_iff_ne.2 hname]
        exact ih

end Settings

theorem exists_assign? (thresholds : Thresholds) {name : String} (h : name ∈ Thresholds.names)
    (value : Value) : ∃ changed, thresholds.assign? name value = some changed := by
  simp only [Thresholds.names, List.mem_cons, List.not_mem_nil, or_false] at h
  rcases h with rfl | rfl | rfl | rfl | rfl <;> exact ⟨_, rfl⟩

/-- Thresholds of known names can be set, to whatever value. -/
theorem exists_thresholds (entries : List (Value × Value)) :
    ∃ thresholds, Thresholds.ofEntries (settingsIn thresholdSection entries) = .ok thresholds := by
  have hnames : ∀ setting ∈ settingsIn thresholdSection entries, setting.1 ∈ Thresholds.names :=
    fun setting hsetting => mem_known_of_mem_settingsIn hsetting
  unfold Thresholds.ofEntries
  generalize settingsIn thresholdSection entries = settings at hnames ⊢
  generalize ({} : Thresholds) = thresholds
  induction settings generalizing thresholds with
  | nil => exact ⟨thresholds, rfl⟩
  | cons setting rest ih =>
    obtain ⟨changed, hchanged⟩ :=
      exists_assign? thresholds (hnames setting List.mem_cons_self) setting.2
    rw [List.foldlM_cons, hchanged]
    exact ih (fun other hother => hnames other (List.mem_cons_of_mem _ hother)) changed

end Configuration

/-! ## Reading and using a configuration to what it fails on -/

namespace Objection

open CatalogHealth.Configuration

/-- The class of the fault that reading or using a configuration ends with. -/
abbrev ofUsing {α : Type} (x : Except Fault α) : Option FaultClass := Traversal.failure Fault.kind x

/-- The first objection to members that are objected to in one way only. -/
theorem findSome?_unless {α : Type} {p : α → Bool} {kind : FaultClass} (xs : List α) :
    (xs.findSome? fun x => if p x then none else some kind) =
      if xs.all p then none else some kind := by
  induction xs with
  | nil => rfl
  | cons x rest ih =>
    rw [List.findSome?_cons, List.all_cons, ih]
    cases p x <;> simp

theorem ofUsing_distinct (items : List Value) :
    ofUsing (Value.distinct items) = items.findSome? toMember := by
  have hmember : ∀ item : Value, ofUsing item.asMember = toMember item := by
    intro item
    unfold Value.asMember toMember
    split <;> rfl
  refine Eq.trans (Traversal.failure_map (f := Value.withoutRepetition)) ?_
  rw [Traversal.failure_mapM]
  exact congrArg (items.findSome? ·) (funext hmember)

theorem ofUsing_set (value : Value) :
    ofUsing (value.members >>= Value.distinct) = toListing .type toMember value := by
  cases hmembers : value.members with
  | error fault =>
    obtain ⟨name, rfl⟩ := Value.notIterable_of_members hmembers
    rw [toListing_of_no_members hmembers]
    rfl
  | ok items =>
    rw [toListing_of_members hmembers]
    exact ofUsing_distinct items

/-! ### Names -/

/-- A known name is a text. -/
theorem isText_of_known {known : List String} {item : Value}
    (h : (known.any fun name => item = .text name) = true) : item.text?.isSome = true := by
  obtain ⟨name, -, hname⟩ := List.any_eq_true.1 h
  rw [of_decide_eq_true hname]
  rfl

/-- Only among strangers there is what is no text. -/
theorem all_isText_strangers (known : List String) (items : List Value) :
    ((strangers known items).all fun item => item.text?.isSome) =
      items.all fun item => item.text?.isSome := by
  rw [strangers, List.all_filter]
  refine List.all_congr rfl fun item => ?_
  cases hitem : known.any fun name => item = .text name with
  | false => simp
  | true => simp [isText_of_known hitem]

/-- Names are objected to for the strangers among them: for one that is no text, or else for being
unknown. -/
theorem first_names (known : List String) (items : List Value) (rest : List (Option FaultClass)) :
    first (items.findSome? toText :: items.findSome? (toKnown known) :: rest) =
      if (strangers known items).isEmpty then first rest
      else some (if (strangers known items).all fun item => item.text?.isSome
        then .config else .type) := by
  have htexts : items.findSome? toText = _ := findSome?_unless items
  have hnames : items.findSome? (toKnown known) = _ := findSome?_unless items
  rw [htexts, hnames]
  by_cases hknown : (items.all fun item => known.any fun name => item = .text name) = true
  · have hall : (items.all fun item => item.text?.isSome) = true :=
      List.all_eq_true.2 fun item hitem => isText_of_known (List.all_eq_true.1 hknown item hitem)
    have hnone : strangers known items = [] :=
      List.filter_eq_nil_iff.2 fun item hitem => by
        rw [List.all_eq_true.1 hknown item hitem]
        decide
    rw [if_pos hall, if_pos hknown, hnone]
    rfl
  · obtain ⟨stranger, hstranger, hunknown⟩ := List.all_eq_false.1 (Bool.eq_false_iff.2 hknown)
    have hmem : stranger ∈ strangers known items :=
      List.mem_filter.2 ⟨hstranger, by simpa using hunknown⟩
    have hsome : ¬(strangers known items).isEmpty = true := by
      rw [List.isEmpty_iff]
      exact List.ne_nil_of_mem hmem
    rw [if_neg hknown, if_neg hsome, all_isText_strangers]
    split <;> rfl

/-- Names are objected to whether repetitions were taken out or not. -/
theorem first_names_of_distinct {items members : List Value}
    (h : Value.distinct items = .ok members) (known : List String)
    (rest : List (Option FaultClass)) :
    first (members.findSome? toText :: members.findSome? (toKnown known) :: rest) =
      first (items.findSome? toText :: items.findSome? (toKnown known) :: rest) := by
  have hknown : ∀ v w : Value, v.same w = true →
      (known.any fun name => v = .text name) = known.any fun name => w = .text name := by
    intro v w hsame
    exact congrArg known.any (funext fun name => decide_eq_decide.2
      (Value.eq_text_iff_of_same hsame name))
  rw [Value.eq_of_distinct h]
  unfold toText toKnown
  simp only [findSome?_unless]
  rw [Value.all_withoutRepetition fun _ _ => Value.isText_eq_of_same,
    Value.all_withoutRepetition hknown]

/-- What is no member of a set is no text either. -/
theorem findSome?_toText {items : List Value} {kind : FaultClass}
    (h : items.findSome? toMember = some kind) : items.findSome? toText = some kind := by
  obtain ⟨item, hitem, hobjection⟩ := List.exists_of_findSome?_eq_some h
  have htext : ¬(items.all fun item => item.text?.isSome) = true := by
    intro hall
    have hisText := List.all_eq_true.1 hall item hitem
    cases item with
    | text _ => cases hobjection
    | null | bool _ | int _ | float _ | list _ | map _ => cases hisText
  have hkind : kind = .type := by
    unfold toMember at hobjection
    split at hobjection
    · cases hobjection
    · exact (Option.some.inj hobjection).symm
  refine (findSome?_unless items).trans ?_
  rw [if_neg htext, hkind]

theorem toListing_toText {content : Value} {kind : FaultClass}
    (h : toListing .type toMember content = some kind) :
    toListing .type toText content = some kind := by
  cases hmembers : content.members with
  | error fault => rwa [toListing_of_no_members hmembers] at h ⊢
  | ok items =>
    rw [toListing_of_members hmembers] at h ⊢
    exact findSome?_toText h

/-! ### Selected checks -/

theorem unlessNull_of_ne {value : Value} (h : value ≠ .null)
    (objection : Value → Option FaultClass) : unlessNull objection value = objection value := by
  cases value with
  | null => exact absurd rfl h
  | bool _ | int _ | float _ | text _ | list _ | map _ => rfl

theorem ofUsing_selectionOf (part : Value) : ofUsing (selectionOf part) = toSelection part := by
  cases part with
  | null | bool _ | int _ | float _ | text _ | list _ => rfl
  | map entries =>
    have hexclude : ∀ value : Value, ofUsing (value.membersOrNone >>= Value.distinct) =
        unlessEmpty (toListing .type toMember) value :=
      failure_membersOrNone ofUsing_set rfl
    have honly : ∀ (exclude : List Value) (value : Value),
        ofUsing (if value = .null then (return (exclude, none))
          else do return (exclude, some (← Value.distinct (← value.members)))) =
            first [unlessNull (toListing .type toMember) value] := by
      intro exclude value
      rw [first_singleton]
      by_cases hnull : value = .null
      · subst hnull
        rfl
      · rw [if_neg hnull, unlessNull_of_ne hnull, ← ofUsing_set, ← bind_assoc]
        exact (Traversal.failure_bind fun _ _ => Traversal.failure_pure).trans Option.or_none
    refine failure_lookupD_first (fun value => ?_) rfl
    rw [← bind_assoc]
    refine failure_bind_first (hexclude value) fun exclude => ?_
    exact failure_lookupD_first (fun only => honly exclude only) rfl

/-! ### Sections with settings -/

/-- A section is objected to for its names and its kind, and then for what it sets. -/
theorem ofUsing_settingsOf {α : Type} {use : List (String × Value) → Except Fault α}
    {part : Section} {settings : List (Value × Value) → Option FaultClass}
    (hempty : ofUsing (use []) = none)
    (huse : ∀ entries, ofUsing (use (settingsIn part entries)) = settings entries)
    (content : Value) :
    ofUsing (settingsOf part content >>= use) = toSettings part settings content := by
  unfold toSettings unlessEmpty
  cases htruthy : content.truthy with
  | false =>
    unfold settingsOf
    rw [htruthy]
    exact hempty
  | true =>
    simp only [if_true]
    cases hkeys : content.members >>= Value.distinct with
    | error fault =>
      have hset : toListing .type toMember content = some fault.kind := by
        rw [← ofUsing_set, hkeys]
        rfl
      rw [settingsOf_of_error htruthy hkeys, toListing_toText hset]
      rfl
    | ok keys =>
      obtain ⟨items, hmembers, hdistinct⟩ := Traversal.bind_eq_ok.1 hkeys
      rw [toListing_of_members hmembers, toListing_of_members hmembers,
        ← first_names_of_distinct hdistinct, first_names,
        settingsOf_eq htruthy hmembers hdistinct]
      split
      · rw [first_singleton]
        cases content with
        | map fields => exact huse fields
        | null | bool _ | int _ | float _ | text _ | list _ => rfl
      · unfold Value.sortedNames
        split <;> rfl

/-- Thresholds are only objected to for their names. -/
theorem ofUsing_thresholdSettings (content : Value) :
    ofUsing (settingsOf thresholdSection content >>= Thresholds.ofEntries) =
      toSettings thresholdSection (fun _ => none) content :=
  ofUsing_settingsOf rfl
    (fun entries => Traversal.failure_eq_none_iff.2 (exists_thresholds entries)) content

/-- The faults of a section that says how statements are generated are about the configuration. -/
theorem failure_checkedIndentation (value : Value) :
    Traversal.failure (fun _ => FaultClass.config) (GeneratingOptions.checkedIndentation value) =
      toIndentation value := by
  cases value with
  | int spaces =>
    simp only [GeneratingOptions.checkedIndentation, toIndentation]
    split <;> rfl
  | null | bool _ | float _ | text _ | list _ | map _ => rfl

theorem failure_placement (value : Value) :
    Traversal.failure (fun _ => FaultClass.config) (Placement.ofValue value) =
      toKnown ["suffix", "prefix", "none"] value := by
  have hnames : (["suffix", "prefix", "none"].any fun name => value = .text name) =
      ([Placement.suffix, .front, .absent].find? fun placement =>
        value = .text placement.name).isSome := by
    rw [List.isSome_find?]
    rfl
  rw [toKnown, hnames, Placement.ofValue]
  cases [Placement.suffix, .front, .absent].find? fun placement => value = .text placement.name with
  | some placement => rfl
  | none =>
    simp only [Value.shownQuoted]
    split <;> rfl

theorem ofUsing_generatingOf (content : Value) :
    ofUsing (generatingOf content) = toSettings generatingSection toGenerating content := by
  refine ofUsing_settingsOf rfl (fun entries => ?_) content
  rw [ofUsing, Traversal.failure_mapError]
  have hsetting : ∀ name ∈ GeneratingOptions.names,
      (settingsIn generatingSection entries).reverse.lookup name =
        Value.find? name entries.reverse := by
    intro name hname
    rw [settingsIn, ← List.filterMap_reverse]
    exact lookup_settingsIn hname
  have hknown : ¬((settingsIn generatingSection entries).any fun entry =>
      !GeneratingOptions.names.contains entry.1) = true := by
    simp only [List.any_eq_true, not_exists, not_and, Bool.not_eq_true, Bool.not_eq_false']
    exact fun setting hsetting => List.contains_iff_mem.2 (mem_known_of_mem_settingsIn hsetting)
  unfold GeneratingOptions.ofEntries
  rw [if_neg hknown]
  dsimp only
  rw [hsetting _ (by decide), hsetting _ (by decide)]
  refine failure_bind_first ?_ fun _ => failure_bind_first ?_ fun _ => rfl
  · exact (failure_checkedIndentation _).trans (getD_find? rfl _ _)
  · exact (failure_placement _).trans (getD_find? rfl _ _)

/-! ### Rules of exclusion -/

theorem ofUsing_ofPattern (pattern scope : Value) :
    ofUsing (ExclusionRule.ofPattern pattern scope) =
      if pattern.truthy then none else some .value := by
  unfold ExclusionRule.ofPattern
  split <;> rfl

/-- A short form lacks a pattern if it is empty or begins with the colon. -/
theorem ofUsing_ofText (short : Text) : ofUsing (ExclusionRule.ofText short) =
    if short.points.head?.all (· == .char ':') then some .value else none := by
  have hlong : ∀ (point : CodePoint) (rest : List CodePoint),
      (Value.text ⟨point :: rest⟩).truthy = true := fun point rest =>
    bne_iff_ne.2 fun hempty => nomatch congrArg Text.points hempty
  obtain ⟨points⟩ := short
  unfold ExclusionRule.ofText
  cases points with
  | nil => rfl
  | cons point rest =>
    rw [List.head?_cons, Option.all_some, Text.cut]
    by_cases hcolon : point = .char ':'
    · rw [if_pos hcolon, if_pos (beq_iff_eq.2 hcolon)]
      exact ofUsing_ofPattern _ _
    · rw [if_neg hcolon, if_neg (mt beq_iff_eq.1 hcolon)]
      cases Text.cut (.char ':') rest with
      | none => exact (ofUsing_ofPattern _ _).trans (if_pos (hlong point rest))
      | some pieces => exact (ofUsing_ofPattern _ _).trans (if_pos (hlong point pieces.1))

/-- A complaint that quotes a value is about the configuration, unless the value cannot be
written. -/
theorem ofUsing_complaint {α : Type} {f : String → Fault} (h : ∀ quoted, (f quoted).kind = .config)
    (value : Value) :
    ofUsing (do throw (f (← value.shownQuoted)) : Except Fault α) = some (complaint value) := by
  unfold Value.shownQuoted complaint
  split
  · exact congrArg some (h _)
  · rfl

theorem ofUsing_exclusionOf (entry : Value) : ofUsing (exclusionOf entry) = toExclusion entry := by
  have hlacks : ∀ value : Value,
      ofUsing (do
        throw (.exclusionLacksPattern (← value.shownQuoted)) : Except Fault ExclusionRule) =
          some (complaint value) :=
    ofUsing_complaint fun _ => rfl
  cases entry with
  | null | bool _ | int _ | float _ | list _ => exact hlacks _
  | text short => exact ofUsing_ofText short
  | map fields =>
    simp only [exclusionOf, toExclusion]
    cases Value.find? "pattern" fields with
    | none => exact hlacks _
    | some pattern =>
      simp only [Value.shown]
      cases pattern.isWritable with
      | false => rfl
      | true =>
        simp only [if_true, Bool.true_and]
        rw [ofUsing, Traversal.failure_mapError]
        unfold ExclusionRule.ofPattern
        change Traversal.failure _ (if h : (pattern.display != "") = true then _ else _) = _
        split <;> rfl

theorem ofUsing_exclusionEntries (content : Value) :
    ofUsing (content.membersOrNone >>= List.mapM exclusionOf) =
      unlessEmpty (toListing .type toExclusion) content :=
  failure_membersOrNone (failure_members (fun _ => rfl) ofUsing_exclusionOf) rfl content

/-! ### Files -/

theorem ofUsing_ofSections (sections : List (Value × Value)) :
    ofUsing (ofSections sections) =
      first [toField "checks" (unlessEmpty toSelection) sections,
        toField "thresholds" (toSettings thresholdSection fun _ => none) sections,
        toField "exclusions" (unlessEmpty (toListing .type toExclusion)) sections,
        toField "migrations" (toSettings generatingSection toGenerating) sections] := by
  -- What follows the selection is the same whether there is one or not.
  have hrest : ∀ (exclude : List Value) (includeOnly : Option (List Value)),
      ofUsing (do
        let thresholds ← Thresholds.ofEntries
          (← settingsOf thresholdSection
            ((Value.find? thresholdSection.name sections).getD .null))
        let entries ← ((Value.find? "exclusions" sections).getD .null).membersOrNone
        let exclusions ← entries.mapM exclusionOf
        let generating ← generatingOf
          ((Value.find? generatingSection.name sections).getD .null)
        return ({ exclude, includeOnly, thresholds, exclusions, generating } : Configuration)) =
          first [toField "thresholds" (toSettings thresholdSection fun _ => none) sections,
            toField "exclusions" (unlessEmpty (toListing .type toExclusion)) sections,
            toField "migrations" (toSettings generatingSection toGenerating) sections] := by
    intro exclude includeOnly
    rw [← bind_assoc]
    refine failure_bind_first ((ofUsing_thresholdSettings _).trans (getD_find? rfl _ _))
      fun thresholds => ?_
    rw [← bind_assoc]
    refine failure_bind_first ((ofUsing_exclusionEntries _).trans (getD_find? rfl _ _))
      fun exclusions => ?_
    exact failure_bind_first ((ofUsing_generatingOf _).trans (getD_find? rfl _ _)) fun _ => rfl
  have hchecks : toField "checks" (unlessEmpty toSelection) sections =
      (Value.find? "checks" sections).bind (unlessEmpty toSelection) := rfl
  rw [hchecks]
  unfold ofSections
  cases Value.find? "checks" sections with
  | none => exact hrest [] none
  | some part =>
    simp only [Option.bind_some, unlessEmpty]
    split
    · exact failure_bind_first (ofUsing_selectionOf part) fun selection =>
        hrest selection.1 selection.2
    · exact hrest [] none

/-- The content of a configuration file is read to the first objection to it. -/
theorem ofUsing_ofFileContent (path : String) (content : Value) :
    ofUsing (ofFileContent path content) = toConfiguration content := by
  unfold ofFileContent toConfiguration unlessEmpty
  split
  · cases content with
    | map sections => exact ofUsing_ofSections sections
    | null | bool _ | int _ | float _ | text _ | list _ => rfl
  · rfl

end Objection

end CatalogHealth
