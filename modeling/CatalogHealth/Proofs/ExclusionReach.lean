import CatalogHealth.Proofs.FindingKeys
import CatalogHealth.Proofs.Matching

/-!
# How far exclusions reach

A finding is made from objects of the snapshot, but all that it carries of them are their
identifiers, and rules of exclusion ask the snapshot which object an identifier belongs to.
Identifiers are distinct only among objects of one kind. Where a table and an index, or an index
and a constraint, share one, the rules are asked about the object of the earlier kind, and the
other one is shadowed. So an excluded object takes its findings with it unless it is shadowed, and
a shadowed one does exactly if the rules also exclude some object that stands for one from which
the finding was made. Which texts a glob accepts is outside the scope of this module.
-/

namespace CatalogHealth

variable {s : Snapshot} {t : Thresholds} {rules : Exclusions} {check : Check}
  {found kept : List Finding} {f : Finding} {object other : SchemaObject} {name : Text}

/-! ## What an identifier stands for -/

namespace SchemaObject

/-- The place of the kind of an object in the order in which the kinds are searched. -/
def place : SchemaObject → Nat
  | table _ => 0
  | index _ => 1
  | constraint _ => 2
  | sequence _ => 3

/-- An object of an earlier kind has the same identifier. -/
def IsShadowed (s : Snapshot) (object : SchemaObject) : Prop :=
  ∃ other ∈ s.objects, other.qualifiedName = object.qualifiedName ∧ other.place < object.place

end SchemaObject

namespace Snapshot

/-- The objects of a snapshot are searched kind by kind. -/
theorem objects_pairwise (s : Snapshot) :
    s.objects.Pairwise fun object other => object.place ≤ other.place := by
  have hkind : ∀ {α : Type} (xs : List α) (n : Nat), xs.Pairwise fun _ _ => n ≤ n :=
    fun xs n => List.pairwise_of_forall fun _ _ => Nat.le_refl n
  simp only [objects, List.pairwise_append, List.pairwise_map, List.mem_append, List.mem_map]
  refine ⟨⟨⟨hkind _ 0, hkind _ 1, ?_⟩, hkind _ 2, ?_⟩, hkind _ 3, ?_⟩
  · rintro _ ⟨table, -, rfl⟩ _ ⟨index, -, rfl⟩
    exact Nat.zero_le 1
  · rintro _ (⟨table, -, rfl⟩ | ⟨index, -, rfl⟩) _ ⟨con, -, rfl⟩
    · exact Nat.zero_le 2
    · exact Nat.le_succ 1
  · rintro object hobject _ ⟨seq, -, rfl⟩
    rcases hobject with (⟨table, -, rfl⟩ | ⟨index, -, rfl⟩) | ⟨con, -, rfl⟩
    · exact Nat.zero_le 3
    · exact Nat.le_add_left 1 2
    · exact Nat.le_succ 2

/-- Two objects of one kind have different identifiers. -/
theorem object_eq (hobject : object ∈ s.objects) (hother : other ∈ s.objects)
    (hname : object.qualifiedName = other.qualifiedName) (hplace : object.place = other.place) :
    object = other := by
  cases object with
  | table table =>
    cases other with
    | table table' =>
      exact congrArg _ (List.inj_on_of_nodup_map s.tables_nodup (table_mem_objects.1 hobject)
        (table_mem_objects.1 hother) hname)
    | index _ | constraint _ | sequence _ => cases hplace
  | index index =>
    cases other with
    | index index' =>
      exact congrArg _ (List.inj_on_of_nodup_map s.indexes_nodup (index_mem_objects.1 hobject)
        (index_mem_objects.1 hother) hname)
    | table _ | constraint _ | sequence _ => cases hplace
  | constraint con =>
    cases other with
    | constraint con' =>
      exact congrArg _ (List.inj_on_of_nodup_map s.constraints_nodup
        (constraint_mem_objects.1 hobject) (constraint_mem_objects.1 hother) hname)
    | table _ | index _ | sequence _ => cases hplace
  | sequence seq =>
    cases other with
    | sequence seq' =>
      exact congrArg _ (List.inj_on_of_nodup_map s.sequences_nodup
        (sequence_mem_objects.1 hobject) (sequence_mem_objects.1 hother) hname)
    | table _ | index _ | constraint _ => cases hplace

/-- What an identifier stands for has it. -/
theorem qualifiedName_of_object? (h : s.object? name = some object) :
    object.qualifiedName = name := by
  simpa using List.find?_some h

/-- What an identifier stands for comes before all others that have it. -/
theorem place_le_of_object? (h : s.object? name = some object) (hother : other ∈ s.objects)
    (hname : other.qualifiedName = name) : object.place ≤ other.place := by
  obtain ⟨-, front, back, hsplit, hfront⟩ := List.find?_eq_some_iff_append.1 h
  have hpairwise := s.objects_pairwise
  rw [hsplit] at hother hpairwise
  rcases List.mem_append.1 hother with hearlier | hlater
  · have hdiffers := hfront other hearlier
    simp [hname] at hdiffers
  · rcases List.mem_cons.1 hlater with rfl | hback
    · exact Nat.le_refl _
    · exact (List.pairwise_cons.1 (List.pairwise_append.1 hpairwise).2.1).1 other hback

/-- An identifier stands for the object that has it and is not shadowed. -/
theorem object?_eq_some_iff : s.object? name = some object ↔
    object ∈ s.objects ∧ object.qualifiedName = name ∧ ¬object.IsShadowed s := by
  constructor
  · intro h
    have hname := qualifiedName_of_object? h
    refine ⟨List.mem_of_find?_eq_some h, hname, fun hshadowed => ?_⟩
    obtain ⟨other, hother, hsame, hplace⟩ := hshadowed
    exact Nat.not_le.2 hplace (place_le_of_object? h hother (hsame.trans hname))
  · intro h
    obtain ⟨hobject, hname, hclear⟩ := h
    have hfound : (s.object? name).isSome = true := by
      rw [object?, List.find?_isSome]
      exact ⟨object, hobject, decide_eq_true hname⟩
    obtain ⟨first, hfirst⟩ := Option.isSome_iff_exists.1 hfound
    have hfirstName := qualifiedName_of_object? hfirst
    have hfirstMem := List.mem_of_find?_eq_some hfirst
    have hle := place_le_of_object? hfirst hobject hname
    have hge : ¬first.place < object.place :=
      fun hlt => hclear ⟨first, hfirstMem, hfirstName.trans hname.symm, hlt⟩
    have heq := object_eq hfirstMem hobject (hfirstName.trans hname.symm) (by omega)
    rw [hfirst, heq]

end Snapshot

/-! ## What is left of the findings of a check -/

/-- An object stands for one from which a finding was made: its identifier is what the finding
carries of it. -/
def Finding.StandsFor (s : Snapshot) (t : Thresholds) (f : Finding) (other : SchemaObject) : Prop :=
  ∃ object, f.BuiltFrom s t object ∧ s.object? object.qualifiedName = some other

/-- The objects that the rules are asked about are those that stand for objects from which the
finding was made. -/
theorem mem_named_iff (hcheck : check ∈ builtinChecks) (h : check.run s t = .ok found)
    (hf : f ∈ found) : other ∈ Exclusions.named s f ↔ f.StandsFor s t other := by
  rw [Exclusions.named, List.mem_filterMap]
  constructor
  · intro hnamed
    obtain ⟨name, hname, hfound⟩ := hnamed
    obtain ⟨object, hbuilt, hidentifier⟩ := exists_builtFrom hcheck h hf hname
    exact ⟨object, hbuilt, hidentifier.symm ▸ hfound⟩
  · intro hstands
    obtain ⟨object, hbuilt, hfound⟩ := hstands
    exact ⟨object.qualifiedName, hbuilt.name_mem, hfound⟩

namespace Exclusions

/-- A finding of a built-in check is dropped if the rules exclude an object that stands for one from
which it was made. -/
theorem notMem_kept_iff (hcheck : check ∈ builtinChecks) (h : check.run s t = .ok found)
    (hkept : rules.filterFindings s check.name found = .ok kept) (hf : f ∈ found) :
    f ∉ kept ↔ ∃ other, f.StandsFor s t other ∧ rules.Describe check.name (some s) other := by
  have hnames : ∀ g ∈ found, g.checkName = check.name :=
    fun g hg => checkName_of_mem_run hcheck h hg
  obtain ⟨hanswers, rfl⟩ := (filterFindings_eq_ok hnames).1 hkept
  obtain ⟨silenced, hsilenced⟩ := hanswers f hf
  have hdropped : f ∉ found.filter (fun g => !rules.hides s g) ↔ silenced = true := by
    rw [List.mem_filter, hides_of_silences hsilenced, Bool.not_eq_true', and_iff_right hf,
      Bool.not_eq_false]
  rw [hdropped, silences_eq_ok hsilenced, hnames f hf]
  simp only [mem_named_iff hcheck h hf]

/-- Every index and every constraint that the rules exclude takes the findings made from it with
it. -/
def Reach (rules : Exclusions) (s : Snapshot) (t : Thresholds) (check : Check)
    (found kept : List Finding) : Prop :=
  ∀ object ∈ s.objects, object.owner?.isSome = true →
    rules.Describe check.name (some s) object →
      ∀ f ∈ found, f.BuiltFrom s t object → f ∉ kept

/-- Wherever an index or a constraint that the rules exclude is shadowed, they also exclude
some object that stands for one from which the finding was made. -/
def ReachShadowed (rules : Exclusions) (s : Snapshot) (t : Thresholds) (check : Check)
    (found : List Finding) : Prop :=
  ∀ object ∈ s.objects, object.owner?.isSome = true → object.IsShadowed s →
    rules.Describe check.name (some s) object → ∀ f ∈ found, f.BuiltFrom s t object →
      ∃ other, f.StandsFor s t other ∧ rules.Describe check.name (some s) other

end Exclusions

/-- The findings of a built-in check are filtered whenever names and patterns are texts, and
excluded indexes and constraints take the findings made from them with them exactly if the
rules reach those of them that are shadowed. -/
theorem exclusions_reach_iff (hcheck : check ∈ builtinChecks) (h : check.run s t = .ok found) :
    (s.ObjectNamesAreTexts → rules.PatternsAreTexts →
      ∃ kept, rules.filterFindings s check.name found = .ok kept) ∧
    ∀ kept, rules.filterFindings s check.name found = .ok kept →
      (rules.Reach s t check found kept ↔ rules.ReachShadowed s t check found) := by
  constructor
  · intro hobjects hpatterns
    have hnames : ∀ f ∈ found, f.checkName = check.name :=
      fun f hf => checkName_of_mem_run hcheck h hf
    have hanswers : ∀ f ∈ found, ∃ b, rules.silences s f.checkName f = .ok b :=
      fun f _ => Exclusions.exists_silences hobjects hpatterns f.checkName f
    exact ⟨_, (Exclusions.filterFindings_eq_ok hnames).2 ⟨hanswers, rfl⟩⟩
  · intro kept hkept
    constructor
    · intro hreach object hobject howned _ hdescribed f hf hbuilt
      have hdropped := hreach object hobject howned hdescribed f hf hbuilt
      exact (Exclusions.notMem_kept_iff hcheck h hkept hf).1 hdropped
    · intro hreach object hobject howned hdescribed f hf hbuilt
      rw [Exclusions.notMem_kept_iff hcheck h hkept hf]
      by_cases hshadowed : object.IsShadowed s
      · exact hreach object hobject howned hshadowed hdescribed f hf hbuilt
      -- What is not shadowed stands for itself.
      · have hitself := Snapshot.object?_eq_some_iff.2 ⟨hobject, rfl, hshadowed⟩
        exact ⟨object, ⟨object, hbuilt, hitself⟩, hdescribed⟩

/-- A rule that hides a table from all checks. -/
def ordersRule : ExclusionRule := { pattern := .text "public.orders", pattern_truthy := rfl }

/-- A foreign key from orders to shops that no index covers. -/
def ordersShopKey : Constraint where
  name := .text "shop"
  kind := .foreignKey
  tableSchema := .text "public"
  tableName := .text "orders"
  columns := [.text "shop"]
  refTable := .text "shops"

/-- Orders and shops, and nothing but a foreign key between them. -/
def keyedOrders : Snapshot :=
  { bareSnapshot with
    tables :=
      [{ schema := .text "public", name := .text "orders", columns := [{ name := .text "shop" }] },
       { schema := .text "public", name := .text "shops", columns := [{ name := .text "shop" }] }]
    constraints := [ordersShopKey]
    tables_nodup := by decide
    constraints_nodup := by decide }

/-- The same with an index of shops whose own name has a point in it, so that its identifier is that
of the foreign key. -/
def crossedOrders : Snapshot :=
  { keyedOrders with
    indexes := [plainIndex "public" "shops" "orders.shop" ["shop"]]
    indexes_nodup := by decide }

/-- A rule about a table takes the finding about its foreign key away. -/
theorem exclusions_reach_iff_keyedOrders : ∃ found kept,
    foreignKeysWithoutIndex.run keyedOrders {} = .ok found ∧ found.length = 1 ∧
      Exclusions.filterFindings [ordersRule] keyedOrders "foreign_keys_without_index" found =
        .ok kept ∧ kept = [] ∧
      (Exclusions.Reach [ordersRule] keyedOrders {} foreignKeysWithoutIndex found kept ↔
        Exclusions.ReachShadowed [ordersRule] keyedOrders {} foreignKeysWithoutIndex found) := by
  have hruns : (foreignKeysWithoutIndex.run keyedOrders {}).toOption.any (fun found =>
      found.length = 1 && (Exclusions.filterFindings [ordersRule] keyedOrders
        "foreign_keys_without_index" found).toOption.any List.isEmpty) = true := by
    decide +kernel
  obtain ⟨found, hfound, hfilter⟩ := Traversal.exists_ok_of_toOption hruns
  rw [Bool.and_eq_true, decide_eq_true_eq] at hfilter
  obtain ⟨kept, hkept, hempty⟩ := Traversal.exists_ok_of_toOption hfilter.2
  have hcheck : foreignKeysWithoutIndex ∈ builtinChecks := by simp [builtinChecks]
  exact ⟨found, kept, hfound, hfilter.1, hkept, List.isEmpty_iff.1 hempty,
    (exclusions_reach_iff hcheck hfound).2 kept hkept⟩

/-- The rule about orders matches the table that owns the foreign key, but the index of shops is
asked about in its stead, and the finding stays. -/
theorem crossedOrders_not_reached : ∃ found kept,
    foreignKeysWithoutIndex.run crossedOrders {} = .ok found ∧
      Exclusions.filterFindings [ordersRule] crossedOrders "foreign_keys_without_index" found =
        .ok kept ∧
      ¬Exclusions.Reach [ordersRule] crossedOrders {} foreignKeysWithoutIndex found kept := by
  have hruns : (foreignKeysWithoutIndex.run crossedOrders {}).toOption.any (fun found =>
      (Exclusions.filterFindings [ordersRule] crossedOrders
        "foreign_keys_without_index" found).toOption.any fun kept =>
          found = kept && found.length = 1) = true := by
    decide +kernel
  obtain ⟨found, hfound, hfilter⟩ := Traversal.exists_ok_of_toOption hruns
  obtain ⟨kept, hkept, hall⟩ := Traversal.exists_ok_of_toOption hfilter
  rw [Bool.and_eq_true, decide_eq_true_eq, decide_eq_true_eq] at hall
  obtain ⟨f, rfl⟩ := List.length_eq_one_iff.1 hall.2
  have hf : f ∈ kept := hall.1 ▸ List.mem_singleton_self f
  have hbuilt : f.BuiltFrom crossedOrders {} (.constraint ordersShopKey) := by
    obtain ⟨key, hkey, hbuilt, -⟩ := exists_builtFrom_key hfound (List.mem_singleton_self f)
    cases List.mem_singleton.1 hkey
    exact hbuilt
  have hdescribed : Exclusions.Describe [ordersRule] "foreign_keys_without_index"
      (some crossedOrders) (.constraint ordersShopKey) :=
    ⟨ordersRule, List.mem_singleton_self _, rfl, .table crossedOrders.tables[0],
      by decide, by decide⟩
  refine ⟨[f], kept, hfound, hkept, fun hreach => ?_⟩
  exact hreach (.constraint ordersShopKey) (by decide) rfl hdescribed f
    (List.mem_singleton_self f) hbuilt hf

end CatalogHealth
