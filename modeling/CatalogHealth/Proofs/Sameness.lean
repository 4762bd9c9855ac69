import Mathlib.Data.List.Forall2
import CatalogHealth.Check.Redundancy

/-!
# Sameness of values is an equivalence

Values that cannot be told apart form classes, whatever they hold and however deep: sameness
is reflexive, symmetric and transitive on every value, NaN and mappings included. So key
signatures fall into classes as well, and a list of signatures that begins with another one
begins with everything with which that one begins.
-/

namespace CatalogHealth

namespace Number

/-- Sameness of numbers goes both ways. -/
theorem same_symm {x y : Number} (h : x.same y = true) : y.same x = true := by
  simp only [same, decide_eq_true_eq] at h ⊢
  exact h.symm

/-- Numbers that are the same as one number are the same. -/
theorem same_trans {x y z : Number} (hxy : x.same y = true) (hyz : y.same z = true) :
    x.same z = true := by
  simp only [same, decide_eq_true_eq] at hxy hyz ⊢
  exact hxy.trans hyz

/-- Only NaN has no place on the extended line. -/
theorem eq_nan_of_extent? {x : Number} (h : x.extent? = none) : x = .float .nan := by
  rcases x with value | (_ | _ | _)
  · cases h
  · rfl
  · cases h
  · cases h

end Number

namespace Value

/-- What is the same as a number is one of the same extent. -/
theorem same_iff_of_number {a b : Value} {x : Number} (ha : a.number? = some x) :
    same a b = true ↔ ∃ y, b.number? = some y ∧ x.same y = true := by
  cases a <;> cases b <;> simp_all [same, number?]

/-- Only the absent value is the same as the absent value. -/
theorem same_null_iff {b : Value} : same null b = true ↔ b = null := by
  cases b <;> simp [same, number?]

/-- The entries of a mapping are among others if each of them has its like there. -/
theorem entriesAmong_iff {xs ys : List (Value × Value)} :
    entriesAmong xs ys = true ↔ ∀ x ∈ xs, ∃ y ∈ ys, sameEntry x y = true := by
  induction xs with
  | nil => simp [entriesAmong]
  | cons x rest ih => simp [entriesAmong, ih]

/-- A mapping has an entry if one of its own is like it. -/
theorem hasEntry_iff {xs : List (Value × Value)} {entry : Value × Value} :
    hasEntry xs entry = true ↔ ∃ x ∈ xs, sameEntry x entry = true := by
  induction xs with
  | nil => simp [hasEntry]
  | cons x rest ih => simp [hasEntry, ih]

/-- What is the same as a list is a list of the same members. -/
theorem same_list_iff {xs : List Value} {b : Value} :
    same (list xs) b = true ↔ ∃ ys, b = list ys ∧ sameItems xs ys = true := by
  cases b <;> simp [same, number?]

/-- What is the same as a mapping is a mapping such that each entry of either has its like in
the other. -/
theorem same_map_iff {xs : List (Value × Value)} {b : Value} :
    same (map xs) b = true ↔ ∃ ys, b = map ys ∧
      (∀ x ∈ xs, ∃ y ∈ ys, sameEntry x y = true) ∧ ∀ y ∈ ys, ∃ x ∈ xs, sameEntry x y = true := by
  cases b <;> simp [same, number?, entriesAmong_iff, hasEntry_iff]

mutual

/-- Every value is the same as itself. -/
theorem same_refl : ∀ a : Value, same a a = true
  | null => rfl
  | bool _ => (same_iff_of_number rfl).2 ⟨_, rfl, Number.same_refl _⟩
  | int _ => (same_iff_of_number rfl).2 ⟨_, rfl, Number.same_refl _⟩
  | float _ => (same_iff_of_number rfl).2 ⟨_, rfl, Number.same_refl _⟩
  | text _ => by simp [same]
  | list xs => by simpa [same] using sameItems_refl xs
  | map xs => by
    have h := sameEntries_refl xs
    exact same_map_iff.2 ⟨xs, rfl, fun x hx => ⟨x, hx, h x hx⟩, fun x hx => ⟨x, hx, h x hx⟩⟩

theorem sameItems_refl : ∀ xs : List Value, sameItems xs xs = true
  | [] => rfl
  | x :: xs => by simp [sameItems, same_refl x, sameItems_refl xs]

theorem sameEntries_refl : ∀ xs : List (Value × Value), ∀ x ∈ xs, sameEntry x x = true
  | [] => by simp
  | x :: xs => by simpa [sameEntry_refl x] using sameEntries_refl xs

theorem sameEntry_refl : ∀ x : Value × Value, sameEntry x x = true
  | (key, value) => by simp [sameEntry, same_refl key, same_refl value]

end

mutual

/-- Sameness goes both ways. -/
theorem same_symm : ∀ a b : Value, same a b = true → same b a = true
  | null, _ => fun h => by
    rw [same_null_iff.1 h]
    exact same_refl null
  | bool _, _ => fun h => by
    obtain ⟨y, hb, hy⟩ := (same_iff_of_number rfl).1 h
    exact (same_iff_of_number hb).2 ⟨_, rfl, Number.same_symm hy⟩
  | int _, _ => fun h => by
    obtain ⟨y, hb, hy⟩ := (same_iff_of_number rfl).1 h
    exact (same_iff_of_number hb).2 ⟨_, rfl, Number.same_symm hy⟩
  | float _, _ => fun h => by
    obtain ⟨y, hb, hy⟩ := (same_iff_of_number rfl).1 h
    exact (same_iff_of_number hb).2 ⟨_, rfl, Number.same_symm hy⟩
  | text s, b => fun h => by
    have hb : text s = b := by simpa [same_text] using h
    rw [← hb]
    exact same_refl _
  | list xs, _ => fun h => by
    obtain ⟨ys, rfl, hxs⟩ := same_list_iff.1 h
    exact same_list_iff.2 ⟨xs, rfl, sameItems_symm xs ys hxs⟩
  | map xs, _ => fun h => by
    obtain ⟨ys, rfl, hxs, hys⟩ := same_map_iff.1 h
    refine same_map_iff.2 ⟨xs, rfl, fun y hy => ?_, fun x hx => ?_⟩
    · obtain ⟨x, hx, hxy⟩ := hys y hy
      exact ⟨x, hx, sameEntries_symm xs x hx y hxy⟩
    · obtain ⟨y, hy, hxy⟩ := hxs x hx
      exact ⟨y, hy, sameEntries_symm xs x hx y hxy⟩

theorem sameItems_symm :
    ∀ xs ys : List Value, sameItems xs ys = true → sameItems ys xs = true
  | [], ys => by cases ys <;> simp [sameItems]
  | x :: xs, ys => by
    cases ys with
    | nil => simp [sameItems]
    | cons y ys =>
      simp only [sameItems, Bool.and_eq_true]
      exact fun h => ⟨same_symm x y h.1, sameItems_symm xs ys h.2⟩

theorem sameEntries_symm : ∀ xs : List (Value × Value), ∀ x ∈ xs, ∀ y,
    sameEntry x y = true → sameEntry y x = true
  | [] => by simp
  | x :: xs => by
    intro z hz y h
    rcases List.mem_cons.1 hz with hzx | hz
    · rw [hzx] at h ⊢
      exact sameEntry_symm x y h
    · exact sameEntries_symm xs z hz y h

theorem sameEntry_symm :
    ∀ x y : Value × Value, sameEntry x y = true → sameEntry y x = true
  | (key, value), (key', value') => by
    simp only [sameEntry, Bool.and_eq_true]
    exact fun h => ⟨same_symm key key' h.1, same_symm value value' h.2⟩

end

mutual

/-- Values that are the same as one value are the same. -/
theorem same_trans : ∀ a b c : Value, same a b = true → same b c = true → same a c = true
  | null, _, _ => fun hab hbc => same_null_iff.1 hab ▸ hbc
  | bool _, _, _ => fun hab hbc => by
    obtain ⟨y, hb, hy⟩ := (same_iff_of_number rfl).1 hab
    obtain ⟨z, hc, hz⟩ := (same_iff_of_number hb).1 hbc
    exact (same_iff_of_number rfl).2 ⟨z, hc, Number.same_trans hy hz⟩
  | int _, _, _ => fun hab hbc => by
    obtain ⟨y, hb, hy⟩ := (same_iff_of_number rfl).1 hab
    obtain ⟨z, hc, hz⟩ := (same_iff_of_number hb).1 hbc
    exact (same_iff_of_number rfl).2 ⟨z, hc, Number.same_trans hy hz⟩
  | float _, _, _ => fun hab hbc => by
    obtain ⟨y, hb, hy⟩ := (same_iff_of_number rfl).1 hab
    obtain ⟨z, hc, hz⟩ := (same_iff_of_number hb).1 hbc
    exact (same_iff_of_number rfl).2 ⟨z, hc, Number.same_trans hy hz⟩
  | text s, b, _ => fun hab hbc => by
    have hb : text s = b := by simpa [same_text] using hab
    rw [hb]
    exact hbc
  | list xs, _, _ => fun hab hbc => by
    obtain ⟨ys, rfl, hxs⟩ := same_list_iff.1 hab
    obtain ⟨zs, rfl, hys⟩ := same_list_iff.1 hbc
    exact same_list_iff.2 ⟨zs, rfl, sameItems_trans xs ys zs hxs hys⟩
  | map xs, _, _ => fun hab hbc => by
    obtain ⟨ys, rfl, hxy, hyx⟩ := same_map_iff.1 hab
    obtain ⟨zs, rfl, hyz, hzy⟩ := same_map_iff.1 hbc
    refine same_map_iff.2 ⟨zs, rfl, fun x hx => ?_, fun z hz => ?_⟩
    · obtain ⟨y, hy, hx'⟩ := hxy x hx
      obtain ⟨z, hz, hy'⟩ := hyz y hy
      exact ⟨z, hz, sameEntries_trans xs x hx y z hx' hy'⟩
    · obtain ⟨y, hy, hy'⟩ := hzy z hz
      obtain ⟨x, hx, hx'⟩ := hyx y hy
      exact ⟨x, hx, sameEntries_trans xs x hx y z hx' hy'⟩

theorem sameItems_trans : ∀ xs ys zs : List Value,
    sameItems xs ys = true → sameItems ys zs = true → sameItems xs zs = true
  | [], ys, zs => by cases ys <;> simp [sameItems]
  | x :: xs, ys, zs => by
    cases ys with
    | nil => simp [sameItems]
    | cons y ys =>
      cases zs with
      | nil => simp [sameItems]
      | cons z zs =>
        simp only [sameItems, Bool.and_eq_true]
        exact fun hxy hyz =>
          ⟨same_trans x y z hxy.1 hyz.1, sameItems_trans xs ys zs hxy.2 hyz.2⟩

theorem sameEntries_trans : ∀ xs : List (Value × Value), ∀ x ∈ xs, ∀ y z,
    sameEntry x y = true → sameEntry y z = true → sameEntry x z = true
  | [] => by simp
  | x :: xs => by
    intro w hw y z hwy hyz
    rcases List.mem_cons.1 hw with hwx | hw
    · rw [hwx] at hwy ⊢
      exact sameEntry_trans x y z hwy hyz
    · exact sameEntries_trans xs w hw y z hwy hyz

theorem sameEntry_trans : ∀ x y z : Value × Value,
    sameEntry x y = true → sameEntry y z = true → sameEntry x z = true
  | (key, value), (key', value'), z => by
    simp only [sameEntry, Bool.and_eq_true]
    exact fun hxy hyz =>
      ⟨same_trans key key' z.1 hxy.1 hyz.1, same_trans value value' z.2 hxy.2 hyz.2⟩

end

/-- Only NaN is the same as NaN. -/
theorem eq_nan_of_same {a : Value} (h : same a (.float .nan) = true) : a = .float .nan := by
  obtain ⟨y, ha, hy⟩ := (same_iff_of_number rfl).1 (same_symm a (.float .nan) h)
  have hnan : y = .float .nan := Number.eq_nan_of_extent? (of_decide_eq_true hy).symm
  rw [hnan] at ha
  cases a <;> simp_all [number?]

/-- Equality of operands goes both ways. -/
theorem equals_symm {a b : Value} (h : equals a b = true) : equals b a = true := by
  simp only [equals, Bool.and_eq_true, bne_iff_ne] at h ⊢
  refine ⟨fun hb => h.1 (eq_nan_of_same (hb ▸ h.2)), same_symm a b h.2⟩

/-- Operands that equal one operand are equal. -/
theorem equals_trans {a b c : Value} (hab : equals a b = true) (hbc : equals b c = true) :
    equals a c = true := by
  simp only [equals, Bool.and_eq_true] at hab hbc ⊢
  exact ⟨hab.1, same_trans a b c hab.2 hbc.2⟩

end Value

namespace KeySignature

/-- Every signature is the same as itself. -/
theorem same_refl (a : KeySignature) : a.same a = true := by
  simp [same, Value.same_refl]

/-- Sameness of signatures goes both ways. -/
theorem same_symm {a b : KeySignature} (h : a.same b = true) : b.same a = true := by
  simp only [same, Bool.and_eq_true, beq_iff_eq] at h ⊢
  obtain ⟨⟨⟨⟨hkey, hdescending⟩, hnulls⟩, hopclass⟩, hcollation⟩ := h
  exact ⟨⟨⟨⟨Value.same_symm _ _ hkey, hdescending.symm⟩, Value.same_symm _ _ hnulls⟩,
    Value.same_symm _ _ hopclass⟩, Value.same_symm _ _ hcollation⟩

/-- Signatures that are the same as one signature are the same. -/
theorem same_trans {a b c : KeySignature} (hab : a.same b = true) (hbc : b.same c = true) :
    a.same c = true := by
  simp only [same, Bool.and_eq_true, beq_iff_eq] at hab hbc ⊢
  obtain ⟨⟨⟨⟨hkey, hdescending⟩, hnulls⟩, hopclass⟩, hcollation⟩ := hab
  obtain ⟨⟨⟨⟨hkey', hdescending'⟩, hnulls'⟩, hopclass'⟩, hcollation'⟩ := hbc
  exact ⟨⟨⟨⟨Value.same_trans _ _ _ hkey hkey', hdescending.trans hdescending'⟩,
    Value.same_trans _ _ _ hnulls hnulls'⟩, Value.same_trans _ _ _ hopclass hopclass'⟩,
    Value.same_trans _ _ _ hcollation hcollation'⟩

/-- Lists of signatures are the same if they are so place by place. -/
theorem allSame_iff {as bs : List KeySignature} :
    allSame as bs = true ↔ List.Forall₂ (fun a b => a.same b = true) as bs := by
  induction as generalizing bs with
  | nil => cases bs <;> simp [allSame]
  | cons a as ih => cases bs <;> simp [allSame, ih]

/-- Lists of the same signatures are as long as each other. -/
theorem length_eq_of_allSame {as bs : List KeySignature} (h : allSame as bs = true) :
    as.length = bs.length := (allSame_iff.1 h).length_eq

/-- Sameness of lists of signatures goes both ways. -/
theorem allSame_symm {as bs : List KeySignature} (h : allSame as bs = true) :
    allSame bs as = true :=
  allSame_iff.2 (((allSame_iff.1 h).imp fun _ _ hab => same_symm hab).flip)

/-- Lists of signatures that are the same as one list are the same. -/
theorem allSame_trans {as bs cs : List KeySignature} (hab : allSame as bs = true)
    (hbc : allSame bs cs = true) : allSame as cs = true := by
  induction as generalizing bs cs with
  | nil => cases bs <;> cases cs <;> simp_all [allSame]
  | cons a as ih =>
    cases bs with
    | nil => simp [allSame] at hab
    | cons b bs =>
      cases cs with
      | nil => simp [allSame] at hbc
      | cons c cs =>
        simp only [allSame, Bool.and_eq_true] at hab hbc ⊢
        exact ⟨same_trans hab.1 hbc.1, ih hab.2 hbc.2⟩

/-- Whether a list of signatures begins with another one. -/
def Leads (short long : List KeySignature) : Prop :=
  allSame (long.take short.length) short = true

instance (short long : List KeySignature) : Decidable (Leads short long) :=
  inferInstanceAs (Decidable (_ = true))

/-- The beginning of a list is not longer than it. -/
theorem Leads.length_le {short long : List KeySignature} (h : Leads short long) :
    short.length ≤ long.length := by
  have hlength := length_eq_of_allSame h
  rw [List.length_take] at hlength
  omega

/-- A list of the same signatures is a beginning. -/
theorem leads_of_allSame {as bs : List KeySignature} (h : allSame as bs = true) : Leads bs as := by
  have hlength := length_eq_of_allSame h
  rw [Leads, ← hlength, List.take_length]
  exact h

/-- The beginning of a beginning is a beginning. -/
theorem Leads.trans {as bs cs : List KeySignature} (hab : Leads as bs) (hbc : Leads bs cs) :
    Leads as cs := by
  have hle := hab.length_le
  -- Both lists are cut to the length of the shortest one, where they still agree.
  have hcut : allSame (cs.take as.length) (bs.take as.length) = true := by
    have h := List.forall₂_take as.length (allSame_iff.1 hbc)
    rw [List.take_take, Nat.min_eq_left hle] at h
    exact allSame_iff.2 h
  exact allSame_trans hcut hab

end KeySignature

end CatalogHealth
