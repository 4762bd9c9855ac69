import Mathlib.Data.List.Forall2
import Mathlib.Data.List.Perm.Basic

/-!
# Traversals that may fail

A check asks one object after the other for its findings, and the first fault ends it.
Such a traversal succeeds exactly when every step does, and its answer pairs each element with
its own result. A fault of the whole is that of some step; which of several faults comes first
is outside the scope of this module.
-/

namespace CatalogHealth.Traversal

variable {ε α β : Type}

/-- What follows a step only matters for the result of the step. -/
theorem bind_congr {x : Except ε α} {f g : α → Except ε β} (h : ∀ a, x = .ok a → f a = g a) :
    (x >>= f) = x >>= g := by
  cases x with
  | error fault => rfl
  | ok a => exact h a rfl

/-- Two steps in sequence succeed exactly when both do. -/
theorem bind_eq_ok {x : Except ε α} {f : α → Except ε β} {b : β} :
    (x >>= f) = .ok b ↔ ∃ a, x = .ok a ∧ f a = .ok b := by
  cases x with
  | error fault => simp [bind, Except.bind]
  | ok a => simp [bind, Except.bind]

/-- Two steps in a row fail with the first one, or with the second one after the first one. -/
theorem bind_eq_error {x : Except ε α} {f : α → Except ε β} {fault : ε} :
    (x >>= f) = .error fault ↔ x = .error fault ∨ ∃ a, x = .ok a ∧ f a = .error fault := by
  cases x with
  | error other => simp [bind, Except.bind]
  | ok a => simp [bind, Except.bind]

/-- Two steps in a row have a result exactly if the second one has one after the first one. -/
theorem exists_bind_iff {x : Except ε α} {f : α → Except ε β} :
    (∃ b, (x >>= f) = .ok b) ↔ ∃ a, x = .ok a ∧ ∃ b, f a = .ok b := by
  simp only [bind_eq_ok]
  exact ⟨fun ⟨b, a, hx, hf⟩ => ⟨a, hx, b, hf⟩, fun ⟨a, hx, b, hf⟩ => ⟨b, a, hx, hf⟩⟩

/-- A value that is handed on is a result. -/
theorem exists_pure_iff {a : α} : (∃ b, (pure a : Except ε α) = .ok b) ↔ True :=
  iff_of_true ⟨a, rfl⟩ trivial

/-- A value that is only given under a condition is a result exactly if the condition holds. -/
theorem exists_ite_iff {p : Prop} [Decidable p] {a : α} {fault : ε} :
    (∃ b, (if p then .ok a else .error fault : Except ε α) = .ok b) ↔ p := by
  by_cases h : p
  · rw [if_pos h]
    exact iff_of_true ⟨a, rfl⟩ h
  · rw [if_neg h]
    exact iff_of_false (by rintro ⟨b, ⟨⟩⟩) h

/-- What follows a value that is only given under a condition follows under the condition. -/
theorem ite_bind {p : Prop} [Decidable p] {a : α} {fault : ε} {f : α → Except ε β} :
    ((if p then .ok a else .error fault : Except ε α) >>= f) =
      if p then f a else .error fault := by
  by_cases h : p
  · rw [if_pos h, if_pos h]
    rfl
  · rw [if_neg h, if_neg h]
    rfl

/-- A step whose result is not used only has to have one. -/
theorem discard_bind_eq_ok {x : Except ε α} {f : PUnit → Except ε β} {b : β} :
    (discard x >>= f) = .ok b ↔ (∃ a, x = .ok a) ∧ f ⟨⟩ = .ok b := by
  cases x with
  | error fault => exact iff_of_false (by rintro ⟨⟩) (by rintro ⟨⟨a, ⟨⟩⟩, -⟩)
  | ok a => exact ⟨fun h => ⟨⟨a, rfl⟩, h⟩, fun h => h.2⟩

/-- A step whose result is changed afterwards succeeds exactly when the step does. -/
theorem map_eq_ok {x : Except ε α} {f : α → β} {b : β} :
    x.map f = .ok b ↔ ∃ a, x = .ok a ∧ f a = b := by
  cases x with
  | error fault => simp [Except.map]
  | ok a => simp [Except.map]

/-- A value that is handed on is the result. -/
theorem pure_eq_ok {a b : α} : (pure a : Except ε α) = .ok b ↔ a = b := by
  simp [pure, Except.pure]

/-- A step whose result, where there is one, has some property has a result. -/
theorem exists_ok_of_toOption {x : Except ε α} {p : α → Bool} (h : x.toOption.any p = true) :
    ∃ a, x = .ok a ∧ p a = true := by
  cases x with
  | error fault => simp [Except.toOption] at h
  | ok a => exact ⟨a, rfl, by simpa [Except.toOption] using h⟩

/-- A traversal succeeds exactly when each element has its own result at its own place. -/
theorem mapM_eq_ok {f : α → Except ε β} {xs : List α} {ys : List β} :
    xs.mapM f = .ok ys ↔ List.Forall₂ (fun x y => f x = .ok y) xs ys := by
  induction xs generalizing ys with
  | nil =>
    rw [List.mapM_nil, pure_eq_ok, List.forall₂_nil_left_iff]
    exact eq_comm
  | cons x rest ih =>
    rw [List.mapM_cons, bind_eq_ok, List.forall₂_cons_left_iff]
    constructor
    · rintro ⟨y, hy, h⟩
      obtain ⟨tail, htail, hys⟩ := bind_eq_ok.1 h
      exact ⟨y, tail, hy, ih.1 htail, (pure_eq_ok.1 hys).symm⟩
    · rintro ⟨y, tail, hy, htail, rfl⟩
      exact ⟨y, hy, bind_eq_ok.2 ⟨tail, ih.2 htail, rfl⟩⟩

/-- A result of a traversal is the result of some element. -/
theorem exists_source_of_mem {f : α → Except ε β} {xs : List α} {ys : List β}
    (h : xs.mapM f = .ok ys) {y : β} (hy : y ∈ ys) : ∃ x ∈ xs, f x = .ok y := by
  have pairs := mapM_eq_ok.1 h
  clear h
  induction pairs with
  | nil => simp at hy
  | cons hx _ ih =>
    rcases List.mem_cons.1 hy with rfl | hy
    · exact ⟨_, List.mem_cons_self .., hx⟩
    · obtain ⟨x, hmem, hx⟩ := ih hy
      exact ⟨x, List.mem_cons_of_mem _ hmem, hx⟩

/-- Each element of a traversal has its result in the answer. -/
theorem exists_result_of_mem {f : α → Except ε β} {xs : List α} {ys : List β}
    (h : xs.mapM f = .ok ys) {x : α} (hx : x ∈ xs) : ∃ y ∈ ys, f x = .ok y := by
  have pairs := mapM_eq_ok.1 h
  clear h
  induction pairs with
  | nil => simp at hx
  | cons hy _ ih =>
    rcases List.mem_cons.1 hx with rfl | hx
    · exact ⟨_, List.mem_cons_self .., hy⟩
    · obtain ⟨y, hmem, hy⟩ := ih hx
      exact ⟨y, List.mem_cons_of_mem _ hmem, hy⟩

/-- A traversal each of whose steps succeeds has an answer. -/
theorem exists_mapM {f : α → Except ε β} {xs : List α} (h : ∀ x ∈ xs, ∃ y, f x = .ok y) :
    ∃ ys, xs.mapM f = .ok ys := by
  induction xs with
  | nil => exact ⟨[], rfl⟩
  | cons x rest ih =>
    obtain ⟨y, hy⟩ := h x (List.mem_cons_self ..)
    obtain ⟨ys, hys⟩ := ih fun z hz => h z (List.mem_cons_of_mem _ hz)
    exact ⟨y :: ys, mapM_eq_ok.2 (.cons hy (mapM_eq_ok.1 hys))⟩

/-- A traversal has an answer exactly when each of its steps has. -/
theorem exists_mapM_iff {f : α → Except ε β} {xs : List α} :
    (∃ ys, xs.mapM f = .ok ys) ↔ ∀ x ∈ xs, ∃ y, f x = .ok y := by
  constructor
  · rintro ⟨ys, h⟩ x hx
    obtain ⟨y, -, hy⟩ := exists_result_of_mem h hx
    exact ⟨y, hy⟩
  · exact exists_mapM

/-- What a traversal gathers comes from its elements, and all that they yield is in it. -/
theorem mem_gathered {f : α → Except ε (List β)} {xs : List α} {all : List β}
    (h : (xs.mapM f).map List.flatten = .ok all) {z : β} :
    z ∈ all ↔ ∃ x ∈ xs, ∃ found, f x = .ok found ∧ z ∈ found := by
  obtain ⟨founds, hfounds, rfl⟩ := map_eq_ok.1 h
  rw [List.mem_flatten]
  constructor
  · rintro ⟨found, hfound, hz⟩
    obtain ⟨x, hx, hfx⟩ := exists_source_of_mem hfounds hfound
    exact ⟨x, hx, found, hfx, hz⟩
  · rintro ⟨x, hx, found, hfx, hz⟩
    obtain ⟨found', hmem, hfx'⟩ := exists_result_of_mem hfounds hx
    have same : found = found' := Except.ok.inj (hfx.symm.trans hfx')
    exact ⟨found', hmem, same ▸ hz⟩

/-- If each step yields an element exactly for a reason, the traversal gathers it exactly for
the reason that some step has. -/
theorem mem_gathered_iff {f : α → Except ε (List β)} {xs : List α} {all : List β} {z : β}
    {reason : α → Prop} (h : (xs.mapM f).map List.flatten = .ok all)
    (hstep : ∀ x ∈ xs, ∀ found, f x = .ok found → (z ∈ found ↔ reason x)) :
    z ∈ all ↔ ∃ x ∈ xs, reason x := by
  rw [mem_gathered h]
  constructor
  · rintro ⟨x, hx, found, hfound, hz⟩
    exact ⟨x, hx, (hstep x hx found hfound).1 hz⟩
  · rintro ⟨x, hx, hreason⟩
    obtain ⟨founds, hfounds, -⟩ := map_eq_ok.1 h
    obtain ⟨found, -, hfound⟩ := exists_result_of_mem hfounds hx
    exact ⟨x, hx, found, hfound, (hstep x hx found hfound).2 hreason⟩

/-- A traversal that gathers has an answer exactly when each of its steps has. -/
theorem exists_gathered {f : α → Except ε (List β)} {xs : List α} :
    (∃ all, (xs.mapM f).map List.flatten = .ok all) ↔ ∀ x ∈ xs, ∃ found, f x = .ok found := by
  constructor
  · rintro ⟨all, h⟩ x hx
    obtain ⟨founds, hfounds, -⟩ := map_eq_ok.1 h
    obtain ⟨found, -, hfx⟩ := exists_result_of_mem hfounds hx
    exact ⟨found, hfx⟩
  · intro h
    obtain ⟨founds, hfounds⟩ := exists_mapM h
    exact ⟨founds.flatten, map_eq_ok.2 ⟨founds, hfounds, rfl⟩⟩

/-- What a traversal gathers has distinct keys if what each step yields has, and no two steps
yield a key in common. -/
theorem nodup_gathered {γ : Type} {key : β → γ} {f : α → Except ε (List β)} {xs : List α}
    {all : List β} (h : (xs.mapM f).map List.flatten = .ok all)
    (hstep : ∀ x ∈ xs, ∀ found, f x = .ok found → (found.map key).Nodup)
    (hcross : xs.Pairwise fun x y => ∀ found found', f x = .ok found → f y = .ok found' →
      ∀ z ∈ found, ∀ z' ∈ found', key z ≠ key z') : (all.map key).Nodup := by
  obtain ⟨founds, hfounds, rfl⟩ := map_eq_ok.1 h
  clear h
  induction xs generalizing founds with
  | nil =>
    cases pure_eq_ok.1 hfounds
    exact List.nodup_nil
  | cons x rest ih =>
    obtain ⟨hx, hrest⟩ := List.pairwise_cons.1 hcross
    rw [mapM_eq_ok, List.forall₂_cons_left_iff] at hfounds
    obtain ⟨found, others, hfound, hothers, rfl⟩ := hfounds
    have hgathered : (rest.mapM f).map List.flatten = .ok others.flatten :=
      map_eq_ok.2 ⟨others, mapM_eq_ok.2 hothers, rfl⟩
    rw [List.flatten_cons, List.map_append, List.nodup_append]
    refine ⟨hstep x (List.mem_cons_self ..) found hfound, ?_, ?_⟩
    · exact ih (fun y hy => hstep y (List.mem_cons_of_mem _ hy)) hrest others
        (mapM_eq_ok.2 hothers)
    · intro k hk k' hk'
      obtain ⟨z, hz, rfl⟩ := List.mem_map.1 hk
      obtain ⟨z', hz', rfl⟩ := List.mem_map.1 hk'
      obtain ⟨y, hy, found', hfound', hmem⟩ := (mem_gathered hgathered).1 hz'
      exact hx y hy found found' hfound hfound' z hz z' hmem

/-- In another order a traversal has the same results in another order. -/
theorem exists_mapM_of_perm {f : α → Except ε β} {xs ys : List α} (hperm : xs.Perm ys)
    {rs : List β} (h : ys.mapM f = .ok rs) : ∃ results, xs.mapM f = .ok results ∧
      results.Perm rs := by
  obtain ⟨results, hresults, hsame⟩ := List.perm_comp_forall₂ hperm (mapM_eq_ok.1 h)
  exact ⟨results, mapM_eq_ok.2 hresults, hsame⟩

/-- A traversal whose steps all have results has these. -/
theorem mapM_eq_map {f : α → Except ε β} {g : α → β} {xs : List α} (h : ∀ x ∈ xs, f x = .ok (g x)) :
    xs.mapM f = .ok (xs.map g) := by
  rw [mapM_eq_ok, List.forall₂_map_right_iff, List.forall₂_same]
  exact h

/-- A traversal of images whose steps all have results has these. -/
theorem mapM_map_eq_map {γ : Type} {f : β → Except ε γ} {image : α → β} {g : α → γ} {xs : List α}
    (h : ∀ x ∈ xs, f (image x) = .ok (g x)) : (xs.map image).mapM f = .ok (xs.map g) := by
  rw [List.mapM_map]
  exact mapM_eq_map h

/-- Traversals whose steps agree on the elements have the same answer. -/
theorem mapM_congr {f g : α → Except ε β} {xs : List α} (h : ∀ x ∈ xs, f x = g x) :
    xs.mapM f = xs.mapM g := by
  induction xs with
  | nil => rfl
  | cons x rest ih =>
    obtain ⟨hx, hrest⟩ := List.forall_mem_cons.1 h
    rw [List.mapM_cons, List.mapM_cons, hx, ih hrest]

/-- A traversal over two lists, given in any order, gathers what traversals gather that take the
same steps over one list each. -/
theorem exists_gathered_of_perm {f g h : α → Except ε (List β)} {xs ys zs : List α}
    {all : List β} (hperm : xs.Perm (ys ++ zs)) (hg : ∀ y ∈ ys, g y = f y)
    (hh : ∀ z ∈ zs, h z = f z) (hall : (xs.mapM f).map List.flatten = .ok all) :
    ∃ first second, (ys.mapM g).map List.flatten = .ok first ∧
      (zs.mapM h).map List.flatten = .ok second ∧ all.Perm (first ++ second) := by
  obtain ⟨founds, hfounds, rfl⟩ := map_eq_ok.1 hall
  obtain ⟨parts, hparts, hsame⟩ := exists_mapM_of_perm hperm.symm hfounds
  rw [List.mapM_append] at hparts
  obtain ⟨first, hfirst, hparts⟩ := bind_eq_ok.1 hparts
  obtain ⟨second, hsecond, hparts⟩ := bind_eq_ok.1 hparts
  obtain rfl := pure_eq_ok.1 hparts
  refine ⟨first.flatten, second.flatten, ?_, ?_, ?_⟩
  · rw [mapM_congr hg, hfirst]
    rfl
  · rw [mapM_congr hh, hsecond]
    rfl
  · rw [← List.flatten_append]
    exact hsame.symm.flatten

/-- Each result of a traversal may be changed at its own step or afterwards. -/
theorem mapM_map_results {γ : Type} {f : α → Except ε β} {g : β → γ} (xs : List α) :
    (xs.mapM fun x => (f x).map g) = (xs.mapM f).map (List.map g) := by
  induction xs with
  | nil => rfl
  | cons x rest ih =>
    rw [List.mapM_cons, List.mapM_cons, ih]
    cases f x with
    | error fault => rfl
    | ok y =>
      cases rest.mapM f with
      | error fault => rfl
      | ok ys => rfl

/-- The fault of a traversal is that of one of its steps. -/
theorem exists_fault_of_mapM {f : α → Except ε β} {xs : List α} {fault : ε}
    (h : xs.mapM f = .error fault) : ∃ x ∈ xs, f x = .error fault := by
  induction xs with
  | nil => cases h
  | cons x rest ih =>
    rw [List.mapM_cons] at h
    cases hx : f x with
    | error other =>
      rw [hx] at h
      cases h
      exact ⟨x, List.mem_cons_self .., hx⟩
    | ok y =>
      cases hrest : rest.mapM f with
      | error other =>
        rw [hx, hrest] at h
        cases h
        obtain ⟨z, hz, hfault⟩ := ih hrest
        exact ⟨z, List.mem_cons_of_mem _ hz, hfault⟩
      | ok ys =>
        rw [hx, hrest] at h
        cases h

/-- The fault of a search is that of one of its steps. -/
theorem exists_fault_of_anyM {f : α → Except ε Bool} {xs : List α} {fault : ε}
    (h : xs.anyM f = .error fault) : ∃ x ∈ xs, f x = .error fault := by
  induction xs with
  | nil => cases h
  | cons x rest ih =>
    rw [List.anyM_cons] at h
    cases hx : f x with
    | error other =>
      rw [hx] at h
      cases h
      exact ⟨x, List.mem_cons_self .., hx⟩
    | ok answer =>
      rw [hx] at h
      cases answer with
      | true => cases h
      | false =>
        obtain ⟨z, hz, hfault⟩ := ih h
        exact ⟨z, List.mem_cons_of_mem _ hz, hfault⟩

/-- A search each of whose steps has an answer has one. -/
theorem exists_anyM {f : α → Except ε Bool} {xs : List α} (h : ∀ x ∈ xs, ∃ b, f x = .ok b) :
    ∃ b, xs.anyM f = .ok b := by
  cases hsearch : xs.anyM f with
  | ok b => exact ⟨b, rfl⟩
  | error fault =>
    obtain ⟨x, hx, hfault⟩ := exists_fault_of_anyM hsearch
    obtain ⟨b, hb⟩ := h x hx
    cases hfault.symm.trans hb

/-- A search finds nothing exactly when every step finds nothing. -/
theorem anyM_eq_false_iff {f : α → Except ε Bool} {xs : List α} :
    xs.anyM f = .ok false ↔ ∀ x ∈ xs, f x = .ok false := by
  induction xs with
  | nil => simp [pure, Except.pure]
  | cons x rest ih =>
    rw [List.anyM_cons, bind_eq_ok, List.forall_mem_cons]
    constructor
    · rintro ⟨answer, hx, hrest⟩
      cases answer with
      | true => cases pure_eq_ok.1 hrest
      | false => exact ⟨hx, ih.1 hrest⟩
    · rintro ⟨hx, hrest⟩
      exact ⟨false, hx, ih.2 hrest⟩

/-- A search whose steps answer or fail has an answer exactly if no step fails before one of them
finds something. -/
theorem exists_anyM_iff {f : α → Except ε Bool} {answers : α → Prop} {finds : α → Bool}
    (hstep : ∀ x b, f x = .ok b ↔ answers x ∧ finds x = b) {xs : List α} :
    (∃ b, xs.anyM f = .ok b) ↔ ∀ front x back, xs = front ++ x :: back →
      (∀ y ∈ front, finds y = false) → answers x := by
  induction xs with
  | nil =>
    refine iff_of_true ⟨false, rfl⟩ fun front x back hnil _ => ?_
    simp at hnil
  | cons x rest ih =>
    rw [List.anyM_cons, exists_bind_iff]
    constructor
    · rintro ⟨answer, hx, hrest⟩ front y back hsplit hfront
      obtain ⟨hanswers, rfl⟩ := (hstep x answer).1 hx
      obtain _ | ⟨first, others⟩ := front
      · obtain ⟨rfl, -⟩ := List.cons.inj hsplit
        exact hanswers
      · obtain ⟨rfl, hback⟩ := List.cons.inj hsplit
        obtain ⟨hfirst, hothers⟩ := List.forall_mem_cons.1 hfront
        rw [hfirst] at hrest
        exact ih.1 hrest others y back hback hothers
    · intro h
      have hanswers := h [] x rest rfl (by simp)
      refine ⟨finds x, (hstep x _).2 ⟨hanswers, rfl⟩, ?_⟩
      cases hfound : finds x with
      | true => exact ⟨true, rfl⟩
      | false =>
        refine ih.2 fun front y back hsplit hfront => ?_
        exact h (x :: front) y back (by rw [hsplit]; rfl)
          (List.forall_mem_cons.2 ⟨hfound, hfront⟩)

/-- A search finds something only if one of its steps does. -/
theorem exists_of_anyM_eq_true {f : α → Except ε Bool} {xs : List α}
    (h : xs.anyM f = .ok true) : ∃ x ∈ xs, f x = .ok true := by
  induction xs with
  | nil => cases pure_eq_ok.1 h
  | cons x rest ih =>
    rw [List.anyM_cons] at h
    obtain ⟨answer, hx, hrest⟩ := bind_eq_ok.1 h
    cases answer with
    | true => exact ⟨x, List.mem_cons_self .., hx⟩
    | false =>
      obtain ⟨y, hy, hfound⟩ := ih hrest
      exact ⟨y, List.mem_cons_of_mem _ hy, hfound⟩

/-- If each answer says whether a step has a reason, the answer of a search says whether some
step has one. -/
theorem anyM_eq_ok_iff {f : α → Except ε Bool} {xs : List α} {reason : α → Prop} {b : Bool}
    (h : xs.anyM f = .ok b) (hstep : ∀ x ∈ xs, ∀ c, f x = .ok c → (c = true ↔ reason x)) :
    b = true ↔ ∃ x ∈ xs, reason x := by
  cases b with
  | true =>
    obtain ⟨x, hx, hfound⟩ := exists_of_anyM_eq_true h
    exact iff_of_true rfl ⟨x, hx, (hstep x hx true hfound).1 rfl⟩
  | false =>
    refine iff_of_false Bool.false_ne_true ?_
    rintro ⟨x, hx, hreason⟩
    exact Bool.false_ne_true ((hstep x hx false (anyM_eq_false_iff.1 h x hx)).2 hreason)

/-- The order of elements does not matter to a search each of whose steps has an answer. -/
theorem anyM_eq_of_perm {f : α → Except ε Bool} {xs ys : List α} (hperm : xs.Perm ys)
    (h : ∀ x ∈ xs, ∃ b, f x = .ok b) : xs.anyM f = ys.anyM f := by
  obtain ⟨b, hb⟩ := exists_anyM h
  obtain ⟨c, hc⟩ := exists_anyM fun y hy => h y (hperm.mem_iff.2 hy)
  have hfound : ∀ {zs : List α} {d : Bool}, zs.anyM f = .ok d →
      (d = true ↔ ∃ z ∈ zs, f z = .ok true) :=
    fun hd => anyM_eq_ok_iff hd fun z _ e he => by simp [he]
  have hsame : b = c := by
    rw [Bool.eq_iff_iff, hfound hb, hfound hc]
    simp only [hperm.mem_iff]
  rw [hb, hc, hsame]

/-- A search goes on in a second list only if it finds nothing in the first one. -/
theorem anyM_append {f : α → Except ε Bool} (xs ys : List α) :
    (xs ++ ys).anyM f = (do if ← xs.anyM f then return true else ys.anyM f) := by
  induction xs with
  | nil => rfl
  | cons x rest ih =>
    rw [List.cons_append, List.anyM_cons, List.anyM_cons, ih, bind_assoc]
    refine congrArg (f x >>= ·) (funext fun answer => ?_)
    cases answer with
    | true => rfl
    | false => rfl

/-- A search in which each step asks two questions finds what either search finds. -/
theorem anyM_either {f g : α → Except ε Bool} {xs : List α} {b c : Bool}
    (hf : xs.anyM f = .ok b) (hg : xs.anyM g = .ok c) :
    (xs.anyM fun x => do if ← f x then return true else g x) = .ok (b || c) := by
  induction xs with
  | nil =>
    cases pure_eq_ok.1 hf
    cases pure_eq_ok.1 hg
    rfl
  | cons x rest ih =>
    rw [List.anyM_cons] at hf hg ⊢
    obtain ⟨first, hfx, hf⟩ := bind_eq_ok.1 hf
    obtain ⟨second, hgx, hg⟩ := bind_eq_ok.1 hg
    rw [hfx, hgx] at *
    cases first with
    | true =>
      cases pure_eq_ok.1 hf
      rfl
    | false =>
      cases second with
      | true =>
        cases pure_eq_ok.1 hg
        simp [bind, Except.bind, pure, Except.pure]
      | false => exact ih hf hg

section Failures

variable {κ : Type} (classify : ε → κ)

/-- The class of the fault with which a run ends, if it does not succeed. -/
def failure (x : Except ε α) : Option κ :=
  match x with
  | .ok _ => none
  | .error fault => some (classify fault)

variable {classify}

theorem failure_eq_none_iff {x : Except ε α} : failure classify x = none ↔ ∃ a, x = .ok a := by
  cases x with
  | error fault => exact iff_of_false (by rintro ⟨⟩) (by rintro ⟨a, ⟨⟩⟩)
  | ok a => exact iff_of_true rfl ⟨a, rfl⟩

theorem failure_eq_some_iff {x : Except ε α} {kind : κ} :
    failure classify x = some kind ↔ ∃ fault, x = .error fault ∧ classify fault = kind := by
  cases x with
  | error fault => simp [failure]
  | ok a => simp [failure]

/-- Two runs in a row fail with the first one or, if that succeeds, with the second one, whose
failure is often the same whatever the first one found. -/
theorem failure_bind {x : Except ε α} {f : α → Except ε β} {rest : Option κ}
    (h : ∀ a, x = .ok a → failure classify (f a) = rest) :
    failure classify (x >>= f) = (failure classify x).or rest := by
  cases x with
  | error fault => rfl
  | ok a => exact h a rfl

theorem failure_pure {a : α} : failure classify (pure a : Except ε α) = none := rfl

/-- A run whose result is changed afterwards fails as it does. -/
theorem failure_map {x : Except ε α} {f : α → β} :
    failure classify (f <$> x) = failure classify x := by
  cases x with
  | error fault => rfl
  | ok a => rfl

/-- A run whose fault is told in other words fails with the class of the new words. -/
theorem failure_mapError {x : Except ε α} {f : ε → ε} :
    failure classify (x.mapError f) = failure (fun fault => classify (f fault)) x := by
  cases x with
  | error fault => rfl
  | ok a => rfl

/-- A traversal fails with its first step that fails. -/
theorem failure_mapM {f : α → Except ε β} {xs : List α} :
    failure classify (xs.mapM f) = xs.findSome? fun x => failure classify (f x) := by
  induction xs with
  | nil => rfl
  | cons x rest ih =>
    rw [List.mapM_cons, List.findSome?_cons, failure_bind fun y _ => (failure_bind fun _ _ =>
      failure_pure).trans (by rw [ih, Option.or_none])]
    cases failure classify (f x) with
    | none => rfl
    | some kind => rfl

end Failures

end CatalogHealth.Traversal
