import Mathlib.Data.List.Nodup
import CatalogHealth.Finding.Order

/-!
# What sorting forgets and what it keeps

Objects with distinct identifiers are sorted and looked up alike in whatever order they are
given. What a report leaves out by the key of a finding may be left out before or after the
first finding about each thing is chosen and sorted in. Objects that share an identifier are
outside the scope of this module.
-/

namespace CatalogHealth

section Sorting

variable {α : Type} {le : α → α → Bool}

/-- An element that is put into an ascending list may be left out before or after. -/
theorem filter_insertBy (trans : ∀ a b c, le a b = true → le b c = true → le a c = true)
    (p : α → Bool) (x : α) {xs : List α} (h : xs.Pairwise fun a b => le a b = true) :
    (insertBy le x xs).filter p =
      if p x then insertBy le x (xs.filter p) else xs.filter p := by
  induction xs with
  | nil => simp [insertBy, List.filter_cons]
  | cons y rest ih =>
    obtain ⟨hy, hrest⟩ := List.pairwise_cons.1 h
    -- If the element goes to the front, it goes to the front of what is left as well.
    have hfront : ∀ zs : List α, (∀ z ∈ zs, le x z = true) → insertBy le x zs = x :: zs := by
      intro zs hzs
      cases zs with
      | nil => rfl
      | cons z others => simp [insertBy, hzs z]
    by_cases hxy : le x y = true
    · have hall : ∀ z ∈ (y :: rest).filter p, le x z = true := by
        intro z hz
        rcases List.mem_cons.1 (List.mem_filter.1 hz).1 with rfl | hmem
        · exact hxy
        · exact trans x y z hxy (hy z hmem)
      rw [insertBy, if_pos hxy, List.filter_cons, hfront _ hall]
    · rw [insertBy, if_neg hxy, List.filter_cons, ih hrest, List.filter_cons]
      cases hp : p y with
      | false => simp
      | true =>
        cases p x with
        | false => simp
        | true => simp [insertBy, hxy]

/-- Leaving elements out and sorting the others can be done in either order. -/
theorem filter_sortBy (trans : ∀ a b c, le a b = true → le b c = true → le a c = true)
    (total : ∀ a b, le a b = true ∨ le b a = true) (p : α → Bool) (xs : List α) :
    (sortBy le xs).filter p = sortBy le (xs.filter p) := by
  induction xs with
  | nil => rfl
  | cons x rest ih =>
    rw [sortBy, filter_insertBy trans p x (sortBy_pairwise trans total rest), List.filter_cons, ih]
    cases p x with
    | false => rfl
    | true => rfl

/-- Leaving elements out and sorting the others by their texts can be done in either order. -/
theorem filter_sortByText (text : α → Text) (p : α → Bool) (xs : List α) :
    (sortByText text xs).filter p = sortByText text (xs.filter p) :=
  filter_sortBy (fun a b c => textLe_trans (text a) (text b) (text c))
    (fun a b => textLe_total (text a) (text b)) p xs

/-- Elements that are told apart by the order are sorted alike in whatever order they are given. -/
theorem sortBy_eq_of_perm (trans : ∀ a b c, le a b = true → le b c = true → le a c = true)
    (total : ∀ a b, le a b = true ∨ le b a = true) {xs ys : List α} (hperm : xs.Perm ys)
    (antisymm : ∀ a ∈ xs, ∀ b ∈ xs, le a b = true → le b a = true → a = b) :
    sortBy le xs = sortBy le ys := by
  refine List.Perm.eq_of_pairwise (fun a b ha hb hab hba => ?_) (sortBy_pairwise trans total xs)
    (sortBy_pairwise trans total ys) ((sortBy_perm xs).trans (hperm.trans (sortBy_perm ys).symm))
  exact antisymm a (mem_sortBy.1 ha) b (hperm.mem_iff.2 (mem_sortBy.1 hb)) hab hba

/-- What is put in place of elements takes their places if the texts are the same. -/
theorem sortByText_map {β : Type} {text : α → Text} {other : β → Text} {f : α → β}
    (h : ∀ x, other (f x) = text x) (xs : List α) :
    sortByText other (xs.map f) = (sortByText text xs).map f := by
  have hinsert : ∀ (x : α) (ys : List α),
      insertBy (fun a b => textLe (other a) (other b)) (f x) (ys.map f) =
        (insertBy (fun a b => textLe (text a) (text b)) x ys).map f := by
    intro x ys
    induction ys with
    | nil => rfl
    | cons y rest ih =>
      simp only [List.map_cons, insertBy, h, ih]
      split <;> rfl
  unfold sortByText
  induction xs with
  | nil => rfl
  | cons x rest ih =>
    rw [List.map_cons, sortBy, ih, hinsert]
    rfl

/-- Sorting two lists together sorts the elements of both. -/
theorem sortByText_append_perm (text : α → Text) (xs ys : List α) :
    (sortByText text (xs ++ ys)).Perm (sortByText text xs ++ sortByText text ys) :=
  (sortBy_perm _).trans ((sortBy_perm _).symm.append (sortBy_perm _).symm)

/-- Elements with distinct texts are sorted alike in whatever order they are given. -/
theorem sortByText_eq_of_perm {text : α → Text} {xs ys : List α} (hperm : xs.Perm ys)
    (hnodup : (xs.map text).Nodup) : sortByText text xs = sortByText text ys :=
  sortBy_eq_of_perm (fun a b c => textLe_trans (text a) (text b) (text c))
    (fun a b => textLe_total (text a) (text b)) hperm
    fun _ ha _ hb hab hba => List.inj_on_of_nodup_map hnodup ha hb (textLe_antisymm hab hba)

/-- An element is found under its own text in whatever order the elements are given. -/
theorem find?_eq_of_perm {text : α → Text} {xs ys : List α} (hperm : xs.Perm ys)
    (hnodup : (xs.map text).Nodup) (identifier : Text) :
    (xs.find? fun x => text x = identifier) = ys.find? fun x => text x = identifier := by
  cases hfound : xs.find? fun x => decide (text x = identifier) with
  | none =>
    refine (List.find?_eq_none.2 fun y hy => ?_).symm
    exact List.find?_eq_none.1 hfound y (hperm.mem_iff.2 hy)
  | some x =>
    have hx : text x = identifier := by simpa using List.find?_some hfound
    cases hother : ys.find? fun x => decide (text x = identifier) with
    | none =>
      have hmem := hperm.mem_iff.1 (List.mem_of_find?_eq_some hfound)
      exact absurd (decide_eq_true hx) (List.find?_eq_none.1 hother x hmem)
    | some y =>
      have hy : text y = identifier := by simpa using List.find?_some hother
      exact congrArg some (List.inj_on_of_nodup_map hnodup (List.mem_of_find?_eq_some hfound)
        (hperm.mem_iff.2 (List.mem_of_find?_eq_some hother)) (hx.trans hy.symm))

end Sorting

namespace Finding

variable {p : Finding → Bool}

/-- What is left out by its key may be left out before or after the first finding about each
thing is chosen, if both times the same kept keys were seen before. -/
theorem filter_firstsFrom (hp : ∀ f g : Finding, f.key = g.key → p f = p g)
    {seen seen' : List (String × List Text)}
    (hseen : ∀ f : Finding, p f = true → (f.key ∈ seen ↔ f.key ∈ seen')) (findings : List Finding) :
    (firstsFrom seen findings).filter p = firstsFrom seen' (findings.filter p) := by
  induction findings generalizing seen seen' with
  | nil => rfl
  | cons f rest ih =>
    have hkeep : ∀ g : Finding, p g = true → (g.key ∈ f.key :: seen ↔
        g.key ∈ if p f then f.key :: seen' else seen') := by
      intro g hg
      cases hf : p f with
      | true => simp [hseen g hg]
      | false =>
        have hne : g.key ≠ f.key := fun hkey => by simp [hp g f hkey, hf] at hg
        simp [hne, hseen g hg]
    rw [firstsFrom, List.filter_cons]
    cases hf : p f with
    | true =>
      simp only [if_true, firstsFrom]
      by_cases hmem : f.key ∈ seen
      · rw [if_pos hmem, if_pos ((hseen f hf).1 hmem)]
        exact ih hseen
      · rw [if_neg hmem, if_neg fun h => hmem ((hseen f hf).2 h), List.filter_cons, if_pos hf]
        simp only [hf, if_true] at hkeep
        rw [ih hkeep]
    | false =>
      simp only [hf, Bool.false_eq_true, if_false] at hkeep ⊢
      by_cases hmem : f.key ∈ seen
      · rw [if_pos hmem]
        exact ih hseen
      · rw [if_neg hmem, List.filter_cons, hf]
        exact ih hkeep

/-- A report may leave findings out by their keys before or after it merges them. -/
theorem filter_merge (hp : ∀ f g : Finding, f.key = g.key → p f = p g) (findings : List Finding) :
    (merge findings).filter p = merge (findings.filter p) := by
  rw [merge, sort, filter_sortBy le_trans le_total]
  exact congrArg sort (filter_firstsFrom hp (fun _ _ => Iff.rfl) findings)

end Finding

end CatalogHealth
