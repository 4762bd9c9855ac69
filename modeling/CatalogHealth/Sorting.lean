import CatalogHealth.Text.Basic

/-!
# Stable sorting

Reports are ordered by comparing keys, and what compares equal keeps its
place. The sort inserts one element after the other from the back, so that it
unfolds along the list; the lists of a catalogue are short enough for it. Orders
are put together from orders of parts and of members, and texts are ordered by
their code points.
-/

namespace CatalogHealth

/-- An element put before the first one that it may stand in front of. -/
def insertBy {α : Type} (le : α → α → Bool) (x : α) : List α → List α
  | [] => [x]
  | y :: rest => if le x y then x :: y :: rest else y :: insertBy le x rest

/-- A list in the order of `le`; elements of equal rank keep their order. -/
def sortBy {α : Type} (le : α → α → Bool) : List α → List α
  | [] => []
  | x :: rest => insertBy le x (sortBy le rest)

section Laws

variable {α : Type} {le : α → α → Bool}

theorem insertBy_perm (x : α) (xs : List α) : (insertBy le x xs).Perm (x :: xs) := by
  induction xs with
  | nil => simp [insertBy]
  | cons y rest ih =>
    unfold insertBy
    split
    · exact List.Perm.refl _
    · exact (ih.cons y).trans (List.Perm.swap x y rest)

/-- Sorting loses and adds nothing. -/
theorem sortBy_perm (xs : List α) : (sortBy le xs).Perm xs := by
  induction xs with
  | nil => simp [sortBy]
  | cons x rest ih => exact (insertBy_perm x _).trans (ih.cons x)

theorem mem_insertBy {a x : α} {xs : List α} : a ∈ insertBy le x xs ↔ a = x ∨ a ∈ xs := by
  rw [(insertBy_perm x xs).mem_iff, List.mem_cons]

theorem mem_sortBy {a : α} {xs : List α} : a ∈ sortBy le xs ↔ a ∈ xs :=
  (sortBy_perm xs).mem_iff

theorem insertBy_pairwise (trans : ∀ a b c, le a b = true → le b c = true → le a c = true)
    (total : ∀ a b, le a b = true ∨ le b a = true) (x : α) {xs : List α}
    (h : xs.Pairwise fun a b => le a b = true) :
    (insertBy le x xs).Pairwise fun a b => le a b = true := by
  induction xs with
  | nil => simp [insertBy]
  | cons y rest ih =>
    obtain ⟨hy, hrest⟩ := List.pairwise_cons.1 h
    unfold insertBy
    split
    · rename_i hxy
      refine List.pairwise_cons.2 ⟨fun a ha => ?_, h⟩
      rcases List.mem_cons.1 ha with rfl | ha
      · exact hxy
      · exact trans _ _ _ hxy (hy a ha)
    · rename_i hxy
      refine List.pairwise_cons.2 ⟨fun a ha => ?_, ih hrest⟩
      rcases mem_insertBy.1 ha with rfl | ha
      · exact (total a y).resolve_left hxy
      · exact hy a ha

/-- A sorted list is ascending if the order is transitive and total. -/
theorem sortBy_pairwise (trans : ∀ a b c, le a b = true → le b c = true → le a c = true)
    (total : ∀ a b, le a b = true ∨ le b a = true) (xs : List α) :
    (sortBy le xs).Pairwise fun a b => le a b = true := by
  induction xs with
  | nil => simp [sortBy]
  | cons x rest ih => exact insertBy_pairwise trans total x ih

end Laws

/-- The order by a part and, where the parts agree, by what comes next. -/
def byPart {α β : Type} [DecidableEq β] (part : α → β) (le : β → β → Bool)
    (next : α → α → Bool) (a b : α) : Bool :=
  if part a = part b then next a b else le (part a) (part b)

section ByPart

variable {α β : Type} [DecidableEq β] {part : α → β} {le : β → β → Bool} {next : α → α → Bool}

/-- What differs in the part is in order if the parts are, and what agrees in it if what comes next
is. -/
theorem byPart_iff {a b : α} : byPart part le next a b = true ↔
    part a ≠ part b ∧ le (part a) (part b) = true ∨ part a = part b ∧ next a b = true := by
  by_cases h : part a = part b <;> simp [byPart, h]

theorem byPart_total (hle : ∀ x y, le x y = true ∨ le y x = true)
    (hnext : ∀ a b, next a b = true ∨ next b a = true) (a b : α) :
    byPart part le next a b = true ∨ byPart part le next b a = true := by
  by_cases h : part a = part b
  · simpa [byPart, h] using hnext a b
  · simpa [byPart, h, Ne.symm h] using hle (part a) (part b)

/-- Elements before each other agree in the part and in what comes next. -/
theorem byPart_antisymm (hle : ∀ x y, le x y = true → le y x = true → x = y) {a b : α}
    (hab : byPart part le next a b = true) (hba : byPart part le next b a = true) :
    part a = part b ∧ next a b = true ∧ next b a = true := by
  by_cases h : part a = part b
  · simp only [byPart, h, if_true] at hab hba
    exact ⟨h, hab, hba⟩
  · simp only [byPart, h, Ne.symm h, if_false] at hab hba
    exact absurd (hle _ _ hab hba) h

theorem byPart_trans (htrans : ∀ x y z, le x y = true → le y z = true → le x z = true)
    (hanti : ∀ x y, le x y = true → le y x = true → x = y)
    (hnext : ∀ a b c, next a b = true → next b c = true → next a c = true) (a b c : α)
    (hab : byPart part le next a b = true) (hbc : byPart part le next b c = true) :
    byPart part le next a c = true := by
  by_cases h : part a = part b
  · simp only [byPart, h, if_true] at hab hbc ⊢
    by_cases k : part b = part c
    · simp only [k, if_true] at hbc ⊢
      exact hnext _ _ _ hab hbc
    · simpa only [k, if_false] using hbc
  · by_cases k : part b = part c
    · simp only [byPart, k, if_true] at hab hbc ⊢
      simp only [← k, h, if_false] at hab ⊢
      exact hab
    · simp only [byPart, h, k, if_false] at hab hbc ⊢
      by_cases l : part a = part c
      · rw [l] at hab
        exact absurd (hanti _ _ hbc hab) k
      · simp only [l, if_false]
        exact htrans _ _ _ hab hbc

end ByPart

/-- The dictionary order of lists: the first difference decides, and a list comes before
its continuations. -/
def dictionaryLe {α : Type} [DecidableEq α] (le : α → α → Bool) : List α → List α → Bool
  | [], _ => true
  | _ :: _, [] => false
  | x :: xs, y :: ys => if x = y then dictionaryLe le xs ys else le x y

section Dictionary

variable {α : Type} [DecidableEq α] {le : α → α → Bool}

theorem dictionaryLe_total (hle : ∀ x y, le x y = true ∨ le y x = true) (xs ys : List α) :
    dictionaryLe le xs ys = true ∨ dictionaryLe le ys xs = true := by
  induction xs generalizing ys with
  | nil => simp [dictionaryLe]
  | cons x xs ih =>
    cases ys with
    | nil => simp [dictionaryLe]
    | cons y ys =>
      by_cases h : x = y
      · subst h
        simpa [dictionaryLe] using ih ys
      · simpa [dictionaryLe, h, Ne.symm h] using hle x y

theorem dictionaryLe_antisymm (hle : ∀ x y, le x y = true → le y x = true → x = y)
    {xs ys : List α} (hxy : dictionaryLe le xs ys = true) (hyx : dictionaryLe le ys xs = true) :
    xs = ys := by
  induction xs generalizing ys with
  | nil => cases ys <;> simp_all [dictionaryLe]
  | cons x xs ih =>
    cases ys with
    | nil => simp [dictionaryLe] at hxy
    | cons y ys =>
      by_cases h : x = y
      · subst h
        simp only [dictionaryLe, if_true] at hxy hyx
        rw [ih hxy hyx]
      · simp only [dictionaryLe, h, Ne.symm h, if_false] at hxy hyx
        exact absurd (hle _ _ hxy hyx) h

theorem dictionaryLe_trans (htrans : ∀ x y z, le x y = true → le y z = true → le x z = true)
    (hanti : ∀ x y, le x y = true → le y x = true → x = y) (xs ys zs : List α)
    (hxy : dictionaryLe le xs ys = true) (hyz : dictionaryLe le ys zs = true) :
    dictionaryLe le xs zs = true := by
  induction xs generalizing ys zs with
  | nil => simp [dictionaryLe]
  | cons x xs ih =>
    cases ys with
    | nil => simp [dictionaryLe] at hxy
    | cons y ys =>
      cases zs with
      | nil => simp [dictionaryLe] at hyz
      | cons z zs =>
        by_cases h : x = y
        · subst h
          by_cases k : x = z
          · subst k
            simp only [dictionaryLe, if_true] at hxy hyz ⊢
            exact ih _ _ hxy hyz
          · simpa [dictionaryLe, k] using hyz
        · by_cases k : y = z
          · subst k
            simpa [dictionaryLe, h] using hxy
          · simp only [dictionaryLe, h, k, if_false] at hxy hyz
            by_cases l : x = z
            · subst l
              exact absurd (hanti _ _ hxy hyz) h
            · simpa [dictionaryLe, l] using htrans x y z hxy hyz

end Dictionary

/-- Whether the number of a code point is at most that of another one. -/
def pointLe (a b : Nat) : Bool := decide (a ≤ b)

theorem pointLe_trans (a b c : Nat) (hab : pointLe a b = true) (hbc : pointLe b c = true) :
    pointLe a c = true := by
  simp only [pointLe, decide_eq_true_eq] at *
  exact Nat.le_trans hab hbc

theorem pointLe_total (a b : Nat) : pointLe a b = true ∨ pointLe b a = true := by
  simp only [pointLe, decide_eq_true_eq]
  exact Nat.le_total a b

theorem pointLe_antisymm (a b : Nat) (hab : pointLe a b = true) (hba : pointLe b a = true) :
    a = b := by
  simp only [pointLe, decide_eq_true_eq] at *
  exact Nat.le_antisymm hab hba

/-- Texts in the order of their code points. -/
def textLe (a b : Text) : Bool := dictionaryLe pointLe a.values b.values

theorem textLe_trans (a b c : Text) (hab : textLe a b = true) (hbc : textLe b c = true) :
    textLe a c = true :=
  dictionaryLe_trans pointLe_trans pointLe_antisymm _ _ _ hab hbc

theorem textLe_total (a b : Text) : textLe a b = true ∨ textLe b a = true :=
  dictionaryLe_total pointLe_total _ _

theorem textLe_antisymm {a b : Text} (hab : textLe a b = true) (hba : textLe b a = true) :
    a = b :=
  Text.eq_of_values_eq (dictionaryLe_antisymm pointLe_antisymm hab hba)

/-- A list sorted by a text that each element carries. -/
def sortByText {α : Type} (text : α → Text) (xs : List α) : List α :=
  sortBy (fun a b => textLe (text a) (text b)) xs

/-- Texts without repetition, in the order of their code points. -/
def sortedTexts (texts : List Text) : List Text := sortBy textLe texts.eraseDups

/-- A sorted list of texts holds the same texts. -/
theorem mem_sortedTexts {t : Text} {texts : List Text} : t ∈ sortedTexts texts ↔ t ∈ texts := by
  rw [sortedTexts, mem_sortBy, List.mem_eraseDups]

end CatalogHealth
