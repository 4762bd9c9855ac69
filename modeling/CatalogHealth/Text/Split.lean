/-!
# Cutting texts at a character

A text is cut at the first or at every occurrence of one character, and
searched for a fixed fragment. The separator itself is never part of a piece.
What the text is made of does not matter, as long as it can be told apart.
-/

namespace CatalogHealth.Text

variable {α : Type} [DecidableEq α]

/-- What stands before and after the first `sep`, if there is one. -/
def cut (sep : α) : List α → Option (List α × List α)
  | [] => none
  | c :: rest =>
    if c = sep then some ([], rest)
    else (cut sep rest).map fun (before, after) => (c :: before, after)

/-- A text is cut at the first separator. -/
theorem cut_append_cons {sep : α} {before : List α} (h : sep ∉ before) (after : List α) :
    cut sep (before ++ sep :: after) = some (before, after) := by
  induction before with
  | nil => simp [cut]
  | cons c rest ih =>
    rw [List.mem_cons, not_or] at h
    rw [List.cons_append, cut, if_neg (Ne.symm h.1), ih h.2]
    rfl

/-- A text cannot be cut exactly when it lacks the separator. -/
theorem cut_eq_none_iff {sep : α} {cs : List α} : cut sep cs = none ↔ sep ∉ cs := by
  induction cs with
  | nil => simp [cut]
  | cons c rest ih =>
    unfold cut
    split
    · simp_all
    · rename_i hc
      simp [ih, Ne.symm hc]

/-- The pieces of a text between separators, the piece read so far being
`piece` backwards. -/
def piecesFrom (sep : α) (piece : List α) : List α → List (List α)
  | [] => [piece.reverse]
  | c :: rest =>
    if c = sep then piece.reverse :: piecesFrom sep [] rest else piecesFrom sep (c :: piece) rest

/-- All pieces of a text between separators; a text without one is a single
piece, the empty text too. -/
def pieces (sep : α) (cs : List α) : List (List α) := piecesFrom sep [] cs

/-- The piece read so far only stands in front of the first piece. -/
theorem exists_piecesFrom_eq (sep : α) (cs : List α) : ∃ first rest, ∀ piece : List α,
    piecesFrom sep piece cs = (piece.reverse ++ first) :: rest := by
  induction cs with
  | nil => exact ⟨[], [], fun piece => by simp [piecesFrom]⟩
  | cons c others ih =>
    by_cases hc : c = sep
    · exact ⟨[], piecesFrom sep [] others, fun piece => by simp [piecesFrom, hc]⟩
    · obtain ⟨first, rest, hpieces⟩ := ih
      exact ⟨c :: first, rest, fun piece => by simp [piecesFrom, hc, hpieces]⟩

/-- What holds no separator is read into the first piece. -/
theorem piecesFrom_append_of_notMem {sep : α} {before : List α} (h : sep ∉ before)
    (piece cs : List α) :
    piecesFrom sep piece (before ++ cs) = piecesFrom sep (before.reverse ++ piece) cs := by
  induction before generalizing piece with
  | nil => rfl
  | cons c rest ih =>
    rw [List.mem_cons, not_or] at h
    rw [List.cons_append, piecesFrom, if_neg (Ne.symm h.1), ih h.2]
    simp

/-- A text without the separator is a single piece. -/
theorem pieces_of_notMem {sep : α} {cs : List α} (h : sep ∉ cs) : pieces sep cs = [cs] := by
  have hpieces := piecesFrom_append_of_notMem h [] []
  simpa [piecesFrom, pieces] using hpieces

/-- What holds no separator only makes the first piece longer. -/
theorem exists_pieces_append {sep : α} {before : List α} (h : sep ∉ before) (cs : List α) :
    ∃ first, pieces sep (before ++ cs) = (before ++ first) :: (pieces sep cs).tail := by
  obtain ⟨first, rest, hpieces⟩ := exists_piecesFrom_eq sep cs
  refine ⟨first, ?_⟩
  rw [pieces, piecesFrom_append_of_notMem h, hpieces, pieces, hpieces]
  simp

/-- The pieces in front of a separator and behind it are found on their own. -/
theorem pieces_append_cons (sep : α) (before after : List α) :
    pieces sep (before ++ sep :: after) = pieces sep before ++ pieces sep after := by
  have hfrom : ∀ piece, piecesFrom sep piece (before ++ sep :: after) =
      piecesFrom sep piece before ++ piecesFrom sep [] after := by
    induction before with
    | nil => intro piece; simp [piecesFrom]
    | cons c rest ih =>
      intro piece
      by_cases hc : c = sep
      · simp [piecesFrom, hc, ih]
      · simp [piecesFrom, hc, ih]
  exact hfrom []

/-- Whether `fragment` occurs somewhere in a text. -/
def contains (fragment : List α) : List α → Bool
  | [] => fragment.isEmpty
  | c :: rest => fragment.isPrefixOf (c :: rest) || contains fragment rest

end CatalogHealth.Text
