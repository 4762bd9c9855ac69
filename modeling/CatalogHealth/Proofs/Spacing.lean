import CatalogHealth.Text.Blank

/-!
# Blank characters inside and outside quotes

In SQL text blanks only separate, except between quotes, where they belong to a literal or to a
name. Collapsing all blanks of a text therefore loses what stands in quotes, and it loses nothing
else: collapsing only those outside quotes gives the same for two texts exactly if collapsing all
of them does and the quoted parts are the same. A quote that is doubled ends one quoted part and
begins the next one. Escapes with backslashes, dollar quotes and comments are outside the scope of
this module.
-/

namespace CatalogHealth

/-- What a place in an SQL text belongs to. -/
inductive Quoting where
  /-- Neither a literal nor a quoted name. -/
  | outside
  /-- A literal between single quotes. -/
  | literal
  /-- A name between double quotes. -/
  | name
deriving DecidableEq, Repr

namespace Quoting

/-- What the place behind a code point belongs to. -/
def after : Quoting → CodePoint → Quoting
  | outside, c => if c = .char '\'' then literal else if c = .char '"' then name else outside
  | literal, c => if c = .char '\'' then outside else literal
  | name, c => if c = .char '"' then outside else name

/-- A blank neither opens nor closes a quoted part. -/
theorem after_of_blank {c : CodePoint} (hc : Text.isBlankPoint c = true) (q : Quoting) :
    q.after c = q := by
  have hsingle : c ≠ .char '\'' := by
    rintro rfl
    exact absurd hc (by decide)
  have hdouble : c ≠ .char '"' := by
    rintro rfl
    exact absurd hc (by decide)
  cases q with
  | outside => simp [after, hsingle, hdouble]
  | literal => simp [after, hsingle]
  | name => simp [after, hdouble]

end Quoting

namespace Text

/-- A space in front of code points, unless there are none or there is one already. -/
def padded : List CodePoint → List CodePoint
  | [] => []
  | c :: rest => if c = .char ' ' then c :: rest else .char ' ' :: c :: rest

/-- Code points with each run of blanks made a single space, and none at the end. -/
def squeezed : List CodePoint → List CodePoint
  | [] => []
  | c :: rest => if isBlankPoint c then padded (squeezed rest) else c :: squeezed rest

/-- Code points with each run of blanks outside quotes made a single space, and none at the end
unless it stands in quotes. -/
def squeezedOutside (q : Quoting) : List CodePoint → List CodePoint
  | [] => []
  | c :: rest =>
    if q = .outside ∧ isBlankPoint c = true then padded (squeezedOutside q rest)
    else c :: squeezedOutside (q.after c) rest

/-- The code points that stand in quotes, and the quotes. -/
def quotedFrom (q : Quoting) : List CodePoint → List CodePoint
  | [] => []
  | c :: rest =>
    if q = .outside ∧ q.after c = .outside then quotedFrom (q.after c) rest
    else c :: quotedFrom (q.after c) rest

/-- A text without blanks at its ends and with single spaces for the runs of blanks in it, except
for what stands in quotes, which stays as it is. -/
def collapseOutside (t : Text) : Text :=
  ⟨squeezedOutside .outside (t.points.dropWhile isBlankPoint)⟩

/-- All that stands in quotes in a text, with the quotes around it. -/
def quotedPart (t : Text) : Text := ⟨quotedFrom .outside t.points⟩

/-! ## Collapsing all blanks -/

theorem isBlankPoint_space : isBlankPoint (.char ' ') = true := by decide

theorem padded_padded (points : List CodePoint) : padded (padded points) = padded points := by
  cases points with
  | nil => rfl
  | cons c rest => by_cases hc : c = .char ' ' <;> simp [padded, hc]

/-- Squeezing does not remove a space in front of something. -/
theorem squeezed_padded (points : List CodePoint) :
    squeezed (padded points) = padded (squeezed points) := by
  cases points with
  | nil => rfl
  | cons c rest =>
    by_cases hc : c = .char ' '
    · rw [padded, if_pos hc, squeezed, hc, if_pos isBlankPoint_space, padded_padded]
    · rw [padded, if_neg hc, squeezed, if_pos isBlankPoint_space]

/-- Blanks at the beginning make up a single space. -/
theorem padded_squeezed (points : List CodePoint) :
    padded (squeezed points) = padded (squeezed (points.dropWhile isBlankPoint)) := by
  induction points with
  | nil => rfl
  | cons c rest ih =>
    by_cases hc : isBlankPoint c = true
    · rw [squeezed, if_pos hc, padded_padded, ih, List.dropWhile_cons_of_pos hc]
    · rw [List.dropWhile_cons_of_neg hc]

/-- What is left behind the blanks at the beginning begins with no blank. -/
theorem isBlankPoint_of_dropWhile {points rest : List CodePoint} {c : CodePoint}
    (h : points.dropWhile isBlankPoint = c :: rest) : isBlankPoint c = false := by
  have hhead := List.head?_dropWhile_not isBlankPoint points
  simpa [h] using hhead

/-- A space is put in front of what begins with no blank. -/
theorem padded_squeezed_cons {c : CodePoint} (hc : isBlankPoint c = false)
    (rest : List CodePoint) :
    padded (squeezed (c :: rest)) = .char ' ' :: squeezed (c :: rest) := by
  have hspace : c ≠ .char ' ' := by
    rintro rfl
    exact absurd hc (by decide)
  simp [squeezed, padded, hc, hspace]

/-- A word that has begun is not lost. -/
theorem wordsFrom_ne_nil {word : List CodePoint} (h : word ≠ []) (points : List CodePoint) :
    wordsFrom word points ≠ [] := by
  induction points generalizing word with
  | nil => simp [wordsFrom, h]
  | cons c rest ih =>
    by_cases hc : isBlankPoint c = true
    · simp [wordsFrom, hc, h]
    · simpa [wordsFrom, hc] using ih (List.cons_ne_nil c word)

/-- Blanks in front of the first word do not matter. -/
theorem wordsFrom_dropWhile (points : List CodePoint) :
    wordsFrom [] (points.dropWhile isBlankPoint) = wordsFrom [] points := by
  induction points with
  | nil => rfl
  | cons c rest ih =>
    by_cases hc : isBlankPoint c = true
    · rw [List.dropWhile_cons_of_pos hc, ih]
      simp [wordsFrom, hc]
    · rw [List.dropWhile_cons_of_neg hc]

/-- The words with single spaces between them are the text squeezed from its first word on; a word
that has begun is written first. -/
theorem points_join_wordsFrom (word points : List CodePoint) :
    (join " " (wordsFrom word points)).points =
      if word = [] then squeezed (points.dropWhile isBlankPoint)
      else word.reverse ++ squeezed points := by
  have hempty : (join " " []).points = [] := rfl
  induction points generalizing word with
  | nil =>
    by_cases hword : word = []
    · simp [wordsFrom, hword, hempty, squeezed]
    · simp [wordsFrom, hword, join, squeezed]
  | cons c rest ih =>
    by_cases hc : isBlankPoint c = true
    · have hrest := ih []
      rw [if_pos rfl] at hrest
      by_cases hword : word = []
      · rw [if_pos hword, List.dropWhile_cons_of_pos hc, ← hrest]
        simp [wordsFrom, hc, hword]
      · have hwords : wordsFrom word (c :: rest) = ⟨word.reverse⟩ :: wordsFrom [] rest := by
          simp [wordsFrom, hc, hword]
        rw [if_neg hword, squeezed, if_pos hc, padded_squeezed, hwords]
        -- The word is followed by a space if and only if another word follows.
        cases hleft : rest.dropWhile isBlankPoint with
        | nil =>
          have hnone : wordsFrom [] rest = [] := by
            rw [← wordsFrom_dropWhile, hleft]
            rfl
          simp [hnone, join, squeezed, padded]
        | cons d others =>
          have hd := isBlankPoint_of_dropWhile hleft
          have hsome : wordsFrom [] rest = wordsFrom [d] others := by
            rw [← wordsFrom_dropWhile, hleft]
            simp [wordsFrom, hd]
          obtain ⟨first, more, hmore⟩ :=
            List.exists_cons_of_ne_nil (wordsFrom_ne_nil (List.cons_ne_nil d []) others)
          rw [hleft, hsome, hmore] at hrest
          rw [hsome, hmore, join_cons_cons, points_append, hrest, padded_squeezed_cons hd]
          exact List.append_assoc word.reverse [.char ' '] _
    · have hword := ih (c :: word)
      rw [if_neg (List.cons_ne_nil c word)] at hword
      have hstep : wordsFrom word (c :: rest) = wordsFrom (c :: word) rest := by
        simp [wordsFrom, hc]
      rw [hstep, hword, List.dropWhile_cons_of_neg hc]
      by_cases hnil : word = []
      · simp [hnil, squeezed, hc]
      · simp [hnil, squeezed, hc]

/-- Collapsing a text squeezes it from its first word on. -/
theorem points_collapse (t : Text) :
    t.collapse.points = squeezed (t.points.dropWhile isBlankPoint) := by
  rw [collapse, words, points_join_wordsFrom, if_pos rfl]

/-! ## Collapsing blanks outside quotes -/

/-- The blanks in quotes can be squeezed afterwards. -/
theorem squeezed_squeezedOutside (q : Quoting) (points : List CodePoint) :
    squeezed (squeezedOutside q points) = squeezed points := by
  induction points generalizing q with
  | nil => rfl
  | cons c rest ih =>
    by_cases hblank : q = .outside ∧ isBlankPoint c = true
    · rw [squeezedOutside, if_pos hblank, squeezed_padded, ih, squeezed, if_pos hblank.2]
    · rw [squeezedOutside, if_neg hblank, squeezed, squeezed, ih]

/-- A space in front is outside quotes. -/
theorem quotedFrom_padded (points : List CodePoint) :
    quotedFrom .outside (padded points) = quotedFrom .outside points := by
  have hspace : Quoting.outside.after (.char ' ') = .outside := rfl
  cases points with
  | nil => rfl
  | cons c rest =>
    by_cases hc : c = .char ' '
    · rw [padded, if_pos hc]
    · rw [padded, if_neg hc, quotedFrom, if_pos ⟨rfl, hspace⟩, hspace]

/-- What stands in quotes stays as it is. -/
theorem quotedFrom_squeezedOutside (q : Quoting) (points : List CodePoint) :
    quotedFrom q (squeezedOutside q points) = quotedFrom q points := by
  induction points generalizing q with
  | nil => rfl
  | cons c rest ih =>
    by_cases hblank : q = .outside ∧ isBlankPoint c = true
    · obtain ⟨rfl, hc⟩ := hblank
      have hafter := Quoting.after_of_blank hc .outside
      rw [squeezedOutside, if_pos ⟨rfl, hc⟩, quotedFrom_padded, ih, quotedFrom, hafter,
        if_pos ⟨rfl, rfl⟩]
    · rw [squeezedOutside, if_neg hblank, quotedFrom, quotedFrom, ih]

/-- Blanks at the beginning do not stand in quotes. -/
theorem quotedFrom_dropWhile (points : List CodePoint) :
    quotedFrom .outside (points.dropWhile isBlankPoint) = quotedFrom .outside points := by
  induction points with
  | nil => rfl
  | cons c rest ih =>
    by_cases hc : isBlankPoint c = true
    · rw [List.dropWhile_cons_of_pos hc, ih, quotedFrom, Quoting.after_of_blank hc,
        if_pos ⟨rfl, rfl⟩]
    · rw [List.dropWhile_cons_of_neg hc]

/-! ## Putting a text together again -/

/-- What comes behind the quoted part in which code points begin, if they begin in one. -/
def behindQuoted : Quoting → List CodePoint → List CodePoint
  | .outside, points => points
  | _, [] => []
  | q, c :: rest => behindQuoted (q.after c) rest

theorem behindQuoted_outside (points : List CodePoint) : behindQuoted .outside points = points := by
  cases points <;> rfl

theorem length_behindQuoted_le (q : Quoting) (points : List CodePoint) :
    (behindQuoted q points).length ≤ points.length := by
  induction points generalizing q with
  | nil => cases q <;> simp [behindQuoted]
  | cons c rest ih =>
    cases q with
    | outside => simp [behindQuoted]
    | literal | name => exact Nat.le_succ_of_le (ih _)

/-- What stands outside quotes in some code points, with the quoted parts taken from elsewhere. -/
def restored : Quoting → List CodePoint → List CodePoint → List CodePoint
  | .outside, _, [] => []
  | .outside, quoted, c :: rest =>
    if Quoting.outside.after c = .outside then c :: restored .outside quoted rest
    else c :: restored (Quoting.outside.after c) quoted.tail
      (behindQuoted (Quoting.outside.after c) rest)
  | _, [], _ => []
  | q, c :: quoted, rest => c :: restored (q.after c) quoted rest
termination_by _ quoted points => quoted.length + points.length
decreasing_by
  · exact Nat.lt_succ_self _
  · have hrest := length_behindQuoted_le (Quoting.outside.after c) rest
    simp only [List.length_tail, List.length_cons]
    omega
  · simp only [List.length_cons]
    omega

/-- A space does not end a quoted part. -/
theorem behindQuoted_padded {q : Quoting} (hq : q ≠ .outside) (points : List CodePoint) :
    behindQuoted q (padded points) = behindQuoted q points := by
  cases points with
  | nil => rfl
  | cons c rest =>
    by_cases hc : c = .char ' '
    · rw [padded, if_pos hc]
    · rw [padded, if_neg hc]
      cases q with
      | outside => exact absurd rfl hq
      | literal | name => rfl

/-- Squeezing blanks in a quoted part does not change what comes behind it. -/
theorem behindQuoted_squeezed {q : Quoting} (hq : q ≠ .outside) (c : CodePoint)
    (rest : List CodePoint) :
    behindQuoted q (squeezed (c :: rest)) = behindQuoted (q.after c) (squeezed rest) := by
  by_cases hc : isBlankPoint c = true
  · rw [squeezed, if_pos hc, behindQuoted_padded hq, Quoting.after_of_blank hc]
  · rw [squeezed, if_neg hc]
    cases q with
    | outside => exact absurd rfl hq
    | literal | name => rfl

/-- A quoted part is taken from elsewhere to its end. -/
theorem restored_cons {q : Quoting} (hq : q ≠ .outside) (c : CodePoint)
    (quoted points : List CodePoint) :
    restored q (c :: quoted) points = c :: restored (q.after c) quoted points := by
  cases q with
  | outside => exact absurd rfl hq
  | literal | name => simp [restored]

/-- A space in front stays in front. -/
theorem restored_padded (quoted points : List CodePoint) :
    restored .outside quoted (padded points) = padded (restored .outside quoted points) := by
  have hspace : Quoting.outside.after (.char ' ') = .outside := rfl
  cases points with
  | nil => simp [padded, restored]
  | cons c rest =>
    have hhead : ∃ others, restored .outside quoted (c :: rest) = c :: others := by
      rw [restored]
      split
      · exact ⟨_, rfl⟩
      · exact ⟨_, rfl⟩
    obtain ⟨others, hothers⟩ := hhead
    by_cases hc : c = .char ' '
    · rw [padded, if_pos hc, hothers, padded, if_pos hc]
    · rw [padded, if_neg hc, restored, if_pos hspace, hothers, padded, if_neg hc]

/-- What is left when blanks outside quotes are squeezed can be put together from what is left when
all of them are, and from the quoted parts. -/
theorem restored_squeezed (q : Quoting) (points : List CodePoint) :
    restored q (quotedFrom q points) (behindQuoted q (squeezed points)) =
      squeezedOutside q points := by
  induction points generalizing q with
  | nil => cases q <;> simp [quotedFrom, squeezed, behindQuoted, restored, squeezedOutside]
  | cons c rest ih =>
    by_cases hq : q = .outside
    · subst hq
      by_cases hc : isBlankPoint c = true
      · have hafter := Quoting.after_of_blank hc .outside
        rw [squeezedOutside, if_pos ⟨rfl, hc⟩, ← ih, behindQuoted_outside, behindQuoted_outside,
          squeezed, if_pos hc, restored_padded, quotedFrom, hafter, if_pos ⟨rfl, rfl⟩]
      · rw [squeezedOutside, if_neg fun h => hc h.2, ← ih, behindQuoted_outside, squeezed,
          if_neg hc, restored, quotedFrom]
        by_cases hplain : Quoting.outside.after c = .outside
        · rw [if_pos hplain, if_pos ⟨rfl, hplain⟩, hplain, behindQuoted_outside]
        · rw [if_neg hplain, if_neg fun h => hplain h.2, List.tail_cons]
    · rw [squeezedOutside, if_neg fun h => hq h.1, ← ih, behindQuoted_squeezed hq, quotedFrom,
        if_neg fun h => hq h.1, restored_cons hq]

/-- Two texts agree up to blanks outside quotes exactly if they agree up to all blanks and have the
same quoted parts. -/
theorem collapseOutside_eq_iff {s t : Text} : s.collapseOutside = t.collapseOutside ↔
    s.collapse = t.collapse ∧ s.quotedPart = t.quotedPart := by
  have hcollapse : ∀ u : Text, u.collapse = ⟨squeezed u.collapseOutside.points⟩ := by
    intro u
    rw [collapseOutside, squeezed_squeezedOutside, ← points_collapse]
  have hquoted : ∀ u : Text, u.quotedPart = ⟨quotedFrom .outside u.collapseOutside.points⟩ := by
    intro u
    rw [collapseOutside, quotedFrom_squeezedOutside, quotedFrom_dropWhile, quotedPart]
  have hrestored : ∀ u : Text,
      u.collapseOutside = ⟨restored .outside u.quotedPart.points u.collapse.points⟩ := by
    intro u
    rw [collapseOutside, ← restored_squeezed, quotedFrom_dropWhile, behindQuoted_outside,
      points_collapse, quotedPart]
  constructor
  · intro h
    rw [hcollapse s, hcollapse t, hquoted s, hquoted t, h]
    exact ⟨rfl, rfl⟩
  · rintro ⟨hsame, hparts⟩
    rw [hrestored s, hrestored t, hsame, hparts]

end Text

end CatalogHealth
