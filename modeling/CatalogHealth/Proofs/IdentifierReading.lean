import CatalogHealth.Proofs.Quotation

/-!
# Reading undoes quoting

A whole text can be read as a name in two ways: it is a plain name and no reserved word, or it
stands between double quotes and each double quote in it is doubled. Reading a quoted name gives
the name back, whatever characters it has, with one exception: a plain name with a line break
behind it is written as it is, and such a text cannot be read. Where a name ends in a longer text
is outside the scope of this module.
-/

namespace CatalogHealth

/-! ## Reading a whole text -/

/-- Whether code points are a character that begins a plain name and characters that may follow
in one, to the end. -/
def isPlainWord : List CodePoint → Bool
  | [] => false
  | c :: rest => c.satisfies isNameStart && rest.all (·.satisfies isNamePart)

/-- Code points with each doubled double quote halved; a double quote that stands alone cannot be
halved. -/
def halveQuotes? : List CodePoint → Option (List CodePoint)
  | [] => some []
  | .char '"' :: .char '"' :: rest => (halveQuotes? rest).map (.char '"' :: ·)
  | c :: rest => if c = .char '"' then none else (halveQuotes? rest).map (c :: ·)

/-- What stands between a double quote at the beginning and another one at the end. -/
def betweenQuotes? : List CodePoint → Option (List CodePoint)
  | [] => none
  | c :: rest =>
    if c = .char '"' ∧ rest.getLast? = some (.char '"') then some rest.dropLast else none

/-- The name that a whole text is in SQL, if it is one. -/
def readIdentifier? (t : Text) : Option Text :=
  if isPlainWord t.points && !reservedWords.any (t = ·) then some t
  else ((betweenQuotes? t.points).bind halveQuotes?).map Text.mk

/-- A text is a plain name with a line break behind it. -/
def Text.IsBrokenName (t : Text) : Prop :=
  ∃ word, isPlainWord word = true ∧ t.points = word ++ [.char '\n']

/-! ## Names between quotes -/

/-- A code point that is no quote stays as it is. -/
theorem halveQuotes?_cons {c : CodePoint} (hc : c ≠ .char '"') (rest : List CodePoint) :
    halveQuotes? (c :: rest) = (halveQuotes? rest).map (c :: ·) := by
  rw [halveQuotes?, if_neg hc]
  rintro _ rfl
  exact absurd rfl hc

/-- Halving undoes doubling. -/
theorem halveQuotes?_doubleQuotes (points : List CodePoint) :
    halveQuotes? (doubleQuotes points) = some points := by
  induction points with
  | nil => rfl
  | cons c rest ih =>
    rw [doubleQuotes_cons]
    by_cases hc : c = .char '"'
    · rw [if_pos hc, hc, halveQuotes?, ih]
      rfl
    · rw [if_neg hc, halveQuotes?_cons hc, ih]
      rfl

/-- What was put between quotes is found there. -/
theorem betweenQuotes?_quoted (points : List CodePoint) :
    betweenQuotes? (.char '"' :: (points ++ [.char '"'])) = some points := by
  simp [betweenQuotes?]

/-- No plain name begins with a quote. -/
theorem isPlainWord_quote (rest : List CodePoint) : isPlainWord (.char '"' :: rest) = false := rfl

/-- A name between quotes is read as the name. -/
theorem readIdentifier?_quoted (points : List CodePoint) :
    readIdentifier? ⟨.char '"' :: (doubleQuotes points ++ [.char '"'])⟩ = some ⟨points⟩ := by
  rw [readIdentifier?, isPlainWord_quote, Bool.false_and, if_neg Bool.false_ne_true,
    betweenQuotes?_quoted, Option.bind_some, halveQuotes?_doubleQuotes]
  rfl

/-! ## Plain names and line breaks -/

/-- A line break belongs to no plain name. -/
theorem isPlainWord_append_lineFeed (word : List CodePoint) :
    isPlainWord (word ++ [.char '\n']) = false := by
  have hbreak : CodePoint.satisfies isNamePart (.char '\n') = false := by decide
  cases word with
  | nil => rfl
  | cons c rest => simp [isPlainWord, hbreak]

/-- The rest of a plain name has characters of such names only, up to a line break at the end. -/
theorem isNameRest_iff {points : List CodePoint} : isNameRest points = true ↔
    points.all (·.satisfies isNamePart) = true ∨
      ∃ rest, rest.all (·.satisfies isNamePart) = true ∧ points = rest ++ [.char '\n'] := by
  induction points with
  | nil => simp [isNameRest]
  | cons c rest ih =>
    by_cases hbreak : c = .char '\n' ∧ rest = []
    · obtain ⟨rfl, rfl⟩ := hbreak
      exact iff_of_true rfl (.inr ⟨[], rfl, rfl⟩)
    · have hrest : isNameRest (c :: rest) = (c.satisfies isNamePart && isNameRest rest) := by
        rw [isNameRest]
        rintro rfl rfl
        exact hbreak ⟨rfl, rfl⟩
      rw [hrest, Bool.and_eq_true, ih, List.all_cons, Bool.and_eq_true, and_or_left]
      refine or_congr_right ⟨?_, ?_⟩
      · rintro ⟨hc, word, hword, rfl⟩
        exact ⟨c :: word, by simp [hc, hword], rfl⟩
      · rintro ⟨word, hword, hsplit⟩
        cases word with
        | nil =>
          obtain ⟨hc, hnil⟩ := List.cons.inj hsplit
          exact absurd ⟨hc, hnil⟩ hbreak
        | cons d word =>
          obtain ⟨rfl, rfl⟩ := List.cons.inj hsplit
          rw [List.all_cons, Bool.and_eq_true] at hword
          exact ⟨hword.1, word, hword.2, rfl⟩

/-- What has the shape of a plain name is one, perhaps with a line break behind it. -/
theorem isPlainName_iff {name : Text} : isPlainName name.points = true ↔
    isPlainWord name.points = true ∨ name.IsBrokenName := by
  obtain ⟨points⟩ := name
  cases points with
  | nil => simp [isPlainName, isPlainWord, Text.IsBrokenName]
  | cons c rest =>
    rw [isPlainName, isPlainWord, Bool.and_eq_true, Bool.and_eq_true, isNameRest_iff, and_or_left]
    refine or_congr_right ⟨?_, ?_⟩
    · rintro ⟨hc, word, hword, rfl⟩
      exact ⟨c :: word, by simp [isPlainWord, hc, hword], rfl⟩
    · rintro ⟨word, hword, hsplit⟩
      cases word with
      | nil => cases hword
      | cons d word =>
        obtain ⟨rfl, rfl⟩ := List.cons.inj hsplit
        rw [isPlainWord, Bool.and_eq_true] at hword
        exact ⟨hword.1, word, hword.2, rfl⟩

/-- A name with a line break behind it is no plain name. -/
theorem Text.IsBrokenName.not_isPlainWord {name : Text} (h : name.IsBrokenName) :
    isPlainWord name.points = false := by
  obtain ⟨word, -, hname⟩ := h
  rw [hname, isPlainWord_append_lineFeed]

/-- No reserved word has a line break. -/
theorem lineFeed_notMem_reservedWords :
    ∀ word ∈ reservedWords, CodePoint.char '\n' ∉ (word : Text).points := by
  decide +kernel

/-- A plain name with a line break behind it is written as it is, a reserved word too. -/
theorem Text.IsBrokenName.quoteIdentifier_eq {name : Text} (h : name.IsBrokenName) :
    quoteIdentifier name = name := by
  have hplain : isPlainName name.points = true := isPlainName_iff.2 (.inr h)
  have hfree : reservedWords.any (name = ·) = false := by
    rw [List.any_eq_false]
    intro word hword hsame
    obtain ⟨stem, -, hname⟩ := h
    have hbreak : CodePoint.char '\n' ∈ name.points := by simp [hname]
    rw [of_decide_eq_true hsame] at hbreak
    exact lineFeed_notMem_reservedWords word hword hbreak
  simp [quoteIdentifier, hplain, hfree]

/-- What ends in a line break and begins a plain name cannot be read. -/
theorem Text.IsBrokenName.readIdentifier?_eq_none {name : Text} (h : name.IsBrokenName) :
    readIdentifier? name = none := by
  have hnone : betweenQuotes? name.points = none := by
    obtain ⟨word, hword, hname⟩ := h
    cases word with
    | nil => cases hword
    | cons c rest => simp [hname, betweenQuotes?]
  rw [readIdentifier?, h.not_isPlainWord, Bool.false_and, if_neg Bool.false_ne_true, hnone]
  rfl

/-! ## Reading what was quoted -/

/-- Every other name is read back. -/
theorem readIdentifier?_quoteIdentifier {name : Text} (h : ¬name.IsBrokenName) :
    readIdentifier? (quoteIdentifier name) = some name := by
  have hplain : isPlainName name.points = isPlainWord name.points := by
    rw [Bool.eq_iff_iff, isPlainName_iff, or_iff_left h]
  rw [quoteIdentifier, hplain]
  by_cases hword : (isPlainWord name.points && !reservedWords.any (name = ·)) = true
  · rw [if_pos hword, readIdentifier?, if_pos hword]
  · rw [if_neg hword]
    exact readIdentifier?_quoted name.points

/-- Reading gives back the name that was quoted exactly if it is not a plain name with a line break
behind it, and otherwise there is nothing to read. -/
theorem reading_undoes_quoting_iff (name : Text) :
    (readIdentifier? (quoteIdentifier name) = some name ↔ ¬name.IsBrokenName) ∧
      (name.IsBrokenName → readIdentifier? (quoteIdentifier name) = none) := by
  have hbroken : name.IsBrokenName → readIdentifier? (quoteIdentifier name) = none := by
    intro h
    rw [h.quoteIdentifier_eq]
    exact h.readIdentifier?_eq_none
  refine ⟨⟨fun hread h => ?_, readIdentifier?_quoteIdentifier⟩, hbroken⟩
  rw [hbroken h] at hread
  cases hread

/-- A name with quotes, points and a line break inside is read back. -/
example : readIdentifier? (quoteIdentifier "of \"day\".\nshop") = some "of \"day\".\nshop" := by
  decide +kernel

/-- Some name is not read back after it was quoted. -/
theorem brokenOrders_not_read_back :
    readIdentifier? (quoteIdentifier "orders\n") ≠ some "orders\n" := by
  decide +kernel

end CatalogHealth
