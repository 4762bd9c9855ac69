import CatalogHealth.Migration.Repair

/-!
# What the text of a statement says

A quoted name ends where the reader expects it to end, so a name below its schema can be read
off the text, and a statement that drops or rebuilds an index says which one. Names of
indexes that are built for foreign keys may be shortened, and what their statements say is
outside the scope of this module.
-/

namespace CatalogHealth

/-- A code point that ends a name: it is no part of a plain name and not a double quote. -/
def EndsName (c : CodePoint) : Prop :=
  c ≠ .char '"' ∧ c ≠ .char '\n' ∧ c.satisfies isNamePart = false

instance (c : CodePoint) : Decidable (EndsName c) := inferInstanceAs (Decidable (_ ∧ _ ∧ _))

/-- What begins a plain name does not end it. -/
theorem isNamePart_of_isNameStart {c : CodePoint} (h : c.satisfies isNameStart = true) :
    c.satisfies isNamePart = true := by
  cases c with
  | half place => cases h
  | char c =>
    have hstart : isNameStart c = true := h
    simp [CodePoint.satisfies, isNamePart, hstart]

/-- No code point in the rest of a plain name ends it. -/
theorem not_endsName_of_isNameRest {points : List CodePoint} (h : isNameRest points = true) :
    ∀ c ∈ points, ¬EndsName c := by
  induction points with
  | nil => simp
  | cons c rest ih =>
    by_cases hbreak : c = .char '\n' ∧ rest = []
    · obtain ⟨rfl, rfl⟩ := hbreak
      intro d hd
      rw [List.mem_singleton.1 hd]
      exact fun hends => hends.2.1 rfl
    · have hparts : c.satisfies isNamePart = true ∧ isNameRest rest = true := by
        unfold isNameRest at h
        split at h
        · simp at *
        · rename_i heq
          simp only [List.cons.injEq] at heq
          exact absurd heq hbreak
        · rename_i heq
          simp only [List.cons.injEq] at heq
          simpa [heq.1, heq.2] using h
      intro d hd
      rcases List.mem_cons.1 hd with rfl | hd
      · exact fun hends => by simp [hends.2.2] at hparts
      · exact ih hparts.2 d hd

/-- A plain name has a first code point, and none that ends it. -/
theorem plainName_spec {points : List CodePoint} (h : isPlainName points = true) :
    (∃ c rest, points = c :: rest ∧ c ≠ .char '"') ∧ ∀ c ∈ points, ¬EndsName c := by
  cases points with
  | nil => simp [isPlainName] at h
  | cons c rest =>
    simp only [isPlainName, Bool.and_eq_true] at h
    have hpart := isNamePart_of_isNameStart h.1
    refine ⟨⟨c, rest, rfl, ?_⟩, fun d hd => ?_⟩
    · rintro rfl
      exact absurd h.1 (by decide)
    · rcases List.mem_cons.1 hd with rfl | hd
      · exact fun hends => by simp [hends.2.2] at hpart
      · exact not_endsName_of_isNameRest h.2 d hd

/-- Names in which nothing ends them can be told apart from what follows. -/
theorem eq_of_append_ending {xs ys rest rest' : List CodePoint} {c d : CodePoint}
    (hxs : ∀ z ∈ xs, ¬EndsName z) (hys : ∀ z ∈ ys, ¬EndsName z) (hc : EndsName c)
    (hd : EndsName d) (h : xs ++ c :: rest = ys ++ d :: rest') :
    xs = ys ∧ c :: rest = d :: rest' := by
  induction xs generalizing ys with
  | nil =>
    cases ys with
    | nil => exact ⟨rfl, h⟩
    | cons y ys =>
      obtain ⟨rfl, -⟩ := List.cons.inj h
      exact absurd hc (hys c (List.mem_cons_self ..))
  | cons x xs ih =>
    cases ys with
    | nil =>
      obtain ⟨rfl, -⟩ := List.cons.inj h
      exact absurd hd (hxs x (List.mem_cons_self ..))
    | cons y ys =>
      obtain ⟨rfl, htail⟩ := List.cons.inj h
      obtain ⟨rfl, hrest⟩ := ih (fun z hz => hxs z (List.mem_cons_of_mem _ hz))
        (fun z hz => hys z (List.mem_cons_of_mem _ hz)) htail
      exact ⟨rfl, hrest⟩

/-- The first code point of a name is doubled if it is a quote. -/
theorem doubleQuotes_cons (c : CodePoint) (rest : List CodePoint) : doubleQuotes (c :: rest) =
    if c = .char '"' then c :: c :: doubleQuotes rest else c :: doubleQuotes rest := by
  by_cases hc : c = .char '"'
  · simp [doubleQuotes, hc]
  · simp [doubleQuotes, hc]

/-- A quote inside a name is no single quote, because another quote follows. -/
theorem quote_cons_ne_doubleQuotes {c d : CodePoint} {rest xs tail : List CodePoint}
    (hc : c ≠ .char '"') : .char '"' :: c :: rest ≠ doubleQuotes (d :: xs) ++ tail := by
  intro h
  rw [doubleQuotes_cons] at h
  by_cases hd : d = .char '"'
  · rw [if_pos hd] at h
    simp only [List.cons_append, List.cons.injEq] at h
    exact hc (h.2.1.trans hd)
  · rw [if_neg hd] at h
    simp only [List.cons_append, List.cons.injEq] at h
    exact hd h.1.symm

/-- Each quote in a name between quotes is doubled, so the quote that stands alone ends it. -/
theorem eq_of_doubleQuotes_append {xs ys rest rest' : List CodePoint} {c d : CodePoint}
    (hc : c ≠ .char '"') (hd : d ≠ .char '"')
    (h : doubleQuotes xs ++ .char '"' :: c :: rest = doubleQuotes ys ++ .char '"' :: d :: rest') :
    xs = ys ∧ c :: rest = d :: rest' := by
  induction xs generalizing ys with
  | nil =>
    cases ys with
    | nil =>
      simp only [doubleQuotes, List.flatMap_nil, List.nil_append, List.cons.injEq] at h
      exact ⟨rfl, by rw [h.2.1, h.2.2]⟩
    | cons y ys => exact absurd h (quote_cons_ne_doubleQuotes hc)
  | cons x xs ih =>
    cases ys with
    | nil => exact absurd h.symm (quote_cons_ne_doubleQuotes hd)
    | cons y ys =>
      rw [doubleQuotes_cons, doubleQuotes_cons] at h
      by_cases hx : x = .char '"'
      · by_cases hy : y = .char '"'
        · simp only [if_pos hx, if_pos hy, List.cons_append, List.cons.injEq] at h
          obtain ⟨rfl, hrest⟩ := ih h.2.2
          exact ⟨by rw [h.1], hrest⟩
        · simp only [if_pos hx, if_neg hy, List.cons_append, List.cons.injEq] at h
          exact absurd (h.1 ▸ hx) hy
      · by_cases hy : y = .char '"'
        · simp only [if_neg hx, if_pos hy, List.cons_append, List.cons.injEq] at h
          exact absurd (h.1 ▸ hy) hx
        · simp only [if_neg hx, if_neg hy, List.cons_append, List.cons.injEq] at h
          obtain ⟨rfl, hrest⟩ := ih h.2
          exact ⟨by rw [h.1], hrest⟩

/-- A name is either a plain one, or it stands between quotes. -/
theorem quoteIdentifier_points (name : Text) :
    (isPlainName name.points = true ∧ (quoteIdentifier name).points = name.points) ∨
      (quoteIdentifier name).points =
        .char '"' :: (doubleQuotes name.points ++ [.char '"']) := by
  unfold quoteIdentifier
  by_cases hplain : (isPlainName name.points && !reservedWords.any (name = ·)) = true
  · rw [if_pos hplain]
    simp only [Bool.and_eq_true] at hplain
    exact .inl ⟨hplain.1, rfl⟩
  · rw [if_neg hplain]
    exact .inr rfl

/-- Where two names are written alike, both are plain ones or both stand between quotes. -/
theorem quoteIdentifier_append_alike {a b : Text} {tail tail' : List CodePoint}
    (h : (quoteIdentifier a).points ++ tail = (quoteIdentifier b).points ++ tail') :
    (isPlainName a.points = true ∧ isPlainName b.points = true ∧
        a.points ++ tail = b.points ++ tail') ∨
      doubleQuotes a.points ++ .char '"' :: tail = doubleQuotes b.points ++ .char '"' :: tail' := by
  rcases quoteIdentifier_points a with ⟨hplain, ha⟩ | ha <;>
    rcases quoteIdentifier_points b with ⟨hplain', hb⟩ | hb
  · rw [ha, hb] at h
    exact .inl ⟨hplain, hplain', h⟩
  · obtain ⟨first, rest, hfirst, hne⟩ := (plainName_spec hplain).1
    rw [ha, hb, hfirst] at h
    exact absurd (List.cons.inj h).1 hne
  · obtain ⟨first, rest, hfirst, hne⟩ := (plainName_spec hplain').1
    rw [ha, hb, hfirst] at h
    exact absurd (List.cons.inj h).1.symm hne
  · rw [ha, hb] at h
    simp only [List.cons_append, List.cons.injEq, true_and, List.append_assoc,
      List.nil_append] at h
    exact .inr h

/-- A name can be read off the text in which it is quoted, and what follows it is left. -/
theorem eq_of_quoteIdentifier_append {a b : Text} {c d : CodePoint} {rest rest' : List CodePoint}
    (hc : EndsName c) (hd : EndsName d)
    (h : (quoteIdentifier a).points ++ c :: rest = (quoteIdentifier b).points ++ d :: rest') :
    a = b ∧ c :: rest = d :: rest' := by
  rcases quoteIdentifier_append_alike h with ⟨hplain, hplain', hsame⟩ | hsame
  · obtain ⟨hname, hrest⟩ :=
      eq_of_append_ending (plainName_spec hplain).2 (plainName_spec hplain').2 hc hd hsame
    exact ⟨congrArg Text.mk hname, hrest⟩
  · obtain ⟨hname, hrest⟩ := eq_of_doubleQuotes_append hc.1 hd.1 hsame
    exact ⟨congrArg Text.mk hname, hrest⟩

/-- A name below its schema can be read off the text in which it is quoted. -/
theorem eq_of_qualifiedIdentifier_append {schema schema' name name' : Text} {c : CodePoint}
    {rest rest' : List CodePoint} (hc : EndsName c)
    (h : (qualifiedIdentifier schema name).points ++ c :: rest =
      (qualifiedIdentifier schema' name').points ++ c :: rest') :
    schema = schema' ∧ name = name' := by
  have hpoint : EndsName (.char '.') := by decide
  have hparts : ∀ s n : Text, ∀ tail : List CodePoint, (qualifiedIdentifier s n).points ++ tail =
      (quoteIdentifier s).points ++ .char '.' :: ((quoteIdentifier n).points ++ tail) := by
    intro s n tail
    change ((quoteIdentifier s).points ++ [.char '.'] ++ (quoteIdentifier n).points) ++ tail = _
    simp
  rw [hparts, hparts] at h
  obtain ⟨hschema, htail⟩ := eq_of_quoteIdentifier_append hpoint hpoint h
  exact ⟨hschema, (eq_of_quoteIdentifier_append hc hc (List.cons.inj htail).2).1⟩

/-- A text begins with one of some characters. -/
def Text.OpensWith (t : Text) (openings : List Char) : Prop :=
  ∃ c ∈ openings, ∃ rest, t.points = .char c :: rest

/-- What follows does not change how a text begins. -/
theorem Text.OpensWith.append {t : Text} {openings : List Char} (h : t.OpensWith openings)
    (tail : Text) : (t ++ tail).OpensWith openings := by
  obtain ⟨c, hc, rest, hrest⟩ := h
  exact ⟨c, hc, rest ++ tail.points, congrArg (· ++ tail.points) hrest⟩

/-- A text cannot begin in two ways. -/
theorem Text.OpensWith.not_disjoint {t : Text} {openings openings' : List Char}
    (h : t.OpensWith openings) (h' : t.OpensWith openings') :
    ∃ c ∈ openings, c ∈ openings' := by
  obtain ⟨c, hc, rest, hrest⟩ := h
  obtain ⟨d, hd, rest', hrest'⟩ := h'
  have hsame : c = d := CodePoint.char.inj (List.cons.inj (hrest.symm.trans hrest')).1
  exact ⟨c, hc, hsame ▸ hd⟩

namespace Repair

variable {options : GeneratingOptions}

/-- Keywords begin with their first letter or its capital. -/
theorem keyword_opensWith {words : String} {c : Char} {cs : List Char}
    (h : words.toList = c :: cs) :
    (Text.ofString (options.keyword words)).OpensWith [c, c.toUpper] := by
  unfold GeneratingOptions.keyword
  cases options.uppercaseKeywords with
  | true =>
    refine ⟨c.toUpper, by simp, cs.map fun d => .char d.toUpper, ?_⟩
    simp [Text.ofString, Text.ofChars, h]
  | false =>
    refine ⟨c, by simp, cs.map .char, ?_⟩
    simp [Text.ofString, Text.ofChars, h]

/-- The option to avoid locks does not change how keywords begin. -/
theorem concurrentKeyword_opensWith {before after : String} {c : Char} {cs : List Char}
    (h : before.toList = c :: cs) :
    (Text.ofString (concurrentKeyword options before after)).OpensWith [c, c.toUpper] := by
  have hwords :
      (before ++ (if options.concurrently then " concurrently" else "") ++ after).toList =
        c :: (cs ++ (if options.concurrently then " concurrently" else "").toList ++
          after.toList) := by
    simp [h]
  exact keyword_opensWith hwords

/-- The characters with which the statement of a repair may begin. -/
def openings : Repair → List Char
  | dropIndex .. => ['d', 'D']
  | reindex .. => ['r', 'R']
  | validate .. => ['a', 'A']
  | indexColumns .. => ['c', 'C', '/']

/-- A statement that builds an index begins with its keywords. -/
theorem createIndexSql_opensWith (options : GeneratingOptions) (name : String) (schema : Text)
    (table : String) (columns nullable : List String) :
    (createIndexSql options name schema table columns nullable).OpensWith ['c', 'C'] := by
  have hwords : ("create index" : String).toList = 'c' :: "reate index".toList := rfl
  have hopens : (Text.ofString (concurrentKeyword options "create index"
      " if not exists")).OpensWith ['c', 'C'] := concurrentKeyword_opensWith hwords
  unfold createIndexSql
  repeat' apply Text.OpensWith.append
  exact hopens

/-- What stands between the comment on a name and its statement. -/
def commentGap (options : GeneratingOptions) : String := if options.breakLines then "\n" else " "

/-- The full name stands in a comment as it is. -/
theorem fullNameComment_points (options : GeneratingOptions) (full : String) :
    (fullNameComment options full : Text).points = .char '/' :: .char '*' :: .char ' ' ::
      ((full : Text).points ++ .char ' ' :: .char '*' :: .char '/' ::
        (commentGap options : Text).points) := by
  simp [fullNameComment, commentGap, Text.ofString, Text.ofChars]

/-- A comment on a name begins with a slash. -/
theorem fullNameComment_opensWith (options : GeneratingOptions) (full : String) :
    (Text.ofString (fullNameComment options full)).OpensWith ['/'] :=
  ⟨'/', List.mem_singleton_self _, _, fullNameComment_points options full⟩

/-- The statement of a repair begins in its own way. -/
theorem sql_opensWith (options : GeneratingOptions) (repair : Repair) :
    (repair.sql options).OpensWith repair.openings := by
  cases repair with
  | dropIndex schema index =>
    have hwords : ("drop index" : String).toList = 'd' :: "rop index".toList := rfl
    have hopens : (Text.ofString (concurrentKeyword options "drop index"
        " if exists")).OpensWith ['d', 'D'] := concurrentKeyword_opensWith hwords
    simp only [sql]
    exact ((hopens.append _).append _).append _
  | reindex schema index =>
    have hwords : ("reindex index" : String).toList = 'r' :: "eindex index".toList := rfl
    have hopens : (Text.ofString (concurrentKeyword options "reindex index"
        "")).OpensWith ['r', 'R'] := concurrentKeyword_opensWith hwords
    simp only [sql]
    exact ((hopens.append _).append _).append _
  | validate schema table constraint =>
    have hwords : ("alter table if exists" : String).toList =
        'a' :: "lter table if exists".toList := rfl
    have hopens : (Text.ofString (options.keyword "alter table if exists")).OpensWith ['a', 'A'] :=
      keyword_opensWith hwords
    simp only [sql]
    repeat' apply Text.OpensWith.append
    exact hopens
  | indexColumns schema table columns nullable =>
    simp only [sql]
    generalize indexName options (!nullable.isEmpty) table columns = name
    generalize fullIndexName options (!nullable.isEmpty) table columns = full
    by_cases hfull : name = full
    · have hempty : (Text.ofString "").points = [] := by simp [Text.ofString, Text.ofChars]
      obtain ⟨c, hc, rest, hrest⟩ :=
        createIndexSql_opensWith options name schema table columns nullable
      rw [if_pos hfull]
      refine ⟨c, List.mem_append_left ['/'] hc, rest, ?_⟩
      change (Text.ofString "").points ++ _ = _
      rw [hempty, List.nil_append, hrest]
    · obtain ⟨c, hc, rest, hrest⟩ := fullNameComment_opensWith options full
      rw [if_neg hfull]
      exact Text.OpensWith.append ⟨c, List.mem_append_right ['c', 'C'] hc, rest, hrest⟩ _

/-- The statements of two repairs can only be the same if they begin in the same way. -/
theorem common_opening_of_sql_eq {repair repair' : Repair}
    (h : repair.sql options = repair'.sql options) :
    repair.openings.any repair'.openings.contains = true := by
  obtain ⟨c, hc, hc'⟩ :=
    (h ▸ sql_opensWith options repair).not_disjoint (sql_opensWith options repair')
  exact List.any_eq_true.2 ⟨c, hc, List.contains_iff_mem.2 hc'⟩

/-- The schema and the name can be read off a statement that ends with them. -/
theorem eq_of_targeted {keywords schema schema' name name' : Text}
    (h : keywords ++ " " ++ qualifiedIdentifier schema name ++ ";" =
      keywords ++ " " ++ qualifiedIdentifier schema' name' ++ ";") :
    schema = schema' ∧ name = name' := by
  have hend : (";" : Text).points = [.char ';'] := rfl
  have hsplit : ∀ target : Text, (keywords ++ " " ++ target ++ ";").points =
      (keywords ++ " " : Text).points ++ (target.points ++ [.char ';']) := by
    intro target
    rw [← hend, ← List.append_assoc]
    rfl
  have hpoints := congrArg Text.points h
  rw [hsplit, hsplit] at hpoints
  exact eq_of_qualifiedIdentifier_append (by decide) (List.append_cancel_left hpoints)

/-- A statement that drops an index says which one. -/
theorem eq_dropIndex_of_sql_eq {repair : Repair} {schema index : Text}
    (h : repair.sql options = (dropIndex schema index).sql options) :
    repair = dropIndex schema index := by
  have hcommon := common_opening_of_sql_eq h
  cases repair with
  | dropIndex schema' index' =>
    obtain ⟨rfl, rfl⟩ := eq_of_targeted h
    rfl
  | reindex schema' index' => simp [openings] at hcommon
  | validate schema' table constraint => simp [openings] at hcommon
  | indexColumns schema' table columns nullable => simp [openings] at hcommon

/-- A statement that rebuilds an index says which one. -/
theorem eq_reindex_of_sql_eq {repair : Repair} {schema index : Text}
    (h : repair.sql options = (reindex schema index).sql options) :
    repair = reindex schema index := by
  have hcommon := common_opening_of_sql_eq h
  cases repair with
  | dropIndex schema' index' => simp [openings] at hcommon
  | reindex schema' index' =>
    obtain ⟨rfl, rfl⟩ := eq_of_targeted h
    rfl
  | validate schema' table constraint => simp [openings] at hcommon
  | indexColumns schema' table columns nullable => simp [openings] at hcommon

end Repair

end CatalogHealth
