import CatalogHealth.Proofs.IdentifierReading

/-!
# The statement that builds an index can be read

Names are quoted such that each of them can be read off the text, whatever stands in it, also where
the names form a list or a line break follows. So the schema, the table and all columns can be read
off a statement that builds an index. In such a statement asterisks stand between double quotes
only. The comment on a shortened name is outside the scope of this module.
-/

namespace CatalogHealth

/-! ## Names in a longer text -/

/-- What stands in front of the first separator and what stands behind it can be told apart. -/
theorem eq_of_append_separator {sep : CodePoint} {xs ys rest rest' : List CodePoint}
    (hxs : sep ∉ xs) (hys : sep ∉ ys) (h : xs ++ sep :: rest = ys ++ sep :: rest') :
    xs = ys ∧ rest = rest' := by
  induction xs generalizing ys with
  | nil =>
    cases ys with
    | nil => exact ⟨rfl, (List.cons.inj h).2⟩
    | cons y ys => exact absurd (List.cons.inj h).1 (List.ne_of_not_mem_cons hys)
  | cons x xs ih =>
    cases ys with
    | nil => exact absurd (List.cons.inj h).1.symm (List.ne_of_not_mem_cons hxs)
    | cons y ys =>
      obtain ⟨rfl, htail⟩ := List.cons.inj h
      obtain ⟨rfl, hrest⟩ := ih (fun hmem => hxs (List.mem_cons_of_mem _ hmem))
        (fun hmem => hys (List.mem_cons_of_mem _ hmem)) htail
      exact ⟨rfl, hrest⟩

/-- All code points of a plain word may stand in a plain name. -/
theorem isNamePart_of_mem_plainWord {word : List CodePoint} (h : isPlainWord word = true) :
    ∀ c ∈ word, c.satisfies isNamePart = true := by
  cases word with
  | nil => cases h
  | cons first rest =>
    rw [isPlainWord, Bool.and_eq_true, List.all_eq_true] at h
    exact List.forall_mem_cons.2 ⟨isNamePart_of_isNameStart h.1, h.2⟩

/-- No plain word has a line break. -/
theorem lineFeed_notMem_plainWord {word : List CodePoint} (h : isPlainWord word = true) :
    .char '\n' ∉ word := by
  intro hmem
  have hpart := isNamePart_of_mem_plainWord h _ hmem
  revert hpart
  decide

/-- In front of a line break a plain name ends with its word or with a line break of its own. -/
theorem exists_word_of_isPlainName {name : Text} (h : isPlainName name.points = true)
    (tail : List CodePoint) : ∃ word, .char '\n' ∉ word ∧
      (name.points = word ∧ name.points ++ .char '\n' :: tail = word ++ .char '\n' :: tail ∨
        name.points = word ++ [.char '\n'] ∧
          name.points ++ .char '\n' :: tail = word ++ .char '\n' :: .char '\n' :: tail) := by
  rcases isPlainName_iff.1 h with hword | ⟨word, hword, hname⟩
  · exact ⟨name.points, lineFeed_notMem_plainWord hword, .inl ⟨rfl, rfl⟩⟩
  · exact ⟨word, lineFeed_notMem_plainWord hword, .inr ⟨hname, by simp [hname]⟩⟩

/-- A name can be read off the text in which it is quoted if a single line break follows it. -/
theorem eq_of_quoteIdentifier_lineFeed {a b : Text} {c d : CodePoint} {rest rest' : List CodePoint}
    (hc : c ≠ .char '\n') (hd : d ≠ .char '\n')
    (h : (quoteIdentifier a).points ++ .char '\n' :: c :: rest =
      (quoteIdentifier b).points ++ .char '\n' :: d :: rest') :
    a = b ∧ c :: rest = d :: rest' := by
  rcases quoteIdentifier_append_alike h with ⟨hplain, hplain', hsame⟩ | hsame
  · obtain ⟨word, hword, hsplit⟩ := exists_word_of_isPlainName hplain (c :: rest)
    obtain ⟨word', hword', hsplit'⟩ := exists_word_of_isPlainName hplain' (d :: rest')
    rcases hsplit with ⟨hname, hsplit⟩ | ⟨hname, hsplit⟩ <;>
      rcases hsplit' with ⟨hname', hsplit'⟩ | ⟨hname', hsplit'⟩ <;>
      rw [hsplit, hsplit'] at hsame <;>
      obtain ⟨rfl, htail⟩ := eq_of_append_separator hword hword' hsame
    · exact ⟨congrArg Text.mk (hname.trans hname'.symm), htail⟩
    · exact absurd (List.cons.inj htail).1 hc
    · exact absurd (List.cons.inj htail).1.symm hd
    · exact ⟨congrArg Text.mk (hname.trans hname'.symm), (List.cons.inj htail).2⟩
  · have hbreak : (.char '\n' : CodePoint) ≠ .char '"' := by decide
    obtain ⟨hname, hrest⟩ := eq_of_doubleQuotes_append hbreak hbreak hsame
    exact ⟨congrArg Text.mk hname, (List.cons.inj hrest).2⟩

/-! ## Lists of names -/

theorem Text.points_join_cons (separator t : Text) (ts : List Text) :
    (join separator (t :: ts)).points =
      t.points ++ ts.flatMap fun u => separator.points ++ u.points := by
  induction ts generalizing t with
  | nil => simp [join]
  | cons u rest ih => rw [join_cons_cons, points_append, points_append, ih u]; simp

/-- No name begins with a code point that ends one. -/
theorem quoteIdentifier_append_ne {name : Text} {c : CodePoint} {tail rest : List CodePoint}
    (hc : EndsName c) : (quoteIdentifier name).points ++ tail ≠ c :: rest := by
  rcases quoteIdentifier_points name with ⟨hplain, hname⟩ | hname
  · obtain ⟨⟨first, others, hfirst, -⟩, hparts⟩ := plainName_spec hplain
    rw [hname, hfirst]
    rintro ⟨⟩
    exact hparts c (hfirst ▸ List.mem_cons_self ..) hc
  · rw [hname]
    rintro ⟨⟩
    exact hc.1 rfl

/-- Names stand in a list with the same text behind each of them and a separator between them, and
a code point behind the last one ends the list. -/
structure Lists (separator behind : Text) (stop : CodePoint) : Prop where
  /-- What follows a name that is not the last one ends it. -/
  next : ∃ c rest, EndsName c ∧ behind.points ++ separator.points = c :: rest
  /-- What follows the last name ends it. -/
  last : ∃ c rest, EndsName c ∧ behind.points ++ [stop] = c :: rest
  /-- The list does not end where a separator begins. -/
  stop_ne : ∃ c rest, c ≠ stop ∧ separator.points = c :: rest
  /-- The end of the list does not begin a name. -/
  stop_ends : EndsName stop

namespace Lists

variable {separator behind : Text} {stop : CodePoint} {tail tail' : List CodePoint}

/-- The names of a list that follow its first one. -/
def later (separator behind : Text) (names : List Text) : List CodePoint :=
  names.flatMap fun name =>
    separator.points ++ ((quoteIdentifier name).points ++ behind.points)

/-- What follows a name in a list ends it. -/
theorem exists_ending (h : Lists separator behind stop) (names : List Text)
    (tail : List CodePoint) : ∃ c rest, EndsName c ∧
      behind.points ++ (later separator behind names ++ stop :: tail) = c :: rest := by
  cases names with
  | nil =>
    obtain ⟨c, rest, hc, hlast⟩ := h.last
    exact ⟨c, rest ++ tail, hc, by simp [later, ← List.cons_append, ← hlast]⟩
  | cons name names =>
    obtain ⟨c, rest, hc, hnext⟩ := h.next
    refine ⟨c, rest ++ ((quoteIdentifier name).points ++ (behind.points ++
      (later separator behind names ++ stop :: tail))), hc, ?_⟩
    rw [← List.cons_append, ← hnext]
    simp only [later, List.flatMap_cons, List.append_assoc]

/-- A name and what follows it can be read off a list. -/
theorem eq_of_first (h : Lists separator behind stop) {a b : Text} {as bs : List Text}
    (hsame : (quoteIdentifier a).points ++
        (behind.points ++ (later separator behind as ++ stop :: tail)) =
      (quoteIdentifier b).points ++
        (behind.points ++ (later separator behind bs ++ stop :: tail'))) :
    a = b ∧ later separator behind as ++ stop :: tail =
      later separator behind bs ++ stop :: tail' := by
  obtain ⟨c, rest, hc, hrest⟩ := h.exists_ending as tail
  obtain ⟨d, rest', hd, hrest'⟩ := h.exists_ending bs tail'
  rw [hrest, hrest'] at hsame
  obtain ⟨rfl, hbehind⟩ := eq_of_quoteIdentifier_append hc hd hsame
  rw [← hrest, ← hrest'] at hbehind
  exact ⟨rfl, List.append_cancel_left hbehind⟩

/-- The later names can be read off a list. -/
theorem eq_of_later (h : Lists separator behind stop) {as bs : List Text}
    (hsame : later separator behind as ++ stop :: tail =
      later separator behind bs ++ stop :: tail') : as = bs ∧ tail = tail' := by
  obtain ⟨c, rest, hc, hseparator⟩ := h.stop_ne
  induction as generalizing bs with
  | nil =>
    cases bs with
    | nil => exact ⟨rfl, (List.cons.inj hsame).2⟩
    | cons b bs =>
      simp only [later, List.flatMap_nil, List.nil_append, List.flatMap_cons, hseparator,
        List.cons_append] at hsame
      exact absurd (List.cons.inj hsame).1.symm hc
  | cons a as ih =>
    cases bs with
    | nil =>
      simp only [later, List.flatMap_nil, List.nil_append, List.flatMap_cons, hseparator,
        List.cons_append] at hsame
      exact absurd (List.cons.inj hsame).1 hc
    | cons b bs =>
      simp only [later, List.flatMap_cons, List.append_assoc] at hsame
      obtain ⟨rfl, hrest⟩ := h.eq_of_first (List.append_cancel_left hsame)
      obtain ⟨rfl, htail⟩ := ih hrest
      exact ⟨rfl, htail⟩

/-- The names can be read off a list. -/
theorem eq_of_join (h : Lists separator behind stop) {as bs : List Text}
    (hsame : (Text.join separator (as.map fun name => quoteIdentifier name ++ behind)).points ++
        stop :: tail =
      (Text.join separator (bs.map fun name => quoteIdentifier name ++ behind)).points ++
        stop :: tail') : as = bs ∧ tail = tail' := by
  have hempty : (Text.join separator []).points = [] := rfl
  have hjoin : ∀ (name : Text) (names : List Text) (tail : List CodePoint),
      (Text.join separator ((name :: names).map fun n => quoteIdentifier n ++ behind)).points ++
        stop :: tail = (quoteIdentifier name).points ++
          (behind.points ++ (later separator behind names ++ stop :: tail)) := by
    intro name names tail
    rw [List.map_cons, Text.points_join_cons, Text.points_append, List.flatMap_map]
    simp only [later, Text.points_append, List.append_assoc]
  cases as with
  | nil =>
    cases bs with
    | nil => exact ⟨rfl, (List.cons.inj (List.append_cancel_left hsame)).2⟩
    | cons b bs =>
      rw [hjoin, List.map_nil, hempty, List.nil_append] at hsame
      exact absurd hsame.symm (quoteIdentifier_append_ne h.stop_ends)
  | cons a as =>
    cases bs with
    | nil =>
      rw [hjoin, List.map_nil, hempty, List.nil_append] at hsame
      exact absurd hsame (quoteIdentifier_append_ne h.stop_ends)
    | cons b bs =>
      rw [hjoin, hjoin] at hsame
      obtain ⟨rfl, hrest⟩ := h.eq_of_first hsame
      obtain ⟨rfl, htail⟩ := h.eq_of_later hrest
      exact ⟨rfl, htail⟩

end Lists

/-! ## Statements that build an index -/

namespace Repair

variable {options : GeneratingOptions}

/-- What stands between the name of an index and its table, which may begin with a line break. -/
def tableKeyword (options : GeneratingOptions) : Text :=
  (if options.breakLines then "\n" ++ String.ofList (List.replicate options.indentation ' ')
    else " " : String) ++ options.keyword "on"

/-- What stands behind the columns of an index. -/
def closing (options : GeneratingOptions) (nullable : List String) : Text :=
  (if nullable.isEmpty then ("" : Text)
    else " " ++ options.keyword "where" ++ " " ++ notNullCondition options nullable) ++ ";"

/-- The parts of a statement that builds an index. -/
theorem createIndexSql_points (options : GeneratingOptions) (name : String) (schema : Text)
    (table : String) (columns nullable : List String) :
    (createIndexSql options name schema table columns nullable).points =
      (concurrentKeyword options "create index" " if not exists" ++ " " : Text).points ++
        ((quoteIdentifier name).points ++ ((tableKeyword options).points ++ .char ' ' ::
          ((qualifiedIdentifier schema table).points ++ .char ' ' :: .char '(' ::
            ((Text.join ", " ((columns.map Text.ofString).map fun name =>
              quoteIdentifier name ++ "")).points ++
                .char ')' :: (closing options nullable).points)))) := by
  have hblank : (" " : Text).points = [.char ' '] := rfl
  have hopen : (" (" : Text).points = [.char ' ', .char '('] := rfl
  have hclose : (")" : Text).points = [.char ')'] := rfl
  simp only [createIndexSql, tableKeyword, closing, Text.points_append, List.append_assoc, hblank,
    hopen, hclose, List.cons_append, List.nil_append, Text.append_empty, List.map_map,
    Function.comp_def]

/-- A blank stands between the name of an index and its table, or a single line break. -/
theorem tableKeyword_points (options : GeneratingOptions) :
    (∃ rest, (tableKeyword options).points = .char ' ' :: rest) ∨
      ∃ c rest, c ≠ .char '\n' ∧ (tableKeyword options).points = .char '\n' :: c :: rest := by
  have hwords : ("on" : String).toList = 'o' :: ['n'] := rfl
  have hopens : (Text.ofString (options.keyword "on")).OpensWith ['o', 'O'] :=
    keyword_opensWith hwords
  obtain ⟨first, hfirst, rest, hrest⟩ := hopens
  have hletter : (.char first : CodePoint) ≠ .char '\n' := by
    rintro ⟨⟩
    revert hfirst
    decide
  rw [tableKeyword, Text.points_append, hrest]
  cases options.breakLines with
  | false => exact .inl ⟨.char first :: rest, by rw [if_neg Bool.false_ne_true]; rfl⟩
  | true =>
    have hindented : (Text.ofString ("\n" ++ String.ofList (List.replicate options.indentation
        ' '))).points = .char '\n' :: List.replicate options.indentation (.char ' ') := by
      simp [Text.ofString, Text.ofChars]
    refine .inr ?_
    rw [if_pos rfl, hindented]
    cases options.indentation with
    | zero => exact ⟨.char first, rest, hletter, rfl⟩
    | succ n =>
      exact ⟨.char ' ', List.replicate n (.char ' ') ++ .char first :: rest, by decide, rfl⟩

/-- The name of an index can be read off the statement that builds it. -/
theorem eq_of_tableKeyword {a b : Text} {tail tail' : List CodePoint}
    (h : (quoteIdentifier a).points ++ ((tableKeyword options).points ++ tail) =
      (quoteIdentifier b).points ++ ((tableKeyword options).points ++ tail')) :
    a = b ∧ tail = tail' := by
  rcases tableKeyword_points options with ⟨rest, hgap⟩ | ⟨c, rest, hc, hgap⟩
  · rw [hgap] at h
    obtain ⟨hname, htail⟩ := eq_of_quoteIdentifier_append (by decide) (by decide) h
    exact ⟨hname, List.append_cancel_left (List.cons.inj htail).2⟩
  · rw [hgap] at h
    obtain ⟨hname, htail⟩ := eq_of_quoteIdentifier_lineFeed hc hc h
    exact ⟨hname, List.append_cancel_left (List.cons.inj htail).2⟩

/-- How the columns of an index stand in its statement. -/
theorem lists_columns : Lists ", " "" (.char ')') where
  next := ⟨.char ',', [.char ' '], by decide, rfl⟩
  last := ⟨.char ')', [], by decide, rfl⟩
  stop_ne := ⟨.char ',', [.char ' '], by decide, rfl⟩
  stop_ends := by decide

/-- How the columns of its condition stand in a statement. -/
theorem lists_conditions (options : GeneratingOptions) :
    Lists (" " ++ options.keyword "and" ++ " " : Text) (" " ++ options.keyword "is not null" : Text)
      (.char ';') where
  next := ⟨.char ' ', _, by decide, rfl⟩
  last := ⟨.char ' ', _, by decide, rfl⟩
  stop_ne := ⟨.char ' ', _, by decide, rfl⟩
  stop_ends := by decide

/-- The columns that are not null can be read off the end of a statement. -/
theorem eq_of_closing {nullable nullable' : List String}
    (h : (closing options nullable).points = (closing options nullable').points) :
    nullable = nullable' := by
  have hpoints : ∀ (name : String) (names : List String), (closing options (name :: names)).points =
      (" " ++ options.keyword "where" ++ " " : Text).points ++
        ((Text.join (" " ++ options.keyword "and" ++ " " : Text)
          (((name :: names).map Text.ofString).map fun name =>
            quoteIdentifier name ++ (" " ++ options.keyword "is not null" : Text))).points ++
              .char ';' :: []) := by
    intro name names
    have hend : (";" : Text).points = [.char ';'] := rfl
    simp only [closing, notNullCondition, List.isEmpty_cons, Bool.false_eq_true, if_false,
      List.map_map, Function.comp_def, Text.points_append, Text.append_assoc, List.append_assoc,
      hend]
  cases nullable with
  | nil =>
    cases nullable' with
    | nil => rfl
    | cons name names => rw [hpoints] at h; cases h
  | cons name names =>
    cases nullable' with
    | nil => rw [hpoints] at h; cases h
    | cons name' names' =>
      rw [hpoints, hpoints] at h
      obtain ⟨hsame, -⟩ := (lists_conditions options).eq_of_join (List.append_cancel_left h)
      exact (List.map_inj_right fun _ _ => Text.ofString_injective).1 hsame

/-- All that a statement names can be read off it. -/
theorem eq_of_createIndexSql {name name' table table' : String} {schema schema' : Text}
    {columns columns' nullable nullable' : List String}
    (h : createIndexSql options name schema table columns nullable =
      createIndexSql options name' schema' table' columns' nullable') :
    schema = schema' ∧ table = table' ∧ columns = columns' ∧ nullable = nullable' := by
  have hpoints := congrArg Text.points h
  rw [createIndexSql_points, createIndexSql_points] at hpoints
  obtain ⟨-, htable⟩ := eq_of_tableKeyword (List.append_cancel_left hpoints)
  obtain ⟨hschema, hname⟩ := eq_of_qualifiedIdentifier_append (by decide) (List.cons.inj htable).2
  obtain rfl := hschema
  obtain rfl := Text.ofString_injective hname
  have hlist := List.append_cancel_left (List.cons.inj htable).2
  obtain ⟨hcolumns, hclosing⟩ :=
    lists_columns.eq_of_join (List.cons.inj (List.cons.inj hlist).2).2
  exact ⟨rfl, rfl, (List.map_inj_right fun _ _ => Text.ofString_injective).1 hcolumns,
    eq_of_closing hclosing⟩

end Repair

/-! ## Asterisks between double quotes -/

/-- Whether the end of some code points stands between double quotes, given whether their beginning
does; there is no answer if an asterisk stands outside. -/
def insideQuotes? (inside : Bool) : List CodePoint → Option Bool
  | [] => some inside
  | c :: rest =>
    if c = .char '"' then insideQuotes? (!inside) rest
    else if c = .char '*' ∧ inside = false then none
    else insideQuotes? inside rest

theorem insideQuotes?_append (inside : Bool) (points rest : List CodePoint) :
    insideQuotes? inside (points ++ rest) =
      (insideQuotes? inside points).bind (insideQuotes? · rest) := by
  fun_induction insideQuotes? inside points with
  | case1 => rfl
  | case2 inside tail ih => rw [List.cons_append, insideQuotes?, if_pos rfl, ih]
  | case3 inside c tail hquote hstar =>
    rw [List.cons_append, insideQuotes?, if_neg hquote, if_pos hstar]
    rfl
  | case4 inside c tail hquote hstar ih =>
    rw [List.cons_append, insideQuotes?, if_neg hquote, if_neg hstar, ih]

/-- What is not between quotes in one reading is so in the other. -/
theorem insideQuotes?_not {inside inside' : Bool} {points : List CodePoint}
    (h : insideQuotes? true points = some inside) (h' : insideQuotes? false points = some inside') :
    inside = !inside' := by
  have hgeneral : ∀ start, insideQuotes? start points = some inside →
      insideQuotes? (!start) points = some inside' → inside = !inside' := by
    clear h h'
    intro start
    induction points generalizing start with
    | nil =>
      rintro ⟨⟩ ⟨⟩
      rw [Bool.not_not]
    | cons c rest ih =>
      intro h h'
      rw [insideQuotes?] at h h'
      by_cases hquote : c = .char '"'
      · rw [if_pos hquote] at h h'
        exact ih _ h h'
      · rw [if_neg hquote] at h h'
        split at h
        · cases h
        · split at h'
          · cases h'
          · exact ih _ h h'
  exact hgeneral true h h'

/-- Between double quotes nothing ends them, as those in a name are doubled. -/
theorem insideQuotes?_doubleQuotes (points : List CodePoint) :
    insideQuotes? true (doubleQuotes points) = some true := by
  induction points with
  | nil => rfl
  | cons c rest ih =>
    rw [doubleQuotes_cons]
    by_cases hquote : c = .char '"'
    · rw [if_pos hquote, insideQuotes?, if_pos hquote, insideQuotes?, if_pos hquote, Bool.not_not,
        ih]
    · rw [if_neg hquote, insideQuotes?, if_neg hquote, if_neg (by simp), ih]

/-- Without double quotes and asterisks nothing changes. -/
theorem insideQuotes?_of_forall {points : List CodePoint}
    (h : ∀ c ∈ points, c ≠ .char '"' ∧ c ≠ .char '*') (inside : Bool) :
    insideQuotes? inside points = some inside := by
  induction points with
  | nil => rfl
  | cons c rest ih =>
    obtain ⟨⟨hquote, hstar⟩, hrest⟩ := List.forall_mem_cons.1 h
    rw [insideQuotes?, if_neg hquote, if_neg fun h => hstar h.1, ih hrest]

/-- Double quotes come in pairs in a text, and asterisks stand between them only. -/
def Text.QuotesStars (t : Text) : Prop := insideQuotes? false t.points = some false

namespace Text.QuotesStars

variable {t u : Text}

theorem append (ht : t.QuotesStars) (hu : u.QuotesStars) : (t ++ u).QuotesStars := by
  rw [QuotesStars, points_append, insideQuotes?_append, ht]
  exact hu

theorem join {separator : Text} {ts : List Text} (hseparator : separator.QuotesStars)
    (hts : ∀ t ∈ ts, t.QuotesStars) : (Text.join separator ts).QuotesStars := by
  induction ts with
  | nil => simp [Text.join, QuotesStars, ofString, ofChars, insideQuotes?]
  | cons t rest ih =>
    obtain ⟨ht, hrest⟩ := List.forall_mem_cons.1 hts
    cases rest with
    | nil => exact ht
    | cons u rest =>
      rw [join_cons_cons]
      exact (ht.append hseparator).append (ih hrest)

/-- A text without double quotes and asterisks. -/
theorem ofString {string : String} (h : string.toList.all (fun c => c ≠ '"' ∧ c ≠ '*') = true) :
    (Text.ofString string).QuotesStars := by
  refine insideQuotes?_of_forall (fun point hpoint => ?_) false
  obtain ⟨c, hc, rfl⟩ := List.mem_map.1 hpoint
  obtain ⟨hquote, hstar⟩ := of_decide_eq_true (List.all_eq_true.1 h c hc)
  exact ⟨fun heq => hquote (CodePoint.char.inj heq), fun heq => hstar (CodePoint.char.inj heq)⟩

/-- A name is quoted if it has an asterisk. -/
theorem quoteIdentifier (name : Text) : (CatalogHealth.quoteIdentifier name).QuotesStars := by
  rw [QuotesStars]
  rcases quoteIdentifier_points name with ⟨hplain, hname⟩ | hname
  · have hpart : ∀ c : CodePoint, c.satisfies isNamePart = true →
        c ≠ .char '"' ∧ c ≠ .char '*' := by
      rintro c hc
      constructor <;> rintro rfl <;> revert hc <;> decide
    rw [hname]
    refine insideQuotes?_of_forall (fun c hc => ?_) false
    rcases isPlainName_iff.1 hplain with hword | ⟨word, hword, hbroken⟩
    · exact hpart c (isNamePart_of_mem_plainWord hword c hc)
    · rw [hbroken] at hc
      rcases List.mem_append.1 hc with hc | hc
      · exact hpart c (isNamePart_of_mem_plainWord hword c hc)
      · rw [List.mem_singleton.1 hc]
        decide
  · rw [hname, insideQuotes?, if_pos rfl, insideQuotes?_append, Bool.not_false,
      insideQuotes?_doubleQuotes]
    rfl

end Text.QuotesStars

namespace Repair

variable {options : GeneratingOptions}

/-- Keywords have no asterisks. -/
theorem quotesStars_keyword {words : String}
    (h : words.toList.all (fun c => c ≠ '"' ∧ c ≠ '*') = true)
    (hcapital : words.toList.all (fun c => c.toUpper ≠ '"' ∧ c.toUpper ≠ '*') = true) :
    (Text.ofString (options.keyword words)).QuotesStars := by
  refine Text.QuotesStars.ofString ?_
  unfold GeneratingOptions.keyword
  split
  · rw [String.toList_ofList, List.all_map]
    exact hcapital
  · exact h

/-- A condition has asterisks only in the names of its columns. -/
theorem quotesStars_notNullCondition (options : GeneratingOptions) (nullable : List String) :
    (notNullCondition options nullable).QuotesStars := by
  have hblank : (" " : Text).QuotesStars := .ofString (by decide)
  have hand : (Text.ofString (options.keyword "and")).QuotesStars :=
    quotesStars_keyword (by decide) (by decide)
  have hfilled : (Text.ofString (options.keyword "is not null")).QuotesStars :=
    quotesStars_keyword (by decide) (by decide)
  refine .join ((hblank.append hand).append hblank) fun t ht => ?_
  obtain ⟨column, -, rfl⟩ := List.mem_map.1 ht
  exact ((Text.QuotesStars.quoteIdentifier column).append hblank).append hfilled

/-- A statement that builds an index has asterisks only in names. -/
theorem quotesStars_createIndexSql (options : GeneratingOptions) (name : String) (schema : Text)
    (table : String) (columns nullable : List String) :
    (createIndexSql options name schema table columns nullable).QuotesStars := by
  have hblank : (" " : Text).QuotesStars := .ofString (by decide)
  have hkeyword : (Text.ofString
      (concurrentKeyword options "create index" " if not exists")).QuotesStars := by
    unfold concurrentKeyword
    cases options.concurrently <;> exact quotesStars_keyword (by decide) (by decide)
  have hseparator : (Text.ofString (if options.breakLines then
      "\n" ++ String.ofList (List.replicate options.indentation ' ') else " ")).QuotesStars := by
    refine .ofString ?_
    split
    · simp
    · decide
  have htable : (qualifiedIdentifier schema table).QuotesStars :=
    ((Text.QuotesStars.quoteIdentifier schema).append (.ofString (by decide))).append
      (.quoteIdentifier table)
  have hcolumns : (Text.join ", " (columns.map fun (column : String) =>
      quoteIdentifier column)).QuotesStars := by
    refine .join (.ofString (by decide)) fun t ht => ?_
    obtain ⟨column, -, rfl⟩ := List.mem_map.1 ht
    exact .quoteIdentifier column
  have hcondition : (if nullable.isEmpty then ("" : Text)
      else " " ++ options.keyword "where" ++ " " ++
        notNullCondition options nullable).QuotesStars := by
    split
    · exact .ofString (by decide)
    · have hwhere : (Text.ofString (options.keyword "where")).QuotesStars :=
        quotesStars_keyword (by decide) (by decide)
      exact ((hblank.append hwhere).append hblank).append
        (quotesStars_notNullCondition options nullable)
  have hname := (hkeyword.append hblank).append (.quoteIdentifier name)
  have hon : (Text.ofString (options.keyword "on")).QuotesStars :=
    quotesStars_keyword (by decide) (by decide)
  have hopen : (" (" : Text).QuotesStars := .ofString (by decide)
  have hclose : (")" : Text).QuotesStars := .ofString (by decide)
  have hlist :=
    ((((((hname.append hseparator).append hon).append hblank).append htable).append hopen).append
      hcolumns).append hclose
  exact (hlist.append hcondition).append (.ofString (by decide))

end Repair

end CatalogHealth
