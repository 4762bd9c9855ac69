import CatalogHealth.Proofs.Measuring
import CatalogHealth.Proofs.Quotation

/-!
# Under which names indexes are measured

An index is measured under a text in which its schema and its own name stand between double quotes,
with a point between them. The server reads such a text as a path: a doubled double quote stands
for one, and one that stands alone ends a name. Quotes in the two names are not doubled, so the
text is read as these names exactly if there are none, and otherwise it may be read as the names of
another index or not at all. What the server does with names that are too long is outside the
scope.
-/

namespace CatalogHealth

/-! ## Paths of names between quotes -/

/-- The names between double quotes with points between them, read from inside the first one: this
name, and those behind it. A doubled double quote stands for one, and one that stands alone ends a
name. -/
def namesInside? : List CodePoint → Option (List CodePoint × List (List CodePoint))
  | [] => none
  | [.char '"'] => some ([], [])
  | .char '"' :: .char '"' :: rest =>
    (namesInside? rest).map fun names => (.char '"' :: names.1, names.2)
  | .char '"' :: .char '.' :: .char '"' :: rest =>
    (namesInside? rest).map fun names => ([], names.1 :: names.2)
  | c :: rest =>
    if c = .char '"' then none else (namesInside? rest).map fun names => (c :: names.1, names.2)

/-- The names that a text between double quotes is a path of, if it is one. -/
def readPath? (t : Text) : Option (List Text) :=
  match t.points with
  | .char '"' :: rest => (namesInside? rest).map fun names => (names.1 :: names.2).map Text.mk
  | _ => none

/-- How a path is written behind its first double quote: each double quote in a name is doubled. -/
def pathInside (name : List CodePoint) : List (List CodePoint) → List CodePoint
  | [] => doubleQuotes name ++ [.char '"']
  | next :: others =>
    doubleQuotes name ++ .char '"' :: .char '.' :: .char '"' :: pathInside next others

/-- A code point that is no quote belongs to the first name. -/
theorem namesInside?_cons {c : CodePoint} (hc : c ≠ .char '"') (rest : List CodePoint) :
    namesInside? (c :: rest) = (namesInside? rest).map fun names => (c :: names.1, names.2) := by
  rw [namesInside?, if_neg hc]
  · rintro rfl
    exact absurd rfl hc
  · rintro _ rfl
    exact absurd rfl hc
  · rintro _ rfl
    exact absurd rfl hc

/-- What is written with its quotes doubled belongs to the first name. -/
theorem namesInside?_doubleQuotes_append (name rest : List CodePoint) :
    namesInside? (doubleQuotes name ++ rest) =
      (namesInside? rest).map fun names => (name ++ names.1, names.2) := by
  induction name with
  | nil => exact Option.map_id'.symm
  | cons c name ih =>
    rw [doubleQuotes_cons]
    by_cases hc : c = .char '"'
    · rw [if_pos hc, hc, List.cons_append, List.cons_append, namesInside?, ih, Option.map_map]
      rfl
    · rw [if_neg hc, List.cons_append, namesInside?_cons hc, ih, Option.map_map]
      rfl

/-- A path that was written is read as its names. -/
theorem namesInside?_pathInside (name : List CodePoint) (others : List (List CodePoint)) :
    namesInside? (pathInside name others) = some (name, others) := by
  induction others generalizing name with
  | nil =>
    rw [pathInside, namesInside?_doubleQuotes_append, namesInside?, Option.map_some,
      List.append_nil]
  | cons next others ih =>
    rw [pathInside, namesInside?_doubleQuotes_append, namesInside?, ih, Option.map_some,
      Option.map_some, List.append_nil]

/-- What is read as some names is how these are written. -/
theorem eq_pathInside_of_namesInside? {points name : List CodePoint}
    {others : List (List CodePoint)} (h : namesInside? points = some (name, others)) :
    points = pathInside name others := by
  fun_induction namesInside? points generalizing name others with
  | case1 => cases h
  | case2 =>
    cases h
    rfl
  | case3 rest ih =>
    obtain ⟨⟨first, more⟩, hrest, heq⟩ := Option.map_eq_some_iff.1 h
    cases heq
    rw [ih hrest]
    cases more <;> rfl
  | case4 rest ih =>
    obtain ⟨⟨first, more⟩, hrest, heq⟩ := Option.map_eq_some_iff.1 h
    cases heq
    rw [ih hrest]
    rfl
  | case5 => cases h
  | case6 c rest _ _ _ hc ih =>
    obtain ⟨⟨first, more⟩, hrest, heq⟩ := Option.map_eq_some_iff.1 h
    cases heq
    rw [ih hrest]
    cases more <;> rw [pathInside, pathInside, doubleQuotes_cons, if_neg hc] <;> rfl

/-- A text between double quotes is a path of some names exactly if it is how these are written. -/
theorem readPath?_eq_some_iff {points : List CodePoint} {first : Text} {others : List Text} :
    readPath? ⟨.char '"' :: points⟩ = some (first :: others) ↔
      points = pathInside first.points (others.map Text.points) := by
  have hread : readPath? ⟨.char '"' :: points⟩ =
      (namesInside? points).map fun names => (names.1 :: names.2).map Text.mk := rfl
  rw [hread, Option.map_eq_some_iff]
  constructor
  · rintro ⟨⟨name, more⟩, hnames, heq⟩
    obtain ⟨rfl, rfl⟩ := List.cons.inj heq
    have hmore : (more.map Text.mk).map Text.points = more :=
      List.map_map.trans (List.map_id more)
    rw [hmore]
    exact eq_pathInside_of_namesInside? hnames
  · rintro rfl
    have hothers : (others.map Text.points).map Text.mk = others :=
      List.map_map.trans (List.map_id others)
    exact ⟨_, namesInside?_pathInside _ _, congrArg (first :: ·) hothers⟩

/-! ## Names without quotes -/

/-- A text has a double quote in it. -/
def Text.HasQuote (t : Text) : Prop := .char '"' ∈ t.points

instance (t : Text) : Decidable t.HasQuote :=
  inferInstanceAs (Decidable (CodePoint.char '"' ∈ t.points))

/-- Each double quote makes a name longer by one. -/
theorem length_doubleQuotes (points : List CodePoint) :
    (doubleQuotes points).length = points.length + points.count (.char '"') := by
  induction points with
  | nil => rfl
  | cons c rest ih =>
    rw [doubleQuotes_cons]
    by_cases hc : c = .char '"'
    · rw [if_pos hc, hc, List.count_cons_self]
      simp only [List.length_cons, ih]
      omega
    · rw [if_neg hc, List.count_cons_of_ne hc]
      simp only [List.length_cons, ih]
      omega

/-- Without double quotes there is nothing to double. -/
theorem doubleQuotes_of_notMem {points : List CodePoint} (h : .char '"' ∉ points) :
    doubleQuotes points = points := by
  induction points with
  | nil => rfl
  | cons c rest ih =>
    obtain ⟨hc, hrest⟩ := not_or.1 (mt List.mem_cons.2 h)
    rw [doubleQuotes_cons, if_neg (Ne.symm hc), ih hrest]

/-- What stands between the schema and the name of an index. -/
def nameSeam : List CodePoint := [.char '"', .char '.', .char '"']

/-- The names of an index stand in its text as they are. -/
theorem measuredIdentifier_eq (schema name : Text) (table : Value) :
    measuredIdentifier ⟨.text schema, table, .text name⟩ =
      ⟨.char '"' :: (schema.points ++ nameSeam ++ name.points ++ [.char '"'])⟩ := by
  have hquote : ("\"" : Text).points = [.char '"'] := rfl
  have hseam : ("\".\"" : Text).points = nameSeam := rfl
  refine congrArg Text.mk ?_
  change ("\"" : Text).points ++ schema.points ++ ("\".\"" : Text).points ++ name.points ++
    ("\"" : Text).points = _
  rw [hquote, hseam]
  rfl

/-- The text of an index is read as its names exactly if these have no double quotes. -/
theorem readPath?_measuredIdentifier_iff (schema name : Text) (table : Value) :
    readPath? (measuredIdentifier ⟨.text schema, table, .text name⟩) = some [schema, name] ↔
      ¬schema.HasQuote ∧ ¬name.HasQuote := by
  have hwritten : pathInside schema.points ([name].map Text.points) =
      doubleQuotes schema.points ++ nameSeam ++ doubleQuotes name.points ++ [.char '"'] := by
    simp [pathInside, nameSeam]
  rw [measuredIdentifier_eq, readPath?_eq_some_iff, hwritten]
  constructor
  · intro h
    -- Every double quote that is doubled makes the path longer than the text.
    have hlength := congrArg List.length h
    simp only [List.length_append, length_doubleQuotes] at hlength
    exact ⟨List.count_eq_zero.1 (by omega), List.count_eq_zero.1 (by omega)⟩
  · rintro ⟨hschema, hname⟩
    rw [doubleQuotes_of_notMem hschema, doubleQuotes_of_notMem hname]

/-! ## Texts of several pairs of names -/

/-- A seam is seen in the text of a pair of names at another place than between them. -/
def ShowsOtherSeam (schema name : Text) : Prop :=
  nameSeam <:+: schema.points ++ [.char '"', .char '.'] ∨
    nameSeam <:+: .char '.' :: .char '"' :: name.points

instance (schema name : Text) : Decidable (ShowsOtherSeam schema name) :=
  inferInstanceAs (Decidable (_ ∨ _))

/-- Two lists around a seam are found again unless another seam is seen. -/
theorem exists_other_split_iff {xs ys : List CodePoint} :
    (∃ xs' ys', (xs', ys') ≠ (xs, ys) ∧ xs' ++ nameSeam ++ ys' = xs ++ nameSeam ++ ys) ↔
      nameSeam <:+: xs ++ [.char '"', .char '.'] ∨ nameSeam <:+: .char '.' :: .char '"' :: ys := by
  have hfront : xs ++ nameSeam ++ ys = xs ++ [.char '"', .char '.'] ++ .char '"' :: ys := by
    simp [nameSeam]
  have hback : xs ++ nameSeam ++ ys = xs ++ [.char '"'] ++ .char '.' :: .char '"' :: ys := by
    simp [nameSeam]
  constructor
  · rintro ⟨xs', ys', hne, heq⟩
    have hlength := congrArg List.length heq
    simp only [List.length_append] at hlength
    rcases Nat.lt_trichotomy xs'.length xs.length with hless | hsame | hmore
    · -- The other seam ends before the second quote of the seam.
      have hprefix : xs' ++ nameSeam <+: xs ++ [.char '"', .char '.'] := by
        refine List.prefix_of_prefix_length_le ⟨ys', heq⟩ ⟨.char '"' :: ys, hfront.symm⟩ ?_
        simp [nameSeam]
        omega
      exact .inl ((List.suffix_append xs' nameSeam).isInfix.trans hprefix.isInfix)
    · obtain ⟨hxs, hys⟩ := List.append_inj heq (by simp [hsame])
      exact absurd (Prod.ext (List.append_inj_left' hxs rfl) hys) hne
    · have hsuffix : nameSeam ++ ys' <:+ .char '.' :: .char '"' :: ys := by
        refine List.suffix_of_suffix_length_le ⟨xs', by rw [← heq, List.append_assoc]⟩
          ⟨xs ++ [.char '"'], hback.symm⟩ ?_
        simp [nameSeam]
        omega
      exact .inr ((List.prefix_append nameSeam ys').isInfix.trans hsuffix.isInfix)
  · rintro (⟨before, behind, h⟩ | ⟨before, behind, h⟩)
    · refine ⟨before, behind ++ .char '"' :: ys, fun hsame => ?_, ?_⟩
      · have hlength := congrArg List.length (Prod.mk.inj hsame).2
        simp only [List.length_append, List.length_cons] at hlength
        omega
      · rw [hfront, ← h]
        simp
    · refine ⟨xs ++ .char '"' :: before, behind, fun hsame => ?_, ?_⟩
      · have hlength := congrArg List.length (Prod.mk.inj hsame).1
        simp only [List.length_append, List.length_cons] at hlength
        omega
      · rw [hback, ← h]
        simp

/-- Another pair of names has the same text exactly if another seam is seen in the text. -/
theorem exists_same_measuredIdentifier_iff (schema name : Text) (table : Value) :
    (∃ schema' name' : Text, (schema', name') ≠ (schema, name) ∧
      measuredIdentifier ⟨.text schema', table, .text name'⟩ =
        measuredIdentifier ⟨.text schema, table, .text name⟩) ↔ ShowsOtherSeam schema name := by
  simp only [measuredIdentifier_eq, Text.mk.injEq, List.cons.injEq, true_and,
    List.append_left_inj]
  rw [ShowsOtherSeam, ← exists_other_split_iff]
  obtain ⟨xs⟩ := schema
  obtain ⟨ys⟩ := name
  constructor
  · rintro ⟨⟨xs'⟩, ⟨ys'⟩, hne, heq⟩
    refine ⟨xs', ys', fun h => hne ?_, heq⟩
    obtain ⟨rfl, rfl⟩ := Prod.mk.inj h
    rfl
  · rintro ⟨xs', ys', hne, heq⟩
    refine ⟨⟨xs'⟩, ⟨ys'⟩, fun h => hne ?_, heq⟩
    obtain ⟨hschema, hname⟩ := Prod.mk.inj h
    exact Prod.ext (Text.mk.inj hschema) (Text.mk.inj hname)

/-! ## Measurements by name -/

/-- A server that knows an answer about each path answers a text about the path that it reads in it,
and it refuses what is no path. -/
def answerTo (server : List Text → Answer) (sent : Text) : Answer :=
  (readPath? sent).elim (.error (.queryFailed "invalid name syntax")) server

/-- What the measurements of a session have to do with the names of the indexes. -/
structure Snapshot.MeasuredByName (s : Snapshot) (db : Database) (log : List SessionEvent) :
    Prop where
  /-- The texts that were sent are those of the indexes that can be measured, in order. -/
  sent : sentNames log = measuredNames s.indexes
  /-- If a server answered them, an index whose names have no double quotes has the estimate that
  the answer about these names shows. -/
  own : ∀ server, db.measurements = (sentNames log).map (answerTo server) →
    ∀ index ∈ s.indexes, index.isMeasurable = true → ∀ schema name : Text,
      index.tableSchema = .text schema → index.name = .text name →
        ¬schema.HasQuote → ¬name.HasQuote →
          bloatOfAnswer (server [schema, name]) = .ok index.bloatRatio

/-- Each index that a session measures is measured under its own names. -/
theorem Snapshot.measuredByName {db : Database} {schemas : List Text} {database : Value}
    {s : Snapshot} {log : List SessionEvent}
    (h : Session.runOn db (Session.readSnapshot db schemas true database) = (.ok s, log)) :
    s.MeasuredByName db log := by
  obtain ⟨hsent, hestimated⟩ := Session.measurements_of_readSnapshot h
  refine ⟨hsent, fun server hserver index hindex hmeasurable schema name hschema hname => ?_⟩
  intro hplain hplain'
  have hread := (readPath?_measuredIdentifier_iff schema name index.tableName).2 ⟨hplain, hplain'⟩
  have hanswer : answerTo server index.measuredName = server [schema, name] := by
    rw [Index.measuredName, hschema, hname, answerTo, hread]
    rfl
  rw [← hanswer]
  refine hestimated (index, some (answerTo server index.measuredName)) ?_
  rw [hserver, hsent]
  exact takeAnswers_map hindex hmeasurable

/-- The text under which an index is measured is read as its schema and its name exactly if these
have no double quotes, and another pair of names has the same text exactly if a seam is seen in it
elsewhere. These texts are what a session sends, and indexes whose names have no double quotes get
their own estimates. -/
theorem measured_names_read_back_iff (schema name : Text) (table : Value) :
    (readPath? (measuredIdentifier ⟨.text schema, table, .text name⟩) = some [schema, name] ↔
      ¬schema.HasQuote ∧ ¬name.HasQuote) ∧
    ((∃ schema' name' : Text, (schema', name') ≠ (schema, name) ∧
      measuredIdentifier ⟨.text schema', table, .text name'⟩ =
        measuredIdentifier ⟨.text schema, table, .text name⟩) ↔ ShowsOtherSeam schema name) ∧
    ∀ (db : Database) (schemas : List Text) (database : Value) (s : Snapshot)
      (log : List SessionEvent),
      Session.runOn db (Session.readSnapshot db schemas true database) = (.ok s, log) →
        s.MeasuredByName db log :=
  ⟨readPath?_measuredIdentifier_iff schema name table,
    exists_same_measuredIdentifier_iff schema name table,
    fun _ _ _ _ _ h => Snapshot.measuredByName h⟩

/-- A server that knows the densities of two indexes. -/
def daysServer (path : List Text) : Answer :=
  if path = ["public", "by_day"] then .ok [[.float (Binary64.ofRatio false 45 1)]]
  else if path = ["public", "by\"day"] then .ok [[.float (Binary64.ofRatio false 9 1)]]
  else .ok []

/-- A database with an index whose name has no double quotes and one whose name has two, measured by
that server. -/
def daysDatabase : Database :=
  indexedOrders [("public", "by_day"), ("public", "by\"\"day")]
    (["\"public\".\"by_day\"", "\"public\".\"by\"\"day\""].map fun (sent : String) =>
      answerTo daysServer sent)

/-- The name without quotes is read back, and its index has its own estimate. -/
theorem measured_names_read_back_iff_daysDatabase :
    (¬Text.HasQuote "public" ∧ ¬Text.HasQuote "by_day") ∧
      readPath? (measuredIdentifier ⟨.text "public", .text "orders", .text "by_day"⟩) =
        some [↑"public", ↑"by_day"] ∧
      ∃ s log, Session.runOn daysDatabase
          (Session.readSnapshot daysDatabase [] true (.text "shop")) = (.ok s, log) ∧
        daysDatabase.measurements = (sentNames log).map (answerTo daysServer) ∧
          ∃ index ∈ s.indexes, index.bloatRatio.isSome = true ∧
            bloatOfAnswer (daysServer ["public", "by_day"]) = .ok index.bloatRatio := by
  have hplain : ¬Text.HasQuote "public" ∧ ¬Text.HasQuote "by_day" := by decide +kernel
  have hread : (Session.runOn daysDatabase (Session.readSnapshot daysDatabase [] true
      (.text "shop"))).1.toOption.any (fun s => s.indexes.any fun index =>
        index.isMeasurable && index.tableSchema = .text "public" && index.name = .text "by_day" &&
          index.bloatRatio.isSome) = true := by
    decide +kernel
  have hserver : daysDatabase.measurements = (sentNames (Session.runOn daysDatabase
      (Session.readSnapshot daysDatabase [] true (.text "shop"))).2).map
        (answerTo daysServer) := by
    decide +kernel
  obtain ⟨s, hs, hindex⟩ := Traversal.exists_ok_of_toOption hread
  obtain ⟨index, hmem, hfacts⟩ := List.any_eq_true.1 hindex
  simp only [Bool.and_eq_true, decide_eq_true_eq] at hfacts
  obtain ⟨⟨⟨hmeasurable, hschema⟩, hname⟩, hsome⟩ := hfacts
  obtain ⟨hiff, -, hruns⟩ := measured_names_read_back_iff "public" "by_day" (.text "orders")
  have hrun : Session.runOn daysDatabase (Session.readSnapshot daysDatabase [] true
      (.text "shop")) = (.ok s, _) := Prod.ext hs rfl
  exact ⟨hplain, hiff.2 hplain, s, _, hrun, hserver, index, hmem, hsome,
    (hruns _ _ _ _ _ hrun).own daysServer hserver index hmem hmeasurable _ _ hschema hname
      hplain.1 hplain.2⟩

/-- A name with a double quote is not read at all, a name with two in a row is read as the name of
another index, and two pairs of names may have the same text. -/
theorem quotedDays_not_read_back :
    readPath? (measuredIdentifier ⟨.text "public", .text "orders", .text "by\"day"⟩) = none ∧
      readPath? (measuredIdentifier ⟨.text "public", .text "orders", .text "by\"\"day"⟩) =
        some [↑"public", ↑"by\"day"] ∧
      measuredIdentifier ⟨.text "public", .text "orders", .text "day\".\"by"⟩ =
        measuredIdentifier ⟨.text "public\".\"day", .text "orders", .text "by"⟩ := by
  decide +kernel

end CatalogHealth
