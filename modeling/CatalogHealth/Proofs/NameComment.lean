import CatalogHealth.Proofs.KeyIndex
import CatalogHealth.Proofs.StatementOrder

/-!
# The comment on a shortened name

A statement whose index has a shortened name begins with a comment that gives the full one. Comments
may stand inside each other, so each one that is opened has to be closed. The full name is written
as it is, whatever characters the table and the columns have in their names. So the comment ends
where it should exactly if the name itself closes what it opens and nothing else. What the statement
behind the comment says is outside the scope of this module.
-/

namespace CatalogHealth

/-! ## Reading a comment -/

/-- What follows a comment, read from inside it with some more comments open that it contains. -/
def behindClosing? (depth : Nat) : List CodePoint → Option (List CodePoint)
  | [] => none
  | [_] => none
  | c :: d :: rest =>
    if c = .char '/' ∧ d = .char '*' then behindClosing? (depth + 1) rest
    else if c = .char '*' ∧ d = .char '/' then
      if depth = 0 then some rest else behindClosing? (depth - 1) rest
    else behindClosing? depth (d :: rest)

/-- What follows the comment that begins with a text, if the text begins with one and the comment is
closed. -/
def Text.behindComment? (t : Text) : Option Text :=
  match t.points with
  | .char '/' :: .char '*' :: rest => (behindClosing? 0 rest).map mk
  | _ => none

/-- How many comments are open behind some code points inside a comment, unless it is closed among
them. -/
def nestingBehind? (depth : Nat) : List CodePoint → Option Nat
  | [] => some depth
  | [_] => some depth
  | c :: d :: rest =>
    if c = .char '/' ∧ d = .char '*' then nestingBehind? (depth + 1) rest
    else if c = .char '*' ∧ d = .char '/' then
      if depth = 0 then none else nestingBehind? (depth - 1) rest
    else nestingBehind? depth (d :: rest)

/-- A code point that belongs to no mark of a comment. -/
def IsNoMark (c : CodePoint) : Prop := c ≠ .char '/' ∧ c ≠ .char '*'

instance (c : CodePoint) : Decidable (IsNoMark c) := inferInstanceAs (Decidable (_ ∧ _))

variable {depth : Nat} {c : CodePoint} {points tail : List CodePoint}

/-- A code point that belongs to no mark is passed over. -/
theorem behindClosing?_cons (hc : IsNoMark c) (tail : List CodePoint) :
    behindClosing? depth (c :: tail) = behindClosing? depth tail := by
  cases tail with
  | nil => rfl
  | cons d rest => rw [behindClosing?, if_neg fun h => hc.1 h.1, if_neg fun h => hc.2 h.1]

/-- What follows a comment is shorter than the text in which the comment ends. -/
theorem length_lt_of_behindClosing? (h : behindClosing? depth points = some tail) :
    tail.length < points.length := by
  fun_induction behindClosing? depth points with
  | case1 => cases h
  | case2 => cases h
  | case3 depth c d rest _ ih =>
    have hshorter := ih h
    simp only [List.length_cons]
    omega
  | case4 c d rest _ _ =>
    cases h
    simp only [List.length_cons]
    omega
  | case5 depth c d rest _ _ _ ih =>
    have hshorter := ih h
    simp only [List.length_cons]
    omega
  | case6 depth c d rest _ _ ih =>
    have hshorter := ih h
    simp only [List.length_cons] at *
    omega

/-- Where some code points inside a comment leave it open, it is read on behind them, and where they
close it, all that comes behind them follows it. The code point between the two parts belongs to no
mark, so that no mark lies across. -/
theorem behindClosing?_append (hc : IsNoMark c) (depth : Nat) (points tail : List CodePoint) :
    (∀ depth', nestingBehind? depth points = some depth' →
      behindClosing? depth (points ++ c :: tail) = behindClosing? depth' (c :: tail)) ∧
    (nestingBehind? depth points = none →
      ∃ rest, behindClosing? depth (points ++ c :: tail) = some (rest ++ c :: tail)) := by
  fun_induction nestingBehind? depth points with
  | case1 depth =>
    refine ⟨fun depth' h => ?_, fun h => by cases h⟩
    cases h
    rfl
  | case2 depth d =>
    refine ⟨fun depth' h => ?_, fun h => by cases h⟩
    cases h
    rw [List.singleton_append, behindClosing?, if_neg fun h => hc.2 h.2, if_neg fun h => hc.1 h.2]
  | case3 depth d e rest hopen ih =>
    rw [List.cons_append, List.cons_append, behindClosing?, if_pos hopen]
    exact ih
  | case4 d e rest hopen hclose =>
    rw [List.cons_append, List.cons_append, behindClosing?, if_neg hopen, if_pos hclose, if_pos rfl]
    exact ⟨fun depth' h => (by cases h), fun _ => ⟨rest, rfl⟩⟩
  | case5 depth d e rest hopen hclose hdepth ih =>
    rw [List.cons_append, List.cons_append, behindClosing?, if_neg hopen, if_pos hclose,
      if_neg hdepth]
    exact ih
  | case6 depth d e rest hopen hclose ih =>
    rw [List.cons_append, List.cons_append, behindClosing?, if_neg hopen, if_neg hclose]
    exact ih

/-- A comment that is closed behind some code points ends there exactly if these close all comments
that they open and no more. -/
theorem behindClosing?_closed_iff (points tail : List CodePoint) :
    behindClosing? 0 (points ++ .char ' ' :: .char '*' :: .char '/' :: tail) = some tail ↔
      nestingBehind? 0 points = some 0 := by
  have hblank : IsNoMark (.char ' ') := by decide
  obtain ⟨hopen, hclosed⟩ :=
    behindClosing?_append hblank 0 points (.char '*' :: .char '/' :: tail)
  have hmark : ∀ depth, behindClosing? depth (.char '*' :: .char '/' :: tail) =
      if depth = 0 then some tail else behindClosing? (depth - 1) tail := by
    intro depth
    rw [behindClosing?, if_neg (by decide), if_pos ⟨rfl, rfl⟩]
  cases hnesting : nestingBehind? 0 points with
  | none =>
    obtain ⟨rest, hrest⟩ := hclosed hnesting
    rw [hrest]
    refine iff_of_false (fun h => ?_) (by rintro ⟨⟩)
    have hlength := congrArg List.length (Option.some.inj h)
    simp only [List.length_append, List.length_cons] at hlength
    omega
  | some depth =>
    rw [hopen depth hnesting, behindClosing?_cons hblank, hmark, Option.some.injEq]
    by_cases hdepth : depth = 0
    · rw [if_pos hdepth]
      exact iff_of_true rfl hdepth
    · rw [if_neg hdepth]
      refine iff_of_false (fun h => ?_) hdepth
      exact absurd (length_lt_of_behindClosing? h) (Nat.lt_irrefl _)

/-- What follows a comment around some code points is what stands behind its end exactly if these
close all comments that they open and no more. -/
theorem Text.behindComment?_eq_iff {t rest : Text} (ht : t.points = .char '/' :: .char '*' ::
      .char ' ' :: (points ++ .char ' ' :: .char '*' :: .char '/' :: rest.points)) :
    t.behindComment? = some rest ↔ nestingBehind? 0 points = some 0 := by
  have hblank : IsNoMark (.char ' ') := by decide
  have hread : t.behindComment? = (behindClosing? 0
      (points ++ .char ' ' :: .char '*' :: .char '/' :: rest.points)).map mk := by
    rw [← behindClosing?_cons hblank]
    simp only [behindComment?, ht]
  rw [hread, ← behindClosing?_closed_iff points rest.points, Option.map_eq_some_iff]
  constructor
  · rintro ⟨found, hfound, rfl⟩
    exact hfound
  · exact fun hfound => ⟨rest.points, hfound, rfl⟩

/-! ## Names that leave the nesting of comments as it is -/

/-- Code points inside a comment close all comments that they open and no more. -/
def LeavesNesting (points : List CodePoint) : Prop :=
  ∀ depth, nestingBehind? depth points = some depth

/-- There is no mark of a comment among some code points. -/
def HasNoMarks (points : List CodePoint) : Prop :=
  ¬("/*" : Text).points <:+: points ∧ ¬("*/" : Text).points <:+: points

theorem HasNoMarks.leavesNesting (h : HasNoMarks points) : LeavesNesting points := by
  intro depth
  fun_induction nestingBehind? depth points with
  | case1 => rfl
  | case2 => rfl
  | case3 depth c d rest hopen _ =>
    obtain ⟨rfl, rfl⟩ := hopen
    exact absurd ⟨[], rest, rfl⟩ h.1
  | case4 c d rest _ hclose =>
    obtain ⟨rfl, rfl⟩ := hclose
    exact absurd ⟨[], rest, rfl⟩ h.2
  | case5 depth c d rest _ hclose _ _ =>
    obtain ⟨rfl, rfl⟩ := hclose
    exact absurd ⟨[], rest, rfl⟩ h.2
  | case6 depth c d rest _ _ ih =>
    have htail : d :: rest <:+: c :: d :: rest := (List.suffix_cons c (d :: rest)).isInfix
    exact ih ⟨fun hopen => h.1 (hopen.trans htail), fun hclose => h.2 (hclose.trans htail)⟩

/-- A code point that belongs to no mark joins two texts without a new mark. -/
theorem nestingBehind?_append (hc : IsNoMark c) (depth : Nat) (points tail : List CodePoint) :
    nestingBehind? depth (points ++ c :: tail) =
      (nestingBehind? depth points).bind fun depth' => nestingBehind? depth' tail := by
  have hpass : ∀ depth, nestingBehind? depth (c :: tail) = nestingBehind? depth tail := by
    intro depth
    cases tail with
    | nil => rfl
    | cons d rest => rw [nestingBehind?, if_neg fun h => hc.1 h.1, if_neg fun h => hc.2 h.1]
  fun_induction nestingBehind? depth points with
  | case1 depth => exact hpass depth
  | case2 depth d =>
    rw [List.singleton_append, nestingBehind?, if_neg fun h => hc.2 h.2, if_neg fun h => hc.1 h.2]
    exact hpass depth
  | case3 depth d e rest hopen ih =>
    rw [List.cons_append, List.cons_append, nestingBehind?, if_pos hopen]
    exact ih
  | case4 d e rest hopen hclose =>
    rw [List.cons_append, List.cons_append, nestingBehind?, if_neg hopen, if_pos hclose, if_pos rfl]
    rfl
  | case5 depth d e rest hopen hclose hdepth ih =>
    rw [List.cons_append, List.cons_append, nestingBehind?, if_neg hopen, if_pos hclose,
      if_neg hdepth]
    exact ih
  | case6 depth d e rest hopen hclose ih =>
    rw [List.cons_append, List.cons_append, nestingBehind?, if_neg hopen, if_neg hclose]
    exact ih

/-- Names that leave the nesting as it is do so together. -/
theorem leavesNesting_intercalate {parts : List String}
    (h : ∀ part ∈ parts, LeavesNesting (part : Text).points) :
    LeavesNesting (("_".intercalate parts : String) : Text).points := by
  have hunderscore : IsNoMark (.char '_') := by decide
  induction parts with
  | nil => exact fun depth => rfl
  | cons part rest ih =>
    obtain ⟨hpart, hrest⟩ := List.forall_mem_cons.1 h
    cases rest with
    | nil => rwa [String.intercalate_singleton]
    | cons next others =>
      have hpoints : (Text.ofString ("_".intercalate (part :: next :: others))).points =
          (Text.ofString part).points ++ .char '_' ::
            (Text.ofString ("_".intercalate (next :: others))).points := by
        simp [Text.ofString, Text.ofChars]
      intro depth
      rw [hpoints, nestingBehind?_append hunderscore, hpart depth, Option.bind_some, ih hrest depth]

/-- The parts of a name are its own and words that the options add. -/
theorem mem_decorated {options : GeneratingOptions} {withoutNulls : Bool} {parts : List String}
    {part : String} (h : part ∈ decorated options withoutNulls parts) :
    part ∈ parts ∨ part = "without_nulls" ∨ part = "idx" := by
  have hmarked : ∀ name, name ∈ (if withoutNulls && options.nameWithoutNulls then
      parts ++ ["without_nulls"] else parts) → name ∈ parts ∨ name = "without_nulls" := by
    intro name hname
    split at hname
    · simpa using hname
    · exact .inl hname
  unfold decorated at h
  cases hplace : options.placement with
  | suffix =>
    simp only [hplace, List.mem_append, List.mem_singleton] at h
    rcases h with h | h
    · exact (hmarked part h).imp_right .inl
    · exact .inr (.inr h)
  | front =>
    simp only [hplace, List.mem_cons] at h
    rcases h with h | h
    · exact .inr (.inr h)
    · exact (hmarked part h).imp_right .inl
  | absent =>
    simp only [hplace] at h
    exact (hmarked part h).imp_right .inl

/-- The full name of an index leaves the nesting of comments as it is if table and columns do. -/
theorem leavesNesting_fullIndexName {options : GeneratingOptions} {withoutNulls : Bool}
    {table : String} {columns : List String}
    (h : ∀ part ∈ table :: columns, LeavesNesting (part : Text).points) :
    LeavesNesting (fullIndexName options withoutNulls table columns : Text).points := by
  refine leavesNesting_intercalate fun part hpart => ?_
  rcases mem_decorated hpart with hmem | rfl | rfl
  · exact h part hmem
  · exact fun depth => rfl
  · exact fun depth => rfl

/-! ## Statements with a comment -/

namespace Repair

variable {options : GeneratingOptions} {schema : Text} {table : String}
  {columns nullable : List String} {f : Finding}

/-- A statement whose index has a shortened name begins with a comment, and what follows it is the
rest of the statement exactly if the full name closes all comments that it opens and no more. -/
theorem behindComment?_sql_iff
    (hshort : indexName options (!nullable.isEmpty) table columns ≠
      fullIndexName options (!nullable.isEmpty) table columns) :
    ((indexColumns schema table columns nullable).sql options).behindComment? =
        some (commentGap options ++ createIndexSql options
          (indexName options (!nullable.isEmpty) table columns) schema table columns nullable) ↔
      nestingBehind? 0 (fullIndexName options (!nullable.isEmpty) table columns : Text).points =
        some 0 := by
  simp only [sql]
  generalize indexName options (!nullable.isEmpty) table columns = name at hshort ⊢
  generalize fullIndexName options (!nullable.isEmpty) table columns = full at hshort ⊢
  generalize hcreate : createIndexSql options name schema table columns nullable = create
  have hpoints : (Text.ofString (if name = full then "" else fullNameComment options full) ++
      create).points = .char '/' :: .char '*' :: .char ' ' :: ((full : Text).points ++
        .char ' ' :: .char '*' :: .char '/' :: (commentGap options ++ create : Text).points) := by
    rw [if_neg hshort, Text.points_append, fullNameComment_points, Text.points_append]
    simp only [List.cons_append, List.append_assoc]
  exact Text.behindComment?_eq_iff hpoints

/-- A finding about a foreign key whose index has a shortened name leads to a statement that begins
with a comment. This ends where it should exactly if the full name closes all comments that it opens
and no more, and so it does if no name in it has a mark of a comment. -/
theorem comment_ends_behind_name_iff
    (h : ofFinding? options f = .ok (some (.indexColumns schema table columns nullable)))
    (hshort : indexName options (!nullable.isEmpty) table columns ≠
      fullIndexName options (!nullable.isEmpty) table columns) :
    ∃ st, Statement.ofFinding? options f = .ok (some st) ∧
      (st.sql.behindComment? = some (commentGap options ++ createIndexSql options
          (indexName options (!nullable.isEmpty) table columns) schema table columns nullable) ↔
        nestingBehind? 0 (fullIndexName options (!nullable.isEmpty) table columns : Text).points =
          some 0) ∧
      ((∀ part ∈ table :: columns, HasNoMarks (part : Text).points) →
        st.sql.behindComment? = some (commentGap options ++ createIndexSql options
          (indexName options (!nullable.isEmpty) table columns) schema table columns
            nullable)) := by
  have hiff := @behindComment?_sql_iff options schema table columns nullable hshort
  refine ⟨_, Statement.ofFinding?_eq_ok_some.2 (Statement.asked?_eq_some.2 ⟨_, h, rfl⟩), hiff,
    fun hmarks => hiff.2 ?_⟩
  exact leavesNesting_fullIndexName (fun part hpart => (hmarks part hpart).leavesNesting) 0

/-- The name of a column that holds a whole comment. -/
def remarkedColumn : String := "shop_/*_or_its_owner_*/_on_the_day_of_the_delivery_to_customers"

/-- The comment on the name of an index on this column ends where it should. -/
theorem comment_ends_behind_name_iff_remarked :
    ofFinding? keyIndexing (uncoveredKeyFinding bareSnapshot
        (foreignKeyOn "orders" [remarkedColumn]) "" "") =
          .ok (some (.indexColumns "public" "orders" [remarkedColumn] [])) ∧
      indexName keyIndexing false "orders" [remarkedColumn] ≠
        fullIndexName keyIndexing false "orders" [remarkedColumn] ∧
      ∃ st, Statement.ofFinding? keyIndexing (uncoveredKeyFinding bareSnapshot
          (foreignKeyOn "orders" [remarkedColumn]) "" "") = .ok (some st) ∧
        st.sql.behindComment? = some (commentGap keyIndexing ++ createIndexSql keyIndexing
          (indexName keyIndexing false "orders" [remarkedColumn]) "public" "orders"
          [remarkedColumn] []) := by
  have hrepair : ofFinding? keyIndexing (uncoveredKeyFinding bareSnapshot
      (foreignKeyOn "orders" [remarkedColumn]) "" "") =
        .ok (some (.indexColumns "public" "orders" [remarkedColumn] [])) := by
    decide +kernel
  have hshort : indexName keyIndexing false "orders" [remarkedColumn] ≠
      fullIndexName keyIndexing false "orders" [remarkedColumn] := by
    decide +kernel
  have hnesting : nestingBehind? 0
      (fullIndexName keyIndexing false "orders" [remarkedColumn] : Text).points = some 0 := by
    decide +kernel
  obtain ⟨st, hst, hiff, -⟩ := comment_ends_behind_name_iff hrepair hshort
  exact ⟨hrepair, hshort, st, hst, hiff.2 hnesting⟩

/-- The name of a column that closes a comment and opens another one. -/
def markedColumn : String := "shop */ drop table orders; /* by_the_day_on_which_it_was_paid"

/-- A table with a foreign key on this column. -/
def markedOrders : Snapshot :=
  { bareSnapshot with
    tables :=
      [{ schema := .text "public", name := .text "orders"
         columns := [{ name := .text markedColumn, notNull := true }] }]
    constraints := [foreignKeyOn "orders" [markedColumn]]
    tables_nodup := by decide
    constraints_nodup := by decide }

/-- The comment on the name of the index for this key ends in the middle of the name, and the rest
of the name is run. -/
theorem markedOrders_runs_name : ∃ report f st rest,
    evaluate markedOrders {} = .ok report ∧ f ∈ report.findings ∧
      ofFinding? keyIndexing f = .ok (some (.indexColumns "public" "orders" [markedColumn] [])) ∧
      indexName keyIndexing false "orders" [markedColumn] ≠
        fullIndexName keyIndexing false "orders" [markedColumn] ∧
      Statement.ofFinding? keyIndexing f = .ok (some st) ∧
      Statement.generate keyIndexing report.findings = .ok [st] ∧
      st.sql.behindComment? = some rest ∧ (" drop table orders;" : Text).points <+: rest.points ∧
      st.sql.behindComment? ≠ some (commentGap keyIndexing ++ createIndexSql keyIndexing
        (indexName keyIndexing false "orders" [markedColumn]) "public" "orders" [markedColumn]
        []) := by
  have hruns : (evaluate markedOrders {} >>= fun report =>
      (Statement.generate keyIndexing report.findings).map fun statements =>
        (report, statements)).toOption.any (fun answer : Report × List Statement =>
          (∀ f ∈ answer.1.findings, ofFinding? keyIndexing f = .ok none ∨ ofFinding? keyIndexing f =
            .ok (some (.indexColumns "public" "orders" [markedColumn] []))) ∧
          answer.2.length = 1) = true := by
    decide +kernel
  have hreads : ((indexColumns "public" "orders" [markedColumn] []).sql
      keyIndexing).behindComment?.any (fun rest => (" drop table orders;" : Text).points <+:
        rest.points ∧ rest ≠ commentGap keyIndexing ++ createIndexSql keyIndexing
          (indexName keyIndexing false "orders" [markedColumn]) "public" "orders" [markedColumn]
          []) = true := by
    decide +kernel
  obtain ⟨⟨report, statements⟩, hanswer, hfacts⟩ := Traversal.exists_ok_of_toOption hruns
  obtain ⟨_, hreport, hanswer⟩ := Traversal.bind_eq_ok.1 hanswer
  obtain ⟨_, hstatements, hpair⟩ := Traversal.map_eq_ok.1 hanswer
  obtain ⟨rfl, rfl⟩ := Prod.mk.inj hpair
  obtain ⟨hrepairs, hlength⟩ := of_decide_eq_true hfacts
  obtain ⟨st, rfl⟩ := List.length_eq_one_iff.1 hlength
  obtain ⟨f, hf, hasked⟩ :=
    Statement.exists_finding_of_mem_generate hstatements (List.mem_singleton_self st)
  obtain ⟨repair, hrepair, hst⟩ := Statement.asked?_eq_some.1 hasked
  have hmade : ofFinding? keyIndexing f =
      .ok (some (.indexColumns "public" "orders" [markedColumn] [])) := by
    refine (hrepairs f (Finding.mem_of_mem_merge hf)).resolve_left fun hnone => ?_
    rw [hnone] at hrepair
    cases hrepair
  rw [hmade] at hrepair
  cases hrepair
  obtain ⟨rest, hrest, hread⟩ := (Option.any_eq_true _ _).1 hreads
  obtain ⟨hbegins, hne⟩ := of_decide_eq_true hread
  have hbehind : st.sql.behindComment? = some rest := by
    rw [hst]
    exact hrest
  refine ⟨_, f, st, rest, hreport, Finding.mem_of_mem_merge hf, hmade, by decide +kernel,
    Statement.ofFinding?_eq_ok_some.2 hasked, hstatements, hbehind, hbegins, ?_⟩
  rw [hbehind]
  exact fun hsame => hne (Option.some.inj hsame)

end Repair

end CatalogHealth
