import CatalogHealth.Proofs.IndexStatement
import CatalogHealth.Proofs.StatementOrder

/-!
# The text of a statement says which repair it makes

Keywords tell the kinds of repairs apart, and the names of what is repaired can be read off the
text. The comment in front of an index with a shortened name may hold anything. It can be told from
the statement behind it because in a statement asterisks stand between double quotes only. So two
statements with one text make the same repair, and a statement that is left out because its text is
not new leaves nothing undone. Statements that are written under different options are outside the
scope of this module.
-/

namespace CatalogHealth

namespace Repair

variable {options : GeneratingOptions}

/-! ## Comments in front of statements -/

/-- What stands behind the full name in a comment. -/
def commentEnd (options : GeneratingOptions) : List CodePoint :=
  .char ' ' :: .char '*' :: .char '/' :: (commentGap options : Text).points

/-- Neither double quotes nor asterisks stand between a comment and its statement. -/
theorem insideQuotes?_commentGap (options : GeneratingOptions) (inside : Bool) :
    insideQuotes? inside (commentGap options : Text).points = some inside := by
  unfold commentGap
  cases options.breakLines <;> cases inside <;> decide

/-- No asterisk stands outside of double quotes, so the end of a comment does not stand in front of
a statement where these are paired. -/
theorem insideQuotes?_commentEnd {u : Text} (hu : u.QuotesStars) (before : List CodePoint) :
    insideQuotes? false (before ++ (commentEnd options ++ u.points)) ≠ some false := by
  intro h
  rw [insideQuotes?_append] at h
  obtain ⟨inside, -, hend⟩ := Option.bind_eq_some_iff.1 h
  cases inside with
  | false => cases hend
  | true =>
    have hbehind : insideQuotes? true u.points = some false := by
      have hmark : insideQuotes? true (commentEnd options) = some true :=
        insideQuotes?_commentGap options true
      rwa [insideQuotes?_append, hmark, Option.bind_some] at hend
    cases insideQuotes?_not hbehind hu

/-- A statement does not contain the end of a comment with another statement behind it. -/
theorem eq_nil_of_commentEnd {t u : Text} (ht : t.QuotesStars) (hu : u.QuotesStars)
    {between : List CodePoint}
    (h : commentEnd options ++ t.points = between ++ (commentEnd options ++ u.points)) :
    between = [] := by
  rcases between with _ | ⟨c₁, _ | ⟨c₂, _ | ⟨c₃, between⟩⟩⟩
  · rfl
  · simp [commentEnd] at h
  · simp [commentEnd] at h
  · -- The end of the comment would stand behind the slash.
    have hrest : (commentGap options : Text).points ++ t.points =
        between ++ (commentEnd options ++ u.points) :=
      (List.cons.inj (List.cons.inj (List.cons.inj h).2).2).2
    have hpaired : insideQuotes? false (between ++ (commentEnd options ++ u.points)) =
        some false := by
      rw [← hrest, insideQuotes?_append, insideQuotes?_commentGap]
      exact ht
    exact absurd hpaired (insideQuotes?_commentEnd hu between)

/-- A statement can be told from the comment in front of it. -/
theorem eq_of_commentEnd {t u : Text} (ht : t.QuotesStars) (hu : u.QuotesStars)
    {full full' : List CodePoint}
    (h : full ++ (commentEnd options ++ t.points) = full' ++ (commentEnd options ++ u.points)) :
    t = u := by
  rcases List.append_eq_append_iff.1 h with ⟨between, rfl, hsame⟩ | ⟨between, rfl, hsame⟩
  · rw [eq_nil_of_commentEnd ht hu hsame] at hsame
    exact congrArg Text.mk (List.append_cancel_left hsame)
  · rw [eq_nil_of_commentEnd hu ht hsame] at hsame
    exact congrArg Text.mk (List.append_cancel_left hsame).symm

/-- A comment with a statement behind it. -/
theorem commented_points (options : GeneratingOptions) (full : String) (t : Text) :
    (fullNameComment options full ++ t : Text).points = .char '/' :: .char '*' :: .char ' ' ::
      ((full : Text).points ++ (commentEnd options ++ t.points)) := by
  rw [Text.points_append, fullNameComment_points, commentEnd]
  simp only [List.cons_append, List.append_assoc]

/-- What begins with a keyword has no comment in front of it. -/
theorem ne_commented {t : Text} (ht : t.OpensWith ['c', 'C']) (full : String) (u : Text) :
    t ≠ fullNameComment options full ++ u := by
  rintro rfl
  obtain ⟨c, hc, hslash⟩ := ht.not_disjoint ((fullNameComment_opensWith options full).append u)
  rw [List.mem_singleton.1 hslash] at hc
  exact absurd hc (by decide)

/-- Statements are the same if they are so with comments in front of them, where there are any. -/
theorem eq_of_commented {name name' full full' : String} {t u : Text} (ht : t.QuotesStars)
    (hu : u.QuotesStars) (htopens : t.OpensWith ['c', 'C']) (huopens : u.OpensWith ['c', 'C'])
    (h : Text.ofString (if name = full then "" else fullNameComment options full) ++ t =
      Text.ofString (if name' = full' then "" else fullNameComment options full') ++ u) :
    t = u := by
  have hempty : ∀ v : Text, Text.ofString "" ++ v = v := fun v => rfl
  by_cases hfull : name = full <;> by_cases hfull' : name' = full'
  · rwa [if_pos hfull, if_pos hfull', hempty, hempty] at h
  · rw [if_pos hfull, if_neg hfull', hempty] at h
    exact absurd h (ne_commented htopens full' u)
  · rw [if_neg hfull, if_pos hfull', hempty] at h
    exact absurd h.symm (ne_commented huopens full t)
  · rw [if_neg hfull, if_neg hfull'] at h
    have hpoints := congrArg Text.points h
    rw [commented_points, commented_points] at hpoints
    exact eq_of_commentEnd ht hu (List.cons.inj (List.cons.inj (List.cons.inj hpoints).2).2).2

/-! ## All statements -/

/-- A statement that builds an index says which one. -/
theorem eq_indexColumns_of_sql_eq {repair : Repair} {schema : Text} {table : String}
    {columns nullable : List String}
    (h : repair.sql options = (indexColumns schema table columns nullable).sql options) :
    repair = indexColumns schema table columns nullable := by
  have hcommon := common_opening_of_sql_eq h
  cases repair with
  | dropIndex schema' index => simp [openings] at hcommon
  | reindex schema' index => simp [openings] at hcommon
  | validate schema' table' constraint => simp [openings] at hcommon
  | indexColumns schema' table' columns' nullable' =>
    have hcreate := eq_of_commented (quotesStars_createIndexSql ..) (quotesStars_createIndexSql ..)
      (createIndexSql_opensWith ..) (createIndexSql_opensWith ..) h
    obtain ⟨rfl, rfl, rfl, rfl⟩ := eq_of_createIndexSql hcreate
    rfl

/-- A statement that checks a constraint says which one. -/
theorem eq_validate_of_sql_eq {repair : Repair} {schema table constraint : Text}
    (h : repair.sql options = (validate schema table constraint).sql options) :
    repair = validate schema table constraint := by
  have hcommon := common_opening_of_sql_eq h
  cases repair with
  | dropIndex schema' index => simp [openings] at hcommon
  | reindex schema' index => simp [openings] at hcommon
  | indexColumns schema' table' columns nullable => simp [openings] at hcommon
  | validate schema' table' constraint' =>
    have hsplit : ∀ schema table constraint,
        ((validate schema table constraint).sql options).points =
          (options.keyword "alter table if exists" ++ " " : Text).points ++
          ((qualifiedIdentifier schema table).points ++ .char ' ' ::
            ((options.keyword "validate constraint" ++ " " : Text).points ++
              ((quoteIdentifier constraint).points ++ [.char ';']))) := by
      intro schema table constraint
      have hblank : (" " : Text).points = [.char ' '] := rfl
      have hend : (";" : Text).points = [.char ';'] := rfl
      simp only [sql, Text.points_append, List.append_assoc, hblank, hend, List.cons_append,
        List.nil_append]
    have hpoints := congrArg Text.points h
    rw [hsplit, hsplit] at hpoints
    have htarget := List.append_cancel_left hpoints
    obtain ⟨rfl, rfl⟩ := eq_of_qualifiedIdentifier_append (by decide) htarget
    have hconstraint := List.append_cancel_left (List.cons.inj (List.append_cancel_left htarget)).2
    obtain ⟨rfl, -⟩ := eq_of_quoteIdentifier_append (by decide) (by decide) hconstraint
    rfl

/-- Statements with one text make the same repair. -/
theorem eq_of_sql_eq {repair repair' : Repair} (h : repair.sql options = repair'.sql options) :
    repair = repair' := by
  cases repair' with
  | dropIndex schema index => exact eq_dropIndex_of_sql_eq h
  | reindex schema index => exact eq_reindex_of_sql_eq h
  | validate schema table constraint => exact eq_validate_of_sql_eq h
  | indexColumns schema table columns nullable => exact eq_indexColumns_of_sql_eq h

end Repair

/-! ## Statements of findings -/

variable {options : GeneratingOptions} {findings : List Finding} {statements : List Statement}
  {f : Finding} {repair : Repair}

/-- A name below its schema says which one it is. -/
theorem eq_of_qualifiedIdentifier {schema schema' name name' : Text}
    (h : qualifiedIdentifier schema name = qualifiedIdentifier schema' name') :
    schema = schema' ∧ name = name' := by
  have hends : EndsName (.char ';') := by decide
  have hpoints : (qualifiedIdentifier schema name).points ++ .char ';' :: [] =
      (qualifiedIdentifier schema' name').points ++ .char ';' :: [] := by rw [h]
  exact eq_of_qualifiedIdentifier_append hends hpoints

/-- A finding records the names for a repair of an index or a constraint that exists. -/
def Finding.Records (f : Finding) : Repair → Prop
  | .dropIndex schema index =>
    f.checkName = duplicatedIndexesLabel.name ∧ f.Names "redundant_index" schema index ∨
      f.checkName = unusedIndexesLabel.name ∧ f.Names "index" schema index
  | .reindex schema index =>
    (f.checkName = invalidIndexesLabel.name ∨ f.checkName = bloatedIndexesLabel.name) ∧
      f.Names "index" schema index
  | .validate schema table constraint =>
    f.checkName = notValidConstraintsLabel.name ∧ f.Names "table" schema table ∧
      f.Names "constraint" schema constraint
  | .indexColumns .. => False

/-- A finding asks for the repair for which it records the names. -/
theorem Finding.Records.ofFinding?_eq (h : f.Records repair) :
    Repair.ofFinding? options f = .ok (some repair) := by
  cases repair with
  | dropIndex schema index =>
    rcases h with ⟨hcheck, hnames⟩ | ⟨hcheck, hnames⟩
    · exact (Repair.ofFinding?_redundant hcheck).2 ⟨schema, index, hnames, rfl⟩
    · exact (Repair.ofFinding?_unused hcheck).2 ⟨schema, index, hnames, rfl⟩
  | reindex schema index =>
    obtain ⟨hcheck | hcheck, hnames⟩ := h
    · exact (Repair.ofFinding?_invalid hcheck).2 ⟨schema, index, hnames, rfl⟩
    · exact (Repair.ofFinding?_bloated hcheck).2 ⟨schema, index, hnames, rfl⟩
  | validate schema table constraint =>
    exact (Repair.ofFinding?_notValid h.1).2 ⟨schema, table, constraint, h.2.1, h.2.2, rfl⟩
  | indexColumns schema table columns nullable => exact h.elim

namespace Statement

/-- The statements of findings have the same text exactly if they make the same repair. -/
theorem sql_eq_iff {f g : Finding} {repair repair' : Repair} :
    (ofRepair options f repair).sql = (ofRepair options g repair').sql ↔ repair = repair' :=
  ⟨Repair.eq_of_sql_eq, congrArg (Repair.sql options)⟩

/-- Each repair that the first finding about a thing asks for is made by a statement for which the
finding or one before it asked. -/
theorem exists_statement_of_isFirstIn (h : generate options findings = .ok statements)
    (hf : f.IsFirstIn findings) (hrepair : Repair.ofFinding? options f = .ok (some repair)) :
    ∃ g : Finding, g.IsFirstIn findings ∧ (g = f ∨ g.Precedes f) ∧
      Repair.ofFinding? options g = .ok (some repair) ∧ ofRepair options g repair ∈ statements := by
  have hasked : asked? options f = some (ofRepair options f repair) :=
    asked?_eq_some.2 ⟨repair, hrepair, rfl⟩
  rcases (askedBy_generate h).missing f hf _ (ofFinding?_eq_ok_some.2 hasked) with
    hmem | ⟨earlier, hmem, hsql, g, hg, hprecedes, hearlier⟩
  · exact ⟨f, hf, .inl rfl, hrepair, hmem⟩
  · obtain ⟨repair', hrepair', rfl⟩ := asked?_eq_some.1 (ofFinding?_eq_ok_some.1 hearlier)
    obtain rfl := sql_eq_iff.1 hsql
    exact ⟨g, hg, .inr hprecedes, hrepair', hmem⟩

/-- A repair is made by one of the statements exactly if the first finding about some thing asks for
it. -/
theorem exists_sql_iff (h : generate options findings = .ok statements) :
    (∃ st ∈ statements, st.sql = repair.sql options) ↔
      ∃ f : Finding, f.IsFirstIn findings ∧
        Repair.ofFinding? options f = .ok (some repair) := by
  constructor
  · rintro ⟨st, hst, hsql⟩
    obtain ⟨f, hf, hasked⟩ := exists_finding_of_mem_generate h hst
    obtain ⟨made, hmade, rfl⟩ := asked?_eq_some.1 hasked
    obtain rfl := Repair.eq_of_sql_eq hsql
    exact ⟨f, Finding.mem_merge_iff_isFirstIn.1 hf, hmade⟩
  · rintro ⟨f, hf, hrepair⟩
    obtain ⟨g, -, -, -, hmem⟩ := exists_statement_of_isFirstIn h hf hrepair
    exact ⟨_, hmem, rfl⟩

/-- The text of a statement says which repair it makes: names below schemas can be told apart, and
findings that record the names of what is to be repaired lead to statements that have the same text
exactly if they make the same repair. So a statement is only left out for its text if the same
repair is made by an earlier one. -/
theorem text_identifies_repair (options : GeneratingOptions) :
    (∀ schema name schema' name' : Text,
      qualifiedIdentifier schema name = qualifiedIdentifier schema' name' →
        schema = schema' ∧ name = name') ∧
    (∀ (f g : Finding) (repair repair' : Repair), f.Records repair → g.Records repair' →
      ∃ st st', ofFinding? options f = .ok (some st) ∧ ofFinding? options g = .ok (some st') ∧
        (st.sql = st'.sql ↔ repair = repair')) ∧
    ∀ findings statements, generate options findings = .ok statements →
      ∀ (f : Finding) (repair : Repair), f.IsFirstIn findings →
        Repair.ofFinding? options f = .ok (some repair) →
          ∃ g : Finding, g.IsFirstIn findings ∧ (g = f ∨ g.Precedes f) ∧
            Repair.ofFinding? options g = .ok (some repair) ∧
              ofRepair options g repair ∈ statements := by
  refine ⟨fun schema name schema' name' => eq_of_qualifiedIdentifier, ?_, ?_⟩
  · intro f g repair repair' hf hg
    exact ⟨_, _, ofFinding?_eq_ok_some.2 (asked?_eq_some.2 ⟨repair, hf.ofFinding?_eq, rfl⟩),
      ofFinding?_eq_ok_some.2 (asked?_eq_some.2 ⟨repair', hg.ofFinding?_eq, rfl⟩), sql_eq_iff⟩
  · intro findings statements h f repair hf hrepair
    exact exists_statement_of_isFirstIn h hf hrepair

/-- An invalid index in a schema with a full stop in its name. -/
def dottedSchema : Finding := invalidIndexFinding (plainIndex "shop.eu" "orders" "by_day" ["day"])

/-- A bloated index with a full stop in its name. -/
def dottedIndex : Finding :=
  { invalidIndexFinding (plainIndex "shop" "orders" "eu.by_day" ["day"]) with
    severity := .warning, checkName := bloatedIndexesLabel.name }

/-- The two indexes are shown alike, but each of them is rebuilt by a statement of its own. -/
theorem text_identifies_repair_dotted : dottedSchema.objects = dottedIndex.objects ∧
    dottedSchema.Records (.reindex "shop.eu" "by_day") ∧
    dottedIndex.Records (.reindex "shop" "eu.by_day") ∧
    (∃ st st', ofFinding? .standard dottedSchema = .ok (some st) ∧
      ofFinding? .standard dottedIndex = .ok (some st') ∧ st.sql ≠ st'.sql) ∧
    ∃ statements, generate .standard [dottedIndex, dottedSchema] = .ok statements ∧
      ∃ g : Finding, g.IsFirstIn [dottedIndex, dottedSchema] ∧
        Repair.ofFinding? .standard g = .ok (some (.reindex "shop" "eu.by_day")) ∧
          ofRepair .standard g (.reindex "shop" "eu.by_day") ∈ statements := by
  have hschema : dottedSchema.Records (.reindex "shop.eu" "by_day") :=
    ⟨.inl rfl, rfl, rfl, by decide, by decide⟩
  have hindex : dottedIndex.Records (.reindex "shop" "eu.by_day") :=
    ⟨.inr rfl, rfl, rfl, by decide, by decide⟩
  obtain ⟨-, hsql, hlist⟩ := text_identifies_repair .standard
  obtain ⟨st, st', hst, hst', hiff⟩ := hsql _ _ _ _ hschema hindex
  have hfirst : dottedIndex.IsFirstIn [dottedIndex, dottedSchema] :=
    Finding.isFirstIn_cons.2 (.inl rfl)
  obtain ⟨statements, hstatements⟩ : ∃ statements,
      generate .standard [dottedIndex, dottedSchema] = .ok statements := by
    refine exists_generate_iff.2 fun f hf => ?_
    have hmem := Finding.mem_of_mem_merge (Finding.mem_merge_iff_isFirstIn.2 hf)
    rcases List.mem_pair.1 hmem with rfl | rfl
    · exact ⟨_, hst'⟩
    · exact ⟨_, hst⟩
  obtain ⟨g, hg, -, hrepair, hmem⟩ := hlist _ _ hstatements _ _ hfirst hindex.ofFinding?_eq
  refine ⟨by decide, hschema, hindex, ⟨st, st', hst, hst', fun heq => ?_⟩, statements,
    hstatements, g, hg, hrepair, hmem⟩
  exact absurd (hiff.1 heq) (by decide)

end Statement

end CatalogHealth
