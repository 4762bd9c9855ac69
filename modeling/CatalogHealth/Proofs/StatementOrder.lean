import CatalogHealth.Proofs.Generation

/-!
# The list of statements is determined by its findings

Of several findings about the same thing the first one counts, the findings that count are put in
order, and of several statements with one text the first one counts. Neither the order nor the
repetition of findings matters to the result if findings about the same thing are the same, since
no two findings about different things have the same place in the order. Which texts statements
have is outside the scope of this module.
-/

namespace CatalogHealth

namespace Finding

variable {findings others : List Finding} {f : Finding}

/-- A finding is the first one of a list about its thing. -/
def IsFirstIn (f : Finding) (findings : List Finding) : Prop :=
  ∃ pre post, findings = pre ++ f :: post ∧ ∀ g ∈ pre, g.key ≠ f.key

theorem isFirstIn_cons {g : Finding} :
    f.IsFirstIn (g :: findings) ↔ f = g ∨ g.key ≠ f.key ∧ f.IsFirstIn findings := by
  constructor
  · rintro ⟨pre, post, hsplit, hpre⟩
    rcases List.cons_eq_append_iff.1 hsplit with ⟨-, hfirst⟩ | ⟨front, rfl, hrest⟩
    · exact .inl (List.cons.inj hfirst).1
    · obtain ⟨hg, hfront⟩ := List.forall_mem_cons.1 hpre
      exact .inr ⟨hg, front, post, hrest, hfront⟩
  · rintro (rfl | ⟨hg, pre, post, rfl, hpre⟩)
    · exact ⟨[], findings, rfl, fun g hg => by cases hg⟩
    · exact ⟨g :: pre, post, rfl, List.forall_mem_cons.2 ⟨hg, hpre⟩⟩

/-- What is chosen is what comes first about a thing that was not seen before. -/
theorem mem_firstsFrom_iff {seen : List (String × List Text)} :
    f ∈ firstsFrom seen findings ↔ f.key ∉ seen ∧ f.IsFirstIn findings := by
  induction findings generalizing seen with
  | nil => simp [firstsFrom, IsFirstIn]
  | cons g rest ih =>
    rw [isFirstIn_cons, firstsFrom]
    by_cases hg : g.key ∈ seen
    · rw [if_pos hg, ih]
      refine and_congr_right fun hnew => ?_
      have hne : g.key ≠ f.key := fun heq => hnew (heq ▸ hg)
      have hother : f ≠ g := fun heq => hne (heq ▸ rfl)
      rw [or_iff_right hother, and_iff_right hne]
    · rw [if_neg hg, List.mem_cons, ih, List.mem_cons, not_or]
      by_cases hsame : f = g
      · subst hsame
        simp [hg]
      · rw [or_iff_right hsame, or_iff_right hsame, and_comm (a := ¬f.key = g.key), and_assoc,
          eq_comm (a := f.key)]

/-- A report keeps the first finding about each thing. -/
theorem mem_merge_iff_isFirstIn : f ∈ merge findings ↔ f.IsFirstIn findings := by
  rw [merge, sort, mem_sortBy, firsts, mem_firstsFrom_iff]
  exact and_iff_right List.not_mem_nil

/-- Lists of the same findings are merged alike if findings about the same thing are the same. -/
theorem merge_eq_of_mem_iff (hsame : ∀ f, f ∈ findings ↔ f ∈ others)
    (hkey : ∀ f ∈ findings, ∀ g ∈ findings, f.key = g.key → f = g) :
    merge findings = merge others := by
  have hkey' : ∀ f ∈ others, ∀ g ∈ others, f.key = g.key → f = g :=
    fun f hf g hg => hkey f ((hsame f).2 hf) g ((hsame g).2 hg)
  have hperm : (merge findings).Perm (merge others) := by
    refine (List.perm_ext_iff_of_nodup (nodup_keys_merge findings).of_map
      (nodup_keys_merge others).of_map).2 fun f => ?_
    rw [mem_merge_iff_of_eq hkey, mem_merge_iff_of_eq hkey', hsame]
  rw [← sort_merge findings, sort_eq_of_perm hperm (nodup_keys_merge findings), sort_merge]

end Finding

/-- Some of the sources of a filtered list have the results that a sublist of it has. -/
theorem exists_sources_of_sublist {α β : Type} {f : α → Option β} {xs : List α} {ys : List β}
    (h : ys.Sublist (xs.filterMap f)) :
    ∃ sources : List α, sources.Sublist xs ∧ List.Forall₂ (fun y x => f x = some y) ys sources := by
  induction xs generalizing ys with
  | nil =>
    obtain rfl := List.sublist_nil.1 h
    exact ⟨[], List.Sublist.slnil, .nil⟩
  | cons x rest ih =>
    cases hx : f x with
    | none =>
      rw [List.filterMap_cons_none hx] at h
      obtain ⟨sources, hsources, hresults⟩ := ih h
      exact ⟨sources, hsources.cons x, hresults⟩
    | some y =>
      rw [List.filterMap_cons_some hx] at h
      cases h with
      | cons _ h =>
        obtain ⟨sources, hsources, hresults⟩ := ih h
        exact ⟨sources, hsources.cons x, hresults⟩
      | cons_cons _ h =>
        obtain ⟨sources, hsources, hresults⟩ := ih h
        exact ⟨x :: sources, hsources.cons_cons x, .cons hx hresults⟩

namespace Statement

variable {options : GeneratingOptions} {findings others : List Finding}
  {statements : List Statement} {f : Finding} {st : Statement}

/-- The key of the finding that asked for a statement. -/
def findingKey (st : Statement) : String × List Text := (st.checkName, st.objects)

theorem ofFinding?_eq_ok_some : ofFinding? options f = .ok (some st) ↔
    asked? options f = some st := by
  unfold asked?
  cases ofFinding? options f with
  | error fault => simp [Except.toOption]
  | ok answer => simp [Except.toOption]

/-- A statement carries the key of the finding that asked for it. -/
theorem findingKey_of_asked? (h : asked? options f = some st) : st.findingKey = f.key := by
  obtain ⟨repair, -, rfl⟩ := asked?_eq_some.1 h
  rfl

/-- No two statements that are kept have the same text. -/
theorem nodup_sql_freshFrom (seen : List Text) (xs : List Statement) :
    ((freshFrom seen xs).map sql).Nodup := by
  induction xs generalizing seen with
  | nil => exact List.nodup_nil
  | cons x rest ih =>
    unfold freshFrom
    split
    · exact ih seen
    · refine List.nodup_cons.2 ⟨fun hmem => ?_, ih _⟩
      obtain ⟨st, hst, hsql⟩ := List.mem_map.1 hmem
      exact (exists_split_of_mem_freshFrom hst).1 (hsql ▸ List.mem_cons_self ..)

/-- Statements are generated exactly if the finding that counts about each thing can be read. -/
theorem exists_generate_iff : (∃ statements, generate options findings = .ok statements) ↔
    ∀ f : Finding, f.IsFirstIn findings → ∃ answer, ofFinding? options f = .ok answer := by
  simp only [← Finding.mem_merge_iff_isFirstIn]
  constructor
  · rintro ⟨statements, h⟩ f hf
    obtain ⟨answers, hanswers, -⟩ := Traversal.bind_eq_ok.1 h
    obtain ⟨answer, -, hanswer⟩ := Traversal.exists_result_of_mem hanswers hf
    exact ⟨answer, hanswer⟩
  · intro h
    obtain ⟨answers, hanswers⟩ := Traversal.exists_mapM h
    exact ⟨_, Traversal.bind_eq_ok.2 ⟨answers, hanswers, rfl⟩⟩

/-- What a finding asks for is in the list, or a finding before it asked for the statement of the
list that has its text. -/
theorem mem_or_exists_earlier (h : generate options findings = .ok statements)
    (hf : f ∈ Finding.merge findings) (hst : asked? options f = some st) :
    st ∈ statements ∨ ∃ earlier ∈ statements, earlier.sql = st.sql ∧
      ∃ g ∈ Finding.merge findings, g.Precedes f ∧ asked? options g = some earlier := by
  -- The findings in front decide: they ask for the text of the statement, or it is new behind them.
  obtain ⟨pre, post, hsplit⟩ := List.append_of_mem hf
  rw [generate_eq_ok h, hsplit, List.filterMap_append, List.filterMap_cons_some hst]
  by_cases hnew : st.sql ∈ (pre.filterMap (asked? options)).map sql
  · obtain ⟨asked, hasked, hsql⟩ := List.mem_map.1 hnew
    obtain ⟨kept, hkept, hkeptSql⟩ :=
      (exists_mem_freshFrom [] hasked).resolve_left List.not_mem_nil
    obtain ⟨g, hg, hgasked⟩ := List.mem_filterMap.1 ((freshFrom_sublist _ _).subset hkept)
    obtain ⟨hmem, hprecedes⟩ := (Finding.mem_front_iff hsplit).1 hg
    obtain ⟨seen, -, hfresh⟩ := freshFrom_append [] (pre.filterMap (asked? options))
      (st :: post.filterMap (asked? options))
    refine .inr ⟨kept, ?_, hkeptSql.trans hsql, g, hsplit ▸ hmem, hprecedes, hgasked⟩
    rw [hfresh]
    exact List.mem_append_left _ hkept
  · obtain ⟨rest, hrest⟩ := freshFrom_of_notMem (post.filterMap (asked? options)) hnew
    rw [hrest]
    exact .inl (List.mem_append_right _ (List.mem_cons_self ..))

/-- A list of statements is what some findings ask for. -/
structure AskedBy (statements : List Statement) (options : GeneratingOptions)
    (findings : List Finding) : Prop where
  /-- No two statements have the same text. -/
  sqls_nodup : (statements.map sql).Nodup
  /-- The statements are those that findings in strictly ascending order ask for, each of them the
  first one about its thing. -/
  ascending : ∃ sources : List Finding, (∀ f ∈ sources, f.IsFirstIn findings) ∧
    sources.Pairwise Finding.Precedes ∧ List.Forall₂ (fun st f => st.findingKey = f.key ∧
      ofFinding? options f = .ok (some st)) statements sources
  /-- A statement that is asked for by the first finding about its thing is only missing if the
  statement of a finding before this one has the same text. -/
  missing : ∀ f : Finding, f.IsFirstIn findings → ∀ st, ofFinding? options f = .ok (some st) →
    st ∈ statements ∨ ∃ earlier ∈ statements, earlier.sql = st.sql ∧ ∃ g : Finding,
      g.IsFirstIn findings ∧ g.Precedes f ∧ ofFinding? options g = .ok (some earlier)

/-- The statements that are generated for findings are those that they ask for. -/
theorem askedBy_generate (h : generate options findings = .ok statements) :
    AskedBy statements options findings where
  sqls_nodup := generate_eq_ok h ▸ nodup_sql_freshFrom [] _
  ascending := by
    obtain ⟨sources, hsources, hasked⟩ := exists_sources_of_sublist
      (generate_eq_ok h ▸ freshFrom_sublist [] _ :
        statements.Sublist ((Finding.merge findings).filterMap (asked? options)))
    refine ⟨sources, fun f hf => Finding.mem_merge_iff_isFirstIn.1 (hsources.subset hf),
      (Finding.merge_pairwise findings).sublist hsources, hasked.imp fun st f hst => ?_⟩
    exact ⟨findingKey_of_asked? hst, ofFinding?_eq_ok_some.2 hst⟩
  missing := by
    intro f hf st hst
    rcases mem_or_exists_earlier h (Finding.mem_merge_iff_isFirstIn.2 hf)
      (ofFinding?_eq_ok_some.1 hst) with hmem | ⟨earlier, hmem, hsql, g, hg, hprecedes, hasked⟩
    · exact .inl hmem
    · exact .inr ⟨earlier, hmem, hsql, g, Finding.mem_merge_iff_isFirstIn.1 hg, hprecedes,
        ofFinding?_eq_ok_some.2 hasked⟩

/-- Statements are determined by the findings alone, in whatever order and however often these are
given, if findings about the same thing are the same; a fault is the same fault. The statements of
any list are what its findings ask for, and there are statements exactly if the first finding
about each thing can be read. -/
theorem generate_determined (options : GeneratingOptions) :
    (∀ findings others : List Finding, (∀ f, f ∈ findings ↔ f ∈ others) →
      (∀ f ∈ findings, ∀ g ∈ findings, f.key = g.key → f = g) →
        generate options findings = generate options others) ∧
      ∀ findings : List Finding,
        ((∃ statements, generate options findings = .ok statements) ↔
          ∀ f : Finding, f.IsFirstIn findings → ∃ answer, ofFinding? options f = .ok answer) ∧
        ∀ statements, generate options findings = .ok statements →
          AskedBy statements options findings := by
  refine ⟨fun findings others hsame hkey => ?_, fun findings => ⟨exists_generate_iff, ?_⟩⟩
  · rw [generate, generate, Finding.merge_eq_of_mem_iff hsame hkey]
  · exact fun statements h => askedBy_generate h

/-- An index is reported as invalid. -/
def invalidDay : Finding := invalidIndexFinding (plainIndex "public" "orders" "by_day" ["day"])

/-- The same index is reported as bloated. -/
def bloatedDay : Finding :=
  { invalidDay with severity := .warning, checkName := bloatedIndexesLabel.name }

/-- An index that is both invalid and bloated is rebuilt once, as the finding asks that comes
first. -/
theorem generate_determined_twice : (∀ f, f ∈ [bloatedDay, invalidDay, bloatedDay] ↔
      f ∈ [invalidDay, bloatedDay]) ∧
    (∀ f ∈ [bloatedDay, invalidDay, bloatedDay], ∀ g ∈ [bloatedDay, invalidDay, bloatedDay],
      f.key = g.key → f = g) ∧
    ∃ statements, generate .standard [bloatedDay, invalidDay, bloatedDay] = .ok statements ∧
      generate .standard [invalidDay, bloatedDay] = .ok statements ∧
      AskedBy statements .standard [bloatedDay, invalidDay, bloatedDay] ∧
      statements.map findingKey = [invalidDay.key] := by
  have hsame : ∀ f, f ∈ [bloatedDay, invalidDay, bloatedDay] ↔ f ∈ [invalidDay, bloatedDay] := by
    simp [or_comm]
  have hdistinct : invalidDay.key ≠ bloatedDay.key := by decide
  have hkey : ∀ f ∈ [bloatedDay, invalidDay, bloatedDay],
      ∀ g ∈ [bloatedDay, invalidDay, bloatedDay], f.key = g.key → f = g := by
    intro f hf g hg heq
    rcases List.mem_pair.1 ((hsame f).1 hf) with rfl | rfl
    · rcases List.mem_pair.1 ((hsame g).1 hg) with rfl | rfl
      · rfl
      · exact absurd heq hdistinct
    · rcases List.mem_pair.1 ((hsame g).1 hg) with rfl | rfl
      · exact absurd heq.symm hdistinct
      · rfl
  have hruns : (generate .standard [bloatedDay, invalidDay, bloatedDay]).toOption.any
      (fun statements => statements.map findingKey = [invalidDay.key]) = true := by
    decide +kernel
  obtain ⟨statements, hstatements, hfacts⟩ := Traversal.exists_ok_of_toOption hruns
  obtain ⟨hdetermined, hasked⟩ := generate_determined .standard
  refine ⟨hsame, hkey, statements, hstatements, ?_, (hasked _).2 statements hstatements,
    of_decide_eq_true hfacts⟩
  rw [← hdetermined _ _ hsame hkey, hstatements]

end Statement

end CatalogHealth
