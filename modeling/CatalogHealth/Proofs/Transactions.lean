import Mathlib.Data.List.SplitBy
import CatalogHealth.Migration.Script

/-!
# The transactions of a script

The statements of a script fall into maximal runs, those of statements that may stand in a
transaction and those of statements that may not. Each run of the first kind is put between the
beginning and the end of one transaction, and each statement of the second kind stands outside of
all. Lines are looked at before they are joined: no line that the script adds reads like the
beginning or the end of a transaction unless it is one, but a statement may. One whose text is that
of the end of a transaction ends none here, and what a server makes of it is outside the scope of
this module.
-/

namespace CatalogHealth.Script

variable {statements run rest : List Statement} {s : Statement}

/-- Whether a line begins or ends a transaction. -/
def isMark (line : ScriptLine) : Bool := line = .opening || line = .closing

/-- The beginnings and ends of transactions among some lines. -/
def marks (lines : List ScriptLine) : List ScriptLine := lines.filter isMark

/-- The statement that a line holds. -/
def statement? : ScriptLine → Option Statement
  | .statement s => some s
  | _ => none

/-- The maximal runs of statements of one kind. -/
def runs (statements : List Statement) : List (List Statement) :=
  statements.splitBy fun a b => a.transactional == b.transactional

/-- Whether a run may stand in a transaction. -/
def isTransaction (run : List Statement) : Bool := run.all fun s => s.transactional

/-- The maximal runs of statements that may stand in a transaction. -/
def transactions (statements : List Statement) : List (List Statement) :=
  (runs statements).filter isTransaction

/-- What stands between two lines stands in a transaction: the last mark in front of it is a
beginning, and the next one is an end. -/
def Inside (before after : List ScriptLine) : Prop :=
  (marks before).getLast? = some .opening ∧ (marks after).head? = some .closing

/-- What stands between two lines stands in no transaction: the last mark in front of it is no
beginning, and the next one is no end. -/
def Outside (before after : List ScriptLine) : Prop :=
  (marks before).getLast? ≠ some .opening ∧ (marks after).head? ≠ some .closing

/-- What the lines of a script make of its statements. -/
structure Transacts (statements : List Statement) (lines : List ScriptLine) : Prop where
  /-- A beginning and an end alternate, one of each for every maximal run of statements that may
  stand in a transaction. -/
  marks_eq : marks lines =
    (List.replicate (transactions statements).length [.opening, .closing]).flatten
  /-- Every statement stands there once, and they stand in order. -/
  statements_eq : lines.filterMap statement? = statements
  /-- A statement that may stand in a transaction stands in one. -/
  inside : ∀ before s after, lines = before ++ .statement s :: after → s.transactional = true →
    Inside before after
  /-- A statement that may not stand in a transaction stands outside of all. -/
  outside : ∀ before s after, lines = before ++ .statement s :: after → s.transactional = false →
    Outside before after
  /-- There is a statement between the beginning of a transaction and an end. -/
  exists_statement : ∀ before between after,
    lines = before ++ .opening :: (between ++ .closing :: after) →
      ∃ s ∈ statements, .statement s ∈ between
  /-- Of the lines that hold no statement only beginnings and ends of transactions read so. -/
  reads_iff : ∀ line ∈ lines, statement? line = none →
    (line.text = "BEGIN;" ↔ line = .opening) ∧ (line.text = "COMMIT;" ↔ line = .closing)

/-! ## How lines read -/

/-- A comment does not read like a line that begins with another character. -/
theorem comment_text_ne (text : Text) {word : String} {c : Char} {rest : List Char}
    (hword : word.toList = c :: rest) (hc : c ≠ '-') : (ScriptLine.comment text).text ≠ word := by
  intro h
  have hpoints := congrArg Text.points h
  rw [Text.ofString, hword] at hpoints
  exact hc (CodePoint.char.inj (List.cons.inj hpoints).1).symm

/-- A line that holds no statement reads like the beginning or the end of a transaction only if it
is that line. -/
theorem text_eq_mark_iff {line : ScriptLine} (hline : statement? line = none) {mark : ScriptLine}
    (hmark : mark = .opening ∨ mark = .closing) : line.text = mark.text ↔ line = mark := by
  refine ⟨fun h => ?_, congrArg ScriptLine.text⟩
  cases line with
  | comment text =>
    rcases hmark with rfl | rfl
    · exact absurd h (comment_text_ne text rfl (by decide))
    · exact absurd h (comment_text_ne text rfl (by decide))
  | blank => rcases hmark with rfl | rfl <;> exact absurd h (by decide)
  | opening =>
    rcases hmark with rfl | rfl
    · rfl
    · exact absurd h (by decide)
  | closing =>
    rcases hmark with rfl | rfl
    · exact absurd h (by decide)
    · rfl
  | statement s => cases hline

/-! ## Lines run by run -/

/-- A statement below the comment on it. -/
def captioned (s : Statement) : List ScriptLine := [.comment (caption s), .statement s]

/-- A statement outside of transactions, below a remark that says so. -/
def remarked (s : Statement) : List ScriptLine :=
  .blank :: .comment "must run outside a transaction block" :: captioned s

/-- The lines of a run. -/
def block (run : List Statement) : List ScriptLine :=
  if isTransaction run then .blank :: .opening :: (run.flatMap captioned ++ [.closing])
  else run.flatMap remarked

/-- An open transaction is ended in front of what may not stand in it. -/
theorem body_true_of_head (h : ∀ s ∈ rest.head?, s.transactional = false) :
    body true rest = .closing :: body false rest := by
  cases rest with
  | nil => rfl
  | cons s others =>
    have hs : s.transactional = false := h s rfl
    simp [body, transition, hs]

/-- An open transaction takes up what may stand in it. -/
theorem body_true_append (h : ∀ s ∈ run, s.transactional = true) :
    body true (run ++ rest) = run.flatMap captioned ++ body true rest := by
  induction run with
  | nil => rfl
  | cons s others ih =>
    obtain ⟨hs, hothers⟩ := List.forall_mem_cons.1 h
    simp [body, transition, captioned, hs, ih hothers]

/-- Without an open transaction what may not stand in one follows as it is. -/
theorem body_false_append (h : ∀ s ∈ run, s.transactional = false) :
    body false (run ++ rest) = run.flatMap remarked ++ body false rest := by
  induction run with
  | nil => rfl
  | cons s others ih =>
    obtain ⟨hs, hothers⟩ := List.forall_mem_cons.1 h
    simp [body, transition, remarked, captioned, hs, ih hothers]

/-- A run of one kind in front of a statement of the other kind is written as a block. -/
theorem body_append_of_run (hne : run ≠ [])
    (hkind : (∀ s ∈ run, s.transactional = true) ∨ ∀ s ∈ run, s.transactional = false)
    (hnext : isTransaction run = true → ∀ s ∈ rest.head?, s.transactional = false) :
    body false (run ++ rest) = block run ++ body false rest := by
  rcases hkind with hinside | houtside
  · have hrun : isTransaction run = true := List.all_eq_true.2 hinside
    obtain ⟨s, others, rfl⟩ := List.exists_cons_of_ne_nil hne
    obtain ⟨hs, hothers⟩ := List.forall_mem_cons.1 hinside
    rw [block, if_pos hrun, List.cons_append, body, hs, body_true_append hothers,
      body_true_of_head (hnext hrun)]
    simp [transition, captioned]
  · have hrun : isTransaction run = false := by
      obtain ⟨s, hs⟩ := List.exists_mem_of_ne_nil run hne
      exact List.all_eq_false.2 ⟨s, hs, by simp [houtside s hs]⟩
    rw [block, hrun, body_false_append houtside]
    rfl

/-- The statements of a run are of one kind. -/
theorem kind_of_isChain (h : run.IsChain fun a b => (a.transactional == b.transactional) = true) :
    (∀ s ∈ run, s.transactional = true) ∨ ∀ s ∈ run, s.transactional = false := by
  have hsame : ∀ first others, (first :: others).IsChain
      (fun a b : Statement => (a.transactional == b.transactional) = true) →
        ∀ s ∈ others, s.transactional = first.transactional := by
    intro first others
    induction others generalizing first with
    | nil => simp
    | cons second others ih =>
      intro hchain
      obtain ⟨hfirst, hrest⟩ := List.isChain_cons_cons.1 hchain
      have heq : first.transactional = second.transactional := by simpa using hfirst
      exact List.forall_mem_cons.2 ⟨heq.symm, fun s hs => (ih second hrest s hs).trans heq.symm⟩
  cases run with
  | nil => exact .inl (by simp)
  | cons first others =>
    have hothers := hsame first others h
    cases hfirst : first.transactional with
    | true => exact .inl (List.forall_mem_cons.2 ⟨hfirst, fun s hs => (hothers s hs).trans hfirst⟩)
    | false => exact .inr (List.forall_mem_cons.2 ⟨hfirst, fun s hs => (hothers s hs).trans hfirst⟩)

/-- Runs of which no two neighbours are of one kind are written block by block. -/
theorem body_flatten {parts : List (List Statement)} (hne : [] ∉ parts)
    (hchain : ∀ part ∈ parts,
      part.IsChain fun a b => (a.transactional == b.transactional) = true)
    (hnext : parts.IsChain fun a b =>
      ∃ ha hb, ((a.getLast ha).transactional == (b.head hb).transactional) = false) :
    body false parts.flatten = parts.flatMap block := by
  -- The induction is on the runs: each is closed off by the first statement of the next one.
  induction parts with
  | nil => rfl
  | cons part others ih =>
    rw [List.mem_cons, not_or] at hne
    obtain ⟨hpart, hothers⟩ := List.forall_mem_cons.1 hchain
    obtain ⟨hdiffer, hrest⟩ := List.isChain_cons.1 hnext
    rw [List.flatten_cons, List.flatMap_cons, ← ih hne.2 hothers hrest]
    refine body_append_of_run (Ne.symm hne.1) (kind_of_isChain hpart) fun hinside s hs => ?_
    cases others with
    | nil => cases hs
    | cons second more =>
      obtain ⟨hlast, hhead, hkinds⟩ := hdiffer second rfl
      obtain ⟨first, tail, rfl⟩ := List.exists_cons_of_ne_nil hhead
      obtain rfl : first = s := by simpa using hs
      have htrue : (part.getLast hlast).transactional = true :=
        List.all_eq_true.1 hinside _ (List.getLast_mem hlast)
      simpa [htrue] using hkinds

/-- Statements are written run by run. -/
theorem body_eq_flatMap_block (statements : List Statement) :
    body false statements = (runs statements).flatMap block := by
  have hblocks := body_flatten (List.nil_notMem_splitBy _ statements)
    (fun _ hpart => List.isChain_of_mem_splitBy hpart)
    (List.isChain_getLast_head_splitBy (fun a b => a.transactional == b.transactional) statements)
  rwa [List.flatten_splitBy] at hblocks

/-- A run of statements is a transaction exactly if one of its statements may stand in one. -/
theorem isTransaction_eq (hrun : run ∈ runs statements) (hs : s ∈ run) :
    isTransaction run = s.transactional := by
  rcases kind_of_isChain (List.isChain_of_mem_splitBy hrun) with hinside | houtside
  · rw [hinside s hs]
    exact List.all_eq_true.2 hinside
  · rw [houtside s hs]
    exact List.all_eq_false.2 ⟨s, hs, by simp [houtside s hs]⟩

/-! ## Marks and statements of a block -/

theorem marks_append (before after : List ScriptLine) :
    marks (before ++ after) = marks before ++ marks after := List.filter_append ..

theorem marks_flatMap_captioned (run : List Statement) : marks (run.flatMap captioned) = [] := by
  rw [marks, List.filter_flatMap, List.flatMap_eq_nil_iff]
  exact fun _ _ => rfl

theorem marks_flatMap_remarked (run : List Statement) : marks (run.flatMap remarked) = [] := by
  rw [marks, List.filter_flatMap, List.flatMap_eq_nil_iff]
  exact fun _ _ => rfl

/-- A block begins and ends one transaction, or none. -/
theorem marks_block (run : List Statement) :
    marks (block run) = if isTransaction run then [.opening, .closing] else [] := by
  unfold block
  cases isTransaction run with
  | true =>
    have hinner : marks (run.flatMap captioned ++ [.closing]) = [.closing] := by
      rw [marks_append, marks_flatMap_captioned]
      rfl
    exact congrArg (ScriptLine.opening :: ·) hinner
  | false => exact marks_flatMap_remarked run

/-- The marks of blocks are those of the transactions among them. -/
theorem marks_flatMap_block (parts : List (List Statement)) : marks (parts.flatMap block) =
    (List.replicate (parts.filter isTransaction).length [.opening, .closing]).flatten := by
  induction parts with
  | nil => rfl
  | cons part others ih =>
    rw [List.flatMap_cons, marks_append, ih, marks_block]
    cases hpart : isTransaction part with
    | true => simp [hpart, List.replicate_succ]
    | false => simp [hpart]

/-- In front of a block no transaction is open. -/
theorem getLast?_marks_flatMap_block_ne (parts : List (List Statement)) :
    (marks (parts.flatMap block)).getLast? ≠ some .opening := by
  rw [marks_flatMap_block]
  cases (parts.filter isTransaction).length with
  | zero => simp
  | succ n => simp [List.replicate_succ']

/-- Behind a block no transaction is to be ended. -/
theorem head?_marks_flatMap_block_ne (parts : List (List Statement)) :
    (marks (parts.flatMap block)).head? ≠ some .closing := by
  rw [marks_flatMap_block]
  cases (parts.filter isTransaction).length with
  | zero => simp
  | succ n => simp [List.replicate_succ]

/-- A block holds the statements of its run. -/
theorem filterMap_statement?_block (run : List Statement) :
    (block run).filterMap statement? = run := by
  have hcaptioned : (run.flatMap captioned).filterMap statement? = run := by
    rw [List.filterMap_flatMap]
    exact List.flatMap_singleton' run
  have hremarked : (run.flatMap remarked).filterMap statement? = run := by
    rw [List.filterMap_flatMap]
    exact List.flatMap_singleton' run
  unfold block
  cases isTransaction run with
  | true =>
    have hinner : (run.flatMap captioned ++ [ScriptLine.closing]).filterMap statement? = run := by
      rw [List.filterMap_append, hcaptioned]
      exact List.append_nil run
    exact hinner
  | false => exact hremarked

theorem mem_of_statement_mem_block (h : .statement s ∈ block run) : s ∈ run := by
  rw [← filterMap_statement?_block run, List.mem_filterMap]
  exact ⟨_, h, rfl⟩

/-! ## Where a line stands -/

/-- An element of lists in a row is an element of one of them. -/
theorem exists_split_of_flatMap {α β : Type} {f : α → List β} {xs : List α} {y : β}
    {before after : List β} (h : xs.flatMap f = before ++ y :: after) :
    ∃ front x back pre post, xs = front ++ x :: back ∧ f x = pre ++ y :: post ∧
      before = front.flatMap f ++ pre ∧ after = post ++ back.flatMap f := by
  induction xs generalizing before with
  | nil => simp at h
  | cons x rest ih =>
    rw [List.flatMap_cons] at h
    rcases List.append_eq_append_iff.1 h with ⟨more, rfl, hrest⟩ | ⟨more, hx, hrest⟩
    · obtain ⟨front, z, back, pre, post, rfl, hz, rfl, hafter⟩ := ih hrest
      exact ⟨x :: front, z, back, pre, post, rfl, hz, by simp, hafter⟩
    · cases more with
      | nil =>
        have hnext : rest.flatMap f = [] ++ y :: after := hrest.symm
        obtain ⟨front, z, back, pre, post, rfl, hz, hbefore, hafter⟩ := ih hnext
        refine ⟨x :: front, z, back, pre, post, rfl, hz, ?_, hafter⟩
        rw [List.flatMap_cons, List.append_assoc, ← hbefore, hx]
        simp
      | cons z others =>
        obtain ⟨rfl, rfl⟩ := List.cons.inj hrest
        exact ⟨[], x, rest, before, others, rfl, hx, rfl, rfl⟩

/-- A statement in the block of a transaction stands behind its beginning and in front of its
end. -/
theorem marks_of_transaction_eq {before after : List ScriptLine} (hrun : isTransaction run = true)
    (h : block run = before ++ .statement s :: after) :
    marks before = [.opening] ∧ marks after = [.closing] := by
  rw [block, if_pos hrun] at h
  obtain _ | ⟨first, _ | ⟨second, inner⟩⟩ := before
  · cases h
  · cases h
  · simp only [List.cons_append, List.cons.injEq] at h
    obtain ⟨rfl, rfl, h⟩ := h
    -- The line that ends the transaction is not the statement, so it stands behind it.
    obtain ⟨more, rfl⟩ : ∃ more, after = more ++ [.closing] := by
      have hlast : (ScriptLine.statement s :: after).getLast? = some .closing := by
        have hends := congrArg List.getLast? h
        rwa [List.getLast?_concat, List.getLast?_append_cons, eq_comm] at hends
      cases after using List.reverseRecOn with
      | nil => cases hlast
      | append_singleton more last =>
        rw [← List.cons_append, List.getLast?_concat] at hlast
        exact ⟨more, by rw [Option.some.inj hlast]⟩
    rw [← List.cons_append, ← List.append_assoc, List.append_cancel_right_eq] at h
    have hnone : marks inner ++ marks (.statement s :: more) = [] := by
      rw [← marks_append, ← h, marks_flatMap_captioned]
    obtain ⟨hinner, hmore⟩ := List.append_eq_nil_iff.1 hnone
    have hmore' : marks more = [] := hmore
    refine ⟨congrArg (ScriptLine.opening :: ·) hinner, ?_⟩
    rw [marks_append, hmore']
    rfl

/-- Outside of transactions there are no marks in front of a statement and behind it. -/
theorem marks_of_remarked_eq {before after : List ScriptLine} (hrun : isTransaction run = false)
    (h : block run = before ++ .statement s :: after) : marks before = [] ∧ marks after = [] := by
  have hnone : marks before ++ marks (.statement s :: after) = [] := by
    rw [← marks_append, ← h, marks_block, hrun]
    rfl
  exact List.append_eq_nil_iff.1 hnone

/-- Behind the line that begins a transaction its run follows, and then the line that ends it. -/
theorem eq_of_block_eq_opening {before after : List ScriptLine}
    (h : block run = before ++ .opening :: after) :
    after = run.flatMap captioned ++ [.closing] := by
  cases hrun : isTransaction run with
  | false =>
    have hmem : ScriptLine.opening ∈ marks (block run) :=
      List.mem_filter.2 ⟨h ▸ List.mem_append_cons_self, rfl⟩
    rw [marks_block, hrun] at hmem
    cases hmem
  | true =>
    rw [block, if_pos hrun] at h
    obtain _ | ⟨first, _ | ⟨second, more⟩⟩ := before
    · cases h
    · simp only [List.cons_append, List.nil_append, List.cons.injEq] at h
      exact h.2.2.symm
    · simp only [List.cons_append, List.cons.injEq] at h
      have hmem : ScriptLine.opening ∈ marks (run.flatMap captioned ++ [.closing]) :=
        List.mem_filter.2 ⟨h.2.2 ▸ List.mem_append_cons_self, rfl⟩
      rw [marks_append, marks_flatMap_captioned] at hmem
      cases hmem with
      | tail _ hmem => cases hmem

/-! ## The lines of a script -/

/-- The lines of a script above its first block: the headline, and a remark if there is nothing to
do. -/
def remarks (headline : Text) (statements : List Statement) : List ScriptLine :=
  .comment headline :: if statements.isEmpty then [.comment "nothing to do"] else []

theorem marks_remarks (headline : Text) (statements : List Statement) :
    marks (remarks headline statements) = [] := by
  cases statements <;> rfl

theorem filterMap_statement?_remarks (headline : Text) (statements : List Statement) :
    (remarks headline statements).filterMap statement? = [] := by
  cases statements <;> rfl

/-- A script is its remarks and its blocks. -/
theorem lines_eq (headline : Text) (statements : List Statement) : lines headline statements =
    remarks headline statements ++ (runs statements).flatMap block := by
  cases statements with
  | nil => rfl
  | cons s rest =>
    rw [← body_eq_flatMap_block]
    rfl

/-- A line that is no remark stands in the block of some run. -/
theorem exists_run_of_lines_eq {headline : Text} {line : ScriptLine}
    {before after : List ScriptLine} (hline : line ∉ remarks headline statements)
    (h : lines headline statements = before ++ line :: after) :
    ∃ (front : List (List Statement)) (run : List Statement) (back : List (List Statement))
      (pre post : List ScriptLine), run ∈ runs statements ∧ block run = pre ++ line :: post ∧
      marks before = marks (front.flatMap block) ++ marks pre ∧
      after = post ++ back.flatMap block := by
  rw [lines_eq] at h
  obtain ⟨others, rfl, hblocks⟩ : ∃ others, before = remarks headline statements ++ others ∧
      (runs statements).flatMap block = others ++ line :: after := by
    rcases List.append_eq_append_iff.1 h with hsplit | ⟨more, hremarks, hrest⟩
    · exact hsplit
    · cases more with
      | nil => exact ⟨[], by simpa using hremarks.symm, hrest.symm⟩
      | cons first more =>
        obtain ⟨rfl, -⟩ := List.cons.inj hrest
        exact (hline (hremarks ▸ List.mem_append_cons_self)).elim
  obtain ⟨front, run, back, pre, post, hruns, hrun, rfl, hafter⟩ :=
    exists_split_of_flatMap hblocks
  refine ⟨front, run, back, pre, post, hruns ▸ List.mem_append_cons_self, hrun, ?_, hafter⟩
  rw [marks_append, marks_remarks, marks_append, List.nil_append]

/-- A line of a script that is a statement stands in a block of its kind. -/
theorem exists_run_of_statement {headline : Text} {before after : List ScriptLine}
    (h : lines headline statements = before ++ .statement s :: after) :
    ∃ (front : List (List Statement)) (run : List Statement) (back : List (List Statement))
      (pre post : List ScriptLine), isTransaction run = s.transactional ∧
      block run = pre ++ .statement s :: post ∧
      marks before = marks (front.flatMap block) ++ marks pre ∧
      marks after = marks post ++ marks (back.flatMap block) := by
  have hline : .statement s ∉ remarks headline statements := by cases statements <;> simp [remarks]
  obtain ⟨front, run, back, pre, post, hmem, hrun, hbefore, rfl⟩ := exists_run_of_lines_eq hline h
  have hs : s ∈ run := mem_of_statement_mem_block (hrun ▸ List.mem_append_cons_self)
  exact ⟨front, run, back, pre, post, isTransaction_eq hmem hs, hrun, hbefore, marks_append ..⟩

/-- The lines of a script put its statements into transactions. -/
theorem transacts_lines (headline : Text) (statements : List Statement) :
    Transacts statements (lines headline statements) where
  marks_eq := by
    rw [lines_eq, marks_append, marks_remarks, marks_flatMap_block]
    rfl
  statements_eq := by
    simp only [lines_eq, List.filterMap_append, filterMap_statement?_remarks,
      List.filterMap_flatMap, filterMap_statement?_block, List.nil_append, List.flatMap_id', runs,
      List.flatten_splitBy]
  inside := by
    intro before s after h hs
    obtain ⟨front, run, back, pre, post, hkind, hrun, hbefore, hafter⟩ := exists_run_of_statement h
    obtain ⟨hpre, hpost⟩ := marks_of_transaction_eq (hkind.trans hs) hrun
    rw [Inside, hbefore, hafter, hpre, hpost]
    exact ⟨List.getLast?_concat, rfl⟩
  outside := by
    intro before s after h hs
    obtain ⟨front, run, back, pre, post, hkind, hrun, hbefore, hafter⟩ := exists_run_of_statement h
    obtain ⟨hpre, hpost⟩ := marks_of_remarked_eq (hkind.trans hs) hrun
    rw [Outside, hbefore, hafter, hpre, hpost, List.append_nil, List.nil_append]
    exact ⟨getLast?_marks_flatMap_block_ne front, head?_marks_flatMap_block_ne back⟩
  exists_statement := by
    intro before between after h
    have hline : ScriptLine.opening ∉ remarks headline statements := by
      cases statements <;> simp [remarks]
    obtain ⟨_, run, back, _, post, hmem, hrun, -, hafter⟩ := exists_run_of_lines_eq hline h
    obtain ⟨s, others, rfl⟩ := List.exists_cons_of_ne_nil (List.ne_nil_of_mem_splitBy hmem)
    have hs : s ∈ statements := by
      rw [← List.flatten_splitBy (fun a b : Statement => a.transactional == b.transactional)
        statements]
      exact List.mem_flatten_of_mem hmem (List.mem_cons_self ..)
    rw [eq_of_block_eq_opening hrun] at hafter
    refine ⟨s, hs, ?_⟩
    obtain _ | ⟨first, _ | ⟨second, more⟩⟩ := between
    · cases hafter
    · cases hafter
    · simp only [List.cons_append, List.flatMap_cons, captioned, List.nil_append,
        List.cons.injEq] at hafter
      rw [hafter.2.1]
      simp
  reads_iff := fun _ _ hline =>
    ⟨text_eq_mark_iff hline (.inl rfl), text_eq_mark_iff hline (.inr rfl)⟩

/-- A script is the text of a headline and of lines that put its statements into transactions. The
lines that begin and end these read `BEGIN;` and `COMMIT;`, and a statement reads as its own text.
There is a headline whenever the label is a text, and without a headline there is no script. -/
theorem render_transacts (database : Value) (statements : List Statement) :
    (∀ label : Text, ∃ text, headline (.text label) = .ok text) ∧
      render database statements = (headline database).map (fun text =>
        Text.join "\n" ((lines text statements).map ScriptLine.text) ++ "\n") ∧
      (ScriptLine.opening.text = "BEGIN;" ∧ ScriptLine.closing.text = "COMMIT;" ∧
        ∀ s : Statement, (ScriptLine.statement s).text = s.sql) ∧
      ∀ text, Transacts statements (lines text statements) := by
  refine ⟨fun label => ⟨_, rfl⟩, ?_, ⟨rfl, rfl, fun s => rfl⟩,
    fun text => transacts_lines text statements⟩
  cases hheadline : headline database with
  | error fault => simp [render, hheadline, Except.map, bind, Except.bind]
  | ok text => simp [render, hheadline, Except.map, bind, Except.bind, pure, Except.pure]

/-- A statement for a constraint of the orders that is not valid, which may stand in a
transaction. -/
def validation (constraint : String) : Statement where
  sql := "alter table if exists public.orders validate constraint " ++ constraint ++ ";"
  checkName := "not_valid_constraints"
  objects := ["public.orders." ++ constraint]
  transactional := true

/-- A statement that drops an index and may not stand in a transaction. -/
def concurrentDrop : Statement where
  sql := "drop index concurrently if exists public.by_day;"
  checkName := "unused_indexes"
  objects := ["public.by_day"]
  transactional := false

/-- Three statements that may stand in a transaction, with one that may not in front of the
last. -/
def mixedStatements : List Statement :=
  [validation "of_day", validation "of_shop", concurrentDrop, validation "of_till"]

/-- The statements are rendered with two transactions, and the drop of the index stands between
them. -/
theorem render_transacts_mixed : ∃ text script, headline (.text "shop") = .ok text ∧
    render (.text "shop") mixedStatements = .ok script ∧
    Transacts mixedStatements (lines text mixedStatements) ∧
    (lines text mixedStatements).map ScriptLine.text =
      ["-- pg-health migration: shop", "", "BEGIN;",
       "-- not_valid_constraints: public.orders.of_day",
       "alter table if exists public.orders validate constraint of_day;",
       "-- not_valid_constraints: public.orders.of_shop",
       "alter table if exists public.orders validate constraint of_shop;", "COMMIT;", "",
       "-- must run outside a transaction block", "-- unused_indexes: public.by_day",
       "drop index concurrently if exists public.by_day;", "", "BEGIN;",
       "-- not_valid_constraints: public.orders.of_till",
       "alter table if exists public.orders validate constraint of_till;", "COMMIT;"] ∧
    script = Text.join "\n" ((lines text mixedStatements).map ScriptLine.text) ++ "\n" := by
  obtain ⟨hheadline, hrender, -, htransacts⟩ := render_transacts (.text "shop") mixedStatements
  obtain ⟨text, htext⟩ := hheadline "shop"
  rw [htext] at hrender
  refine ⟨text, _, htext, hrender, htransacts text, ?_, rfl⟩
  cases htext
  decide +kernel

end CatalogHealth.Script
