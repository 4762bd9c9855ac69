import CatalogHealth.Migration.Script
import CatalogHealth.Proofs.Generation
import CatalogHealth.Text.Split

/-!
# What the lines of a script run

A script is a text, and what runs it reads it line by line: a line that begins with two hyphens is
a comment, and any other line is run. The names in comments come from the catalog and may have
line feeds in them, so that a comment may go on in lines that are none. Statements whose texts have
line feeds in them are outside the scope of this module, and so is what a statement does.
-/

namespace CatalogHealth

/-- The code point at which a text breaks into lines. -/
def lineFeed : CodePoint := .char '\n'

/-! ## Lines of a text -/

namespace Text

/-- The lines of a text. -/
def lines (t : Text) : List Text := (pieces lineFeed t.points).map mk

variable {t : Text} {ts : List Text}

theorem lines_of_notMem (h : lineFeed ∉ t.points) : t.lines = [t] := by
  rw [lines, pieces_of_notMem h]
  rfl

/-- What is put in front of a text without a line feed goes into its first line. -/
theorem exists_lines_append (before : Text) (h : lineFeed ∉ before.points) (t : Text) :
    ∃ first, (before ++ t).lines = (before ++ first) :: t.lines.tail := by
  obtain ⟨first, hpieces⟩ := exists_pieces_append h t.points
  refine ⟨⟨first⟩, ?_⟩
  rw [lines, points_append, hpieces, List.map_cons, lines, ← List.map_tail]
  rfl

/-- A line feed ends a line. -/
theorem lines_append_lineFeed (s t : Text) : (s ++ "\n" ++ t).lines = s.lines ++ t.lines := by
  have hpoints : (s ++ "\n" ++ t).points = s.points ++ lineFeed :: t.points := by
    simp [ofString, ofChars, lineFeed]
  rw [lines, hpoints, pieces_append_cons, List.map_append]
  rfl

/-- Texts that are each ended by a line feed have the lines of all of them, and an empty one at
the end. -/
theorem lines_join (hne : ts ≠ []) :
    (join "\n" ts ++ "\n").lines = ts.flatMap lines ++ [("" : Text)] := by
  have hlast : ∀ s : Text, (s ++ "\n").lines = s.lines ++ [("" : Text)] := by
    intro s
    have hlines := lines_append_lineFeed s ""
    rwa [append_empty] at hlines
  induction ts with
  | nil => exact (hne rfl).elim
  | cons t rest ih =>
    cases rest with
    | nil =>
      rw [join, hlast, List.flatMap_singleton]
    | cons u others =>
      rw [join_cons_cons, append_assoc, lines_append_lineFeed, ih (List.cons_ne_nil u others),
        ← List.append_assoc, ← List.flatMap_cons]

/-- A code point that is in none of some texts is in what joins them only if it separates them. -/
theorem notMem_points_join {separator : Text} {point : CodePoint}
    (hseparator : point ∉ separator.points) (h : ∀ t ∈ ts, point ∉ t.points) :
    point ∉ (join separator ts).points := by
  induction ts with
  | nil => exact List.not_mem_nil
  | cons t rest ih =>
    obtain ⟨ht, hrest⟩ := List.forall_mem_cons.1 h
    cases rest with
    | nil => exact ht
    | cons u others =>
      rw [join_cons_cons, points_append, points_append, List.mem_append, List.mem_append, not_or,
        not_or]
      exact ⟨⟨ht, hseparator⟩, ih hrest⟩

end Text

/-! ## Lines of a script -/

namespace Script

variable {label : Text} {statements : List Statement} {s : Statement}

/-- A line runs nothing, or one of some statements: it is empty, begins or ends a transaction, is
the text of a statement or begins a comment. -/
def RunsOnly (statements : List Statement) (line : Text) : Prop :=
  line = "" ∨ line = "BEGIN;" ∨ line = "COMMIT;" ∨ (∃ s ∈ statements, line = s.sql) ∨
    ("--" : Text).points <+: line.points

instance (statements : List Statement) (line : Text) : Decidable (RunsOnly statements line) :=
  inferInstanceAs (Decidable (_ ∨ _ ∨ _ ∨ (∃ s ∈ statements, line = s.sql) ∨ _))

/-- What runs nothing runs nothing but some statements. -/
theorem RunsOnly.of_nil {line : Text} (h : RunsOnly [] line) : RunsOnly statements line := by
  rcases h with h | h | h | ⟨s, hs, -⟩ | h
  · exact .inl h
  · exact .inr (.inl h)
  · exact .inr (.inr (.inl h))
  · cases hs
  · exact .inr (.inr (.inr (.inr h)))

/-- The lines of a comment are harmless if those behind its first one are. -/
theorem runsOnly_comment_iff (text : Text) :
    (∀ line ∈ (ScriptLine.comment text).text.lines, RunsOnly statements line) ↔
      ∀ line ∈ text.lines.tail, RunsOnly statements line := by
  obtain ⟨first, hlines⟩ := Text.exists_lines_append "-- " (by decide) text
  have hcomment : RunsOnly statements ("-- " ++ first) :=
    .inr (.inr (.inr (.inr ⟨.char ' ' :: first.points, rfl⟩)))
  rw [ScriptLine.text, hlines, List.forall_mem_cons]
  exact and_iff_right hcomment

/-- The text of a statement without line feeds is a line that runs it. -/
theorem runsOnly_statement (hs : s ∈ statements) (hsql : lineFeed ∉ s.sql.points) :
    ∀ line ∈ (ScriptLine.statement s).text.lines, RunsOnly statements line := by
  rw [ScriptLine.text, Text.lines_of_notMem hsql]
  exact List.forall_mem_singleton.2 (.inr (.inr (.inr (.inl ⟨s, hs, rfl⟩))))

/-- The lines of scripts that do not depend on statements. -/
def fixedLines : List ScriptLine :=
  [.blank, .opening, .closing, .comment "must run outside a transaction block",
   .comment "nothing to do"]

theorem runsOnly_fixedLines (statements : List Statement) :
    ∀ fixed ∈ fixedLines, ∀ line ∈ fixed.text.lines, RunsOnly statements line := by
  have hnone : ∀ fixed ∈ fixedLines, ∀ line ∈ fixed.text.lines, RunsOnly [] line := by decide
  exact fun fixed hfixed line hline => (hnone fixed hfixed line hline).of_nil

/-- Between statements there are only fixed lines. -/
theorem transition_subset (isOpen transactional : Bool) :
    transition isOpen transactional ⊆ fixedLines := by
  cases isOpen <;> cases transactional <;> decide

section

variable {p : ScriptLine → Prop} (hfixed : ∀ line ∈ fixedLines, p line)

include hfixed

/-- What holds of the fixed lines holds of all lines below a headline exactly if it holds of each
statement and of the comment on it. -/
theorem forall_mem_body (isOpen : Bool) (statements : List Statement) :
    (∀ line ∈ body isOpen statements, p line) ↔
      ∀ s ∈ statements, p (.comment (caption s)) ∧ p (.statement s) := by
  induction statements generalizing isOpen with
  | nil =>
    have hclosing : p .closing := hfixed _ (by decide)
    cases isOpen <;> simp [body, hclosing]
  | cons s rest ih =>
    have htransition : ∀ line ∈ transition isOpen s.transactional, p line :=
      fun line hline => hfixed line (transition_subset _ _ hline)
    have hpair : (∀ line ∈ [ScriptLine.comment (caption s), .statement s], p line) ↔
        p (.comment (caption s)) ∧ p (.statement s) := by simp
    rw [body, List.forall_mem_append, List.forall_mem_append, hpair, List.forall_mem_cons]
    exact and_congr (and_iff_right htransition) (ih s.transactional)

theorem forall_mem_lines (headline : Text) (statements : List Statement) :
    (∀ line ∈ lines headline statements, p line) ↔ p (.comment headline) ∧
      ∀ s ∈ statements, p (.comment (caption s)) ∧ p (.statement s) := by
  rw [lines, List.forall_mem_cons]
  refine and_congr_right' ?_
  cases statements with
  | nil =>
    have hnothing : p (.comment "nothing to do") := hfixed _ (by decide)
    simpa using hnothing
  | cons s rest => exact forall_mem_body hfixed false (s :: rest)

end

/-- The headline goes on where the name of the database does. -/
theorem exists_headline (label : Text) : ∃ text, headline (.text label) = .ok text ∧
    text.lines.tail = label.lines.tail := by
  refine ⟨_, rfl, ?_⟩
  by_cases hempty : label = ""
  · rw [if_pos hempty, hempty]
    decide
  · obtain ⟨first, hlines⟩ := Text.exists_lines_append "pg-health migration: " (by decide) label
    rw [if_neg hempty, hlines, List.tail_cons]

/-- The comment on a statement has line feeds only in its names. -/
theorem notMem_caption (hname : lineFeed ∉ (s.checkName : Text).points)
    (hobjects : ∀ object ∈ s.objects, lineFeed ∉ object.points) :
    lineFeed ∉ (caption s).points := by
  have hcomma : lineFeed ∉ (", " : Text).points := by decide
  have hjoin := Text.notMem_points_join hcomma hobjects
  have hcolon : lineFeed ∉ (": " : Text).points := by decide
  simp only [caption, Text.points_append, List.mem_append, not_or]
  exact ⟨⟨hname, hcolon⟩, hjoin⟩

/-- The lines of a script are those of its parts, and an empty one at the end. -/
theorem exists_render (statements : List Statement) {text : Text}
    (h : headline (.text label) = .ok text) :
    ∃ script, render (.text label) statements = .ok script ∧ script.lines =
      (lines text statements).flatMap (fun line => line.text.lines) ++ [("" : Text)] := by
  refine ⟨_, Traversal.bind_eq_ok.2 ⟨text, h, rfl⟩, ?_⟩
  rw [Text.lines_join (by simp [lines]), List.flatMap_map]

/-- A script runs its statements and nothing else exactly if all that is left of a name or a
comment behind a line feed is harmless by itself, and so it does if no name has a line feed. -/
theorem render_runsOnly_iff (label : Text) {statements : List Statement}
    (hsql : ∀ s ∈ statements, lineFeed ∉ s.sql.points) :
    ∃ script, render (.text label) statements = .ok script ∧
      ((∀ line ∈ script.lines, RunsOnly statements line) ↔
        (∀ line ∈ label.lines.tail, RunsOnly statements line) ∧
          ∀ s ∈ statements, ∀ line ∈ (caption s).lines.tail, RunsOnly statements line) ∧
      (lineFeed ∉ label.points → (∀ s ∈ statements, lineFeed ∉ (s.checkName : Text).points ∧
          ∀ object ∈ s.objects, lineFeed ∉ object.points) →
        ∀ line ∈ script.lines, RunsOnly statements line) := by
  obtain ⟨text, htext, htail⟩ := exists_headline label
  obtain ⟨script, hscript, hlines⟩ := exists_render statements htext
  have hparts : (∀ line ∈ script.lines, RunsOnly statements line) ↔
      ∀ part ∈ lines text statements, ∀ line ∈ part.text.lines, RunsOnly statements line := by
    have hend : RunsOnly statements "" := .inl rfl
    rw [hlines, List.forall_mem_append, List.forall_mem_singleton, and_iff_left hend,
      List.forall_mem_flatMap]
  have hcaptions : (∀ line ∈ script.lines, RunsOnly statements line) ↔
      (∀ line ∈ label.lines.tail, RunsOnly statements line) ∧
        ∀ s ∈ statements, ∀ line ∈ (caption s).lines.tail, RunsOnly statements line := by
    -- Fixed lines and statements are harmless, so that only the comments with names are left.
    rw [hparts, forall_mem_lines (runsOnly_fixedLines statements), runsOnly_comment_iff, htail]
    refine and_congr_right' (forall₂_congr fun s hs => ?_)
    rw [runsOnly_comment_iff, and_iff_left (runsOnly_statement hs (hsql s hs))]
  refine ⟨script, hscript, hcaptions, fun hlabel hnames => hcaptions.2 ⟨?_, fun s hs => ?_⟩⟩
  · simp [Text.lines_of_notMem hlabel]
  · obtain ⟨hname, hobjects⟩ := hnames s hs
    simp [Text.lines_of_notMem (notMem_caption hname hobjects)]

/-- A statement that drops an index. -/
def dropDay : Statement where
  sql := "drop index if exists public.by_day;"
  checkName := unusedIndexesLabel.name
  objects := ["public.by_day"]
  transactional := true

/-- A script that drops an index does nothing else. -/
theorem render_runsOnly_iff_dropDay : (∀ s ∈ [dropDay], lineFeed ∉ s.sql.points) ∧
    ∃ script, render (.text "shop") [dropDay] = .ok script ∧
      ∀ line ∈ script.lines, RunsOnly [dropDay] line := by
  have hsql : ∀ s ∈ [dropDay], lineFeed ∉ s.sql.points := by decide
  have hlabel : lineFeed ∉ ("shop" : Text).points := by decide
  have hnames : ∀ s ∈ [dropDay], lineFeed ∉ (s.checkName : Text).points ∧
      ∀ object ∈ s.objects, lineFeed ∉ object.points := by decide
  obtain ⟨script, hscript, -, hruns⟩ := render_runsOnly_iff "shop" hsql
  exact ⟨hsql, script, hscript, hruns hlabel hnames⟩

/-- An index on one column, and one on two columns that has a line feed in its name. -/
def brokenName : Snapshot :=
  { bareSnapshot with
    indexes :=
      [plainIndex "public" "orders" "by_day" ["day"],
       plainIndex "public" "orders" "by_day_shop\ndrop table orders;" ["day", "shop"]]
    indexes_nodup := by decide }

/-- The script that drops the redundant index names the other one in a comment, and the rest of
this name is run, although no statement has a line feed. -/
theorem brokenName_runs : ∃ report statements script,
    evaluate brokenName {} = .ok report ∧
      Statement.generate .standard report.findings = .ok statements ∧
      render brokenName.database statements = .ok script ∧
      (∀ s ∈ statements, lineFeed ∉ s.sql.points) ∧
      ("drop table orders;" : Text) ∈ script.lines ∧
      ¬∀ line ∈ script.lines, RunsOnly statements line := by
  have hruns : (evaluate brokenName {} >>= fun report =>
      Statement.generate .standard report.findings).toOption.any (fun statements =>
        (∀ s ∈ statements, lineFeed ∉ s.sql.points) ∧
          ¬RunsOnly statements "drop table orders;" ∧
          (render brokenName.database statements).toOption.any (fun script =>
            ("drop table orders;" : Text) ∈ script.lines) = true) = true := by
    decide +kernel
  obtain ⟨report, statements, hreport, hstatements, hfacts⟩ :=
    Statement.exists_report_of_toOption hruns
  obtain ⟨hsql, hline, hrendered⟩ := of_decide_eq_true hfacts
  obtain ⟨script, hscript, hmem⟩ := Traversal.exists_ok_of_toOption hrendered
  have hbroken := of_decide_eq_true hmem
  exact ⟨report, statements, script, hreport, hstatements, hscript, hsql, hbroken,
    fun hall => hline (hall _ hbroken)⟩

end Script

end CatalogHealth
