import CatalogHealth.Migration.Statement

/-!
# Migration scripts

A script holds statements in order. Each maximal run of statements that may
stand inside a transaction is put into one, and the other statements stand
outside of all transactions. Every statement comes below a comment that names
its check and its objects.
-/

namespace CatalogHealth

/-- A line of a script. -/
inductive ScriptLine where
  /-- A line about the script or the statement below it. -/
  | comment (text : Text)
  /-- A line that separates. -/
  | blank
  /-- The beginning of a transaction. -/
  | opening
  /-- The end of a transaction. -/
  | closing
  /-- A statement. -/
  | statement (s : Statement)
deriving DecidableEq, Repr

namespace ScriptLine

/-- The text of a line; the text of a statement may have line breaks in it. -/
def text : ScriptLine → Text
  | comment text => "-- " ++ text
  | blank => ""
  | opening => "BEGIN;"
  | closing => "COMMIT;"
  | statement s => s.sql

end ScriptLine

namespace Script

/-- The comment on a statement. -/
def caption (s : Statement) : Text := s.checkName ++ ": " ++ Text.join ", " s.objects

/-- The lines that lead from one statement to the next, given whether a
transaction is open and whether the next statement may stand in one. -/
def transition (isOpen transactional : Bool) : List ScriptLine :=
  (if transactional && !isOpen then [.blank, .opening]
   else if !transactional && isOpen then [.closing]
   else []) ++
  (if transactional then [] else [.blank, .comment "must run outside a transaction block"])

/-- The lines of some statements, given whether a transaction is open. -/
def body (isOpen : Bool) : List Statement → List ScriptLine
  | [] => if isOpen then [.closing] else []
  | s :: rest =>
    transition isOpen s.transactional ++ [.comment (caption s), .statement s] ++
      body s.transactional rest

/-- The headline of a script. The name of a database that is no text cannot stand
in it. -/
def headline (database : Value) : Except Fault Text :=
  match database with
  | .text name =>
    .ok (if name = "" then "pg-health migration" else "pg-health migration: " ++ name)
  | value => if value.truthy then .error .wrongKind else .ok "pg-health migration"

/-- The lines of a script below its headline. -/
def lines (headline : Text) (statements : List Statement) : List ScriptLine :=
  .comment headline ::
    if statements.isEmpty then [.comment "nothing to do"] else body false statements

/-- The text of a script. -/
def render (database : Value) (statements : List Statement) : Except Fault Text := do
  let headline ← headline database
  return Text.join "\n" ((lines headline statements).map ScriptLine.text) ++ "\n"

end Script

end CatalogHealth
