import CatalogHealth.Catalog.Query
import CatalogHealth.Catalog.Row

/-!
# Reading a database

A session asks a database for its catalogue and puts a snapshot together. The
database is known by its answers; the session keeps a log of what it did, which
also holds what happened before a fault. Only a refused measurement of an index
is no fault: the index then has no estimate.
-/

namespace CatalogHealth

/-- What a database answers to a query: rows, or the fault that it raises. -/
abbrev Answer := Except Fault (List Row)

/-- A database, known by its answers. -/
structure Database where
  /-- The answer to each query of the catalogue. -/
  answer : CatalogQuery → Answer := fun _ => .ok []
  /-- The answers to the measurements of single indexes, one after the other;
  later ones have no rows. -/
  measurements : List Answer := []
  /-- The name of the database. -/
  name : Value := .text ""
  /-- The text in which the server tells its version. -/
  version : String := ""

/-- Something that a session did. -/
inductive SessionEvent where
  /-- A connection was asked for from a source, which is the absent value if none
  was named. -/
  | connect (source : Value)
  /-- The session was made to read only, each query on its own. -/
  | readOnly
  /-- The server was asked for its version. -/
  | version
  /-- A query was sent. -/
  | query (call : QueryCall)
  /-- The connection was closed. -/
  | close
deriving DecidableEq, Repr

/-- What a session knows while it runs. -/
structure SessionState where
  /-- What was done so far, the latest first. -/
  done : List SessionEvent := []
  /-- The measurements that were not asked for yet. -/
  measurements : List Answer := []

/-- A step of a session. -/
abbrev Session (α : Type) := ExceptT Fault (StateM SessionState) α

namespace Session

/-- Something was done. -/
def note (event : SessionEvent) : Session Unit :=
  modify fun state => { state with done := event :: state.done }

/-- The answer to a query of the catalogue. -/
def ask (db : Database) (schemas : List Text) (query : CatalogQuery) : Session (List Row) := do
  note (.query { query, schemas })
  (db.answer query : Except Fault (List Row))

/-- The next measurement of a single index. -/
def measure (schemas : List Text) (identifier : Text) : Session Answer := do
  note (.query { query := .indexBloat, schemas, index := some identifier })
  match (← get).measurements with
  | [] => return .ok []
  | answer :: rest =>
    modify fun state => { state with measurements := rest }
    return answer

end Session

/-- The identifier of an index for its measurement. -/
def measuredIdentifier (name : IndexName) : Text :=
  "\"" ++ name.schema.display ++ "\".\"" ++ name.index.display ++ "\""

/-- The share of leaf space that is not used, relative to a density of ninety
per cent. What is no number at all counts as fully unused. -/
def unusedShare (density : Binary64) : Binary64 :=
  let ninety := Binary64.finite false (90 * Binary64.unitsPerOne)
  let share := Binary64.one.sub (density.div ninety)
  let capped := if (Number.float share).lt (.int 1) then share else Binary64.one
  if (Number.int 0).lt (.float capped) then capped else .finite false 0

/-- The bloat that a measurement shows; a refusal by the database shows none. -/
def bloatOfAnswer : Answer → Except Fault (Option Binary64)
  | .error fault => if fault.kind = .database then .ok none else .error fault
  | .ok [] => .ok none
  | .ok ([] :: _) => .error .rowTooShort
  | .ok ((density :: _) :: _) =>
    if density = .null then .ok none else (density.real).map fun x => some (unusedShare x)

/-- Whether an index can be measured. -/
def isMeasurable (head : IndexHead) : Bool := head.method = .text "btree" && head.isValid.truthy

namespace Session

/-- The index of a group of rows, measured if that is wanted. -/
def readIndex (schemas : List Text) (measured : Bool) (group : IndexName × List Row) :
    Session (Option Index) := do
  match group.2 with
  | [] => return none
  | first :: _ =>
    let head ← (indexHeadOfRow first : Except Fault IndexHead)
    let keys ← (group.2.mapM (indexKeyOfRow head.method) : Except Fault (List (Option IndexKey)))
    let bloatRatio ←
      if measured && isMeasurable head then do
        (bloatOfAnswer (← measure schemas (measuredIdentifier group.1)) :
          Except Fault (Option Binary64))
      else pure none
    return some
      (← (indexOfParts group.1 head (keys.filterMap id) bloatRatio : Except Fault Index))

/-- The indexes in some rows, measured if that is wanted. A row that names no
index is found only when those in front of it have been read. -/
def readIndexes (schemas : List Text) (measured : Bool) (rows : List Row) :
    Session (List Index) := do
  let indexes ← (indexGroups rows).mapM (readIndex schemas measured)
  if rows.any fun row => (indexNameOfRow? row).isNone then throw .rowTooShort
  return indexes.filterMap id

/-- The snapshot of a database, of some schemas or, if none is given, of all;
indexes are measured if that is wanted. -/
def readSnapshot (db : Database) (schemas : List Text) (measured : Bool)
    (database : Value) : Session Snapshot := do
  let tableRows ← ask db schemas .tables
  let columnRows ← ask db schemas .columns
  let columns ← (columnRows.mapM columnOfRow : Except Fault (List (TableName × Column)))
  let indexRows ← ask db schemas .indexes
  let indexes ← readIndexes schemas measured indexRows
  let constraintRows ← ask db schemas .constraints
  let constraints ← (constraintRows.mapM constraintOfRow : Except Fault (List Constraint))
  let sequenceRows ← ask db schemas .sequences
  let sequences ← (sequenceRows.mapM sequenceOfRow : Except Fault (List Sequence))
  let indexNames ←
    (indexes.mapM fun i => return (← TableName.of i.tableSchema i.tableName, i.name) :
      Except Fault (List (TableName × Value)))
  let constraintNames ←
    (constraints.mapM fun c => return (← TableName.of c.tableSchema c.tableName, c.name) :
      Except Fault (List (TableName × Value)))
  let tables ←
    (tableRows.mapM (tableOfRow columns indexNames constraintNames) : Except Fault (List Table))
  (Snapshot.ofObjects tables indexes constraints sequences database : Except Fault Snapshot)

/-- What a session comes to, and what was done, in order. -/
def runOn {α : Type} (db : Database) (session : Session α) :
    Except Fault α × List SessionEvent :=
  let (result, state) := session.run.run { measurements := db.measurements }
  (result, state.done.reverse)

end Session

end CatalogHealth
