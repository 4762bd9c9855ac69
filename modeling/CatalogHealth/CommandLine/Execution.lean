import CatalogHealth.Catalog.Session
import CatalogHealth.CommandLine.Invocation
import CatalogHealth.Configuration
import CatalogHealth.Evaluation
import CatalogHealth.FileTree
import CatalogHealth.Migration.Script
import CatalogHealth.Report.Markdown
import CatalogHealth.Snapshot.Document

/-!
# Carrying out a command

A command runs in surroundings of files and perhaps a database. It prints, writes
files and ends with an exit code. Bad configuration, bad selections and unreadable
snapshots are reported in one line and end the command before anything is
evaluated; a database that cannot be reached is reported with a hint. Any other
fault ends the command as it is, and what was printed and written before stays.
-/

namespace CatalogHealth.CommandLine

/-- What a command finds around it. -/
structure Surroundings where
  /-- The files. -/
  tree : FileTree := {}
  /-- What comes of asking for a database connection. -/
  connection : Except Fault Database := .error (.connectionFailed "no database")

/-- How a command ends. -/
inductive Exit where
  /-- With an exit code. -/
  | code (code : Nat)
  /-- With a fault that nothing took care of. -/
  | fault (fault : Fault)
deriving DecidableEq, Repr

/-- What a command has done so far. -/
structure Console where
  /-- What was printed. -/
  out : Text := ""
  /-- What was printed aside: progress and complaints. -/
  err : Text := ""
  /-- The files as they are now. -/
  tree : FileTree := {}
  /-- The texts that were written, in order. -/
  written : List (Place × String) := []
  /-- What was done with a database, in order. -/
  log : List SessionEvent := []

/-- A step of a command. -/
abbrev Command (α : Type) := ExceptT Exit (StateM Console) α

namespace Command

/-- A text is printed. -/
def print (text : Text) : Command Unit :=
  modify fun console => { console with out := console.out ++ text }

/-- A line is printed aside. -/
def complain (line : Text) : Command Unit :=
  modify fun console => { console with err := console.err ++ line ++ "\n" }

/-- The command ends. -/
def exit {α : Type} (code : Nat) : Command α := throw (.code code)

/-- A result, or the end of the command. -/
def settle {α : Type} : Except Fault α → Command α
  | .ok result => pure result
  | .error fault => throw (.fault fault)

/-- Whether a fault is about what the command was given and not about how it was
carried out. -/
def isReported (fault : Fault) : Bool :=
  fault.kind = .value || fault.kind = .config || fault.kind = .fileNotFound

/-- A result; a fault in what the command was given is reported in one line. -/
def accept {α : Type} : Except Fault α → Command α
  | .ok result => pure result
  | .error fault =>
    if isReported fault then do
      complain ("Error: " ++ fault.message)
      exit 1
    else throw (.fault fault)

/-- A text is written to the file of a path, or printed if there is no path. The file
is made and stays empty if the text has no bytes. -/
def deliver (path? : Option String) (text : Text) : Command Unit :=
  match path? with
  | none => print text
  | some path => do
    let stored := text.string?.getD ""
    let (tree, place) ← settle ((← get).tree.write path stored)
    modify fun console =>
      { console with tree, written := console.written ++ [(place, stored)] }
    discard (settle text.asString)
    complain ("Written to " ++ path)

end Command

/-! ## Configuration -/

/-- The name of a configuration file that is found without being asked for. -/
def configurationName : String := "pg-health.yaml"

/-- The configuration file that is found without being asked for: the one in the
working directory, or else the one of the user. -/
def discovered? (tree : FileTree) : Option Place :=
  [tree.work ++ [configurationName], tree.home ++ [configurationName]].find? tree.isFile

/-- The configuration in a file, if it is there. -/
def configurationIn (path : String) (content? : Option FileContent) :
    Except Fault Configuration :=
  match content? with
  | none => .error (.configNotFound path)
  | some content => do Configuration.ofFileContent path (← content.value)

/-- The configuration at a path; without a path the one that is found, or the
default. -/
def loadConfiguration (tree : FileTree) (path : Value) (discover : Bool) :
    Except Fault Configuration :=
  match path with
  | .text path => do
    let path ← path.asString
    configurationIn path (tree.read? path)
  | .null =>
    match if discover then discovered? tree else none with
    | some place => configurationIn place.path (tree.content? place)
    | none => .ok {}
  | _ => .error .wrongKind

/-- What a request lays over the configuration. -/
def CheckRequest.overrides (request : CheckRequest) : Except Fault Overrides := do
  let exclusions ← request.ignore.mapM ExclusionRule.ofShortForm
  return { exclude := request.exclude
           includeOnly := request.includeOnly
           exclusions
           indexForeignKeys := request.indexForeignKeys
           noConcurrently := request.noConcurrently }

/-- The configuration of a request, complete and checked. -/
def CheckRequest.configuration (request : CheckRequest) (tree : FileTree) :
    Except Fault Configuration := do
  let loaded ← loadConfiguration tree request.config true
  let configuration := loaded.withOverrides (← request.overrides)
  discard (configuration.validate Registry.builtin.names)
  return configuration

/-! ## Snapshots -/

/-- The snapshot in the file of a path. -/
def loadSnapshot (tree : FileTree) (path : String) : Except Fault Snapshot :=
  match tree.read? path with
  | none => .error (.snapshotNotFound path)
  | some content => do Snapshot.ofFileContent path (← content.value)

/-- The lines about a database that cannot be reached. -/
def connectionLines (message : Text) : List Text :=
  let reason := message.strip
  let mentions (words : Text) : Bool := Text.contains words.points reason.points
  let hint : List Text :=
    if mentions "no password supplied" then
      ["", "Hint: Set PGPASSWORD or use ~/.pgpass to provide a password."]
    else if mentions "does not exist" then
      ["", "Hint: Check that the database name is correct."]
    else []
  let shown : Text := "       " ++ reason
  "Error: Could not connect to database." :: shown :: hint

/-- What is asked of a database that was reached. -/
def CheckRequest.session (request : CheckRequest) (db : Database) : Session Snapshot := do
  Session.note (.connect request.source)
  Session.note .readOnly
  if request.verbose then Session.note .version
  Session.readSnapshot db request.schemas request.indexBloat db.name

/-- The snapshot of a database. The connection is closed in any case. -/
def readDatabase (request : CheckRequest) (connection : Except Fault Database) :
    Command Snapshot :=
  match connection with
  | .error fault => do
    modify fun console => { console with log := console.log ++ [.connect request.source] }
    (connectionLines fault.message).forM Command.complain
    Command.exit 1
  | .ok db => do
    if request.verbose then Command.complain ("Connected to " ++ db.version)
    let (result, events) := Session.runOn db (request.session db)
    modify fun console => { console with log := console.log ++ events ++ [.close] }
    Command.settle result

/-- The snapshot that a request is about. -/
def CheckRequest.readSnapshot (request : CheckRequest) (surroundings : Surroundings) :
    Command Snapshot :=
  match request.snapshot with
  | some path => Command.accept (loadSnapshot surroundings.tree path)
  | none => readDatabase request surroundings.connection

/-! ## Commands -/

/-- Whether a report has findings of a severity or of a worse one. -/
def failsOn (severity : Severity) (report : Report) : Bool :=
  report.findings.any fun finding => finding.severity.rank ≤ severity.rank

/-- The exit code that tells of findings. -/
def exitFindings : Nat := 2

/-- The report about a snapshot, with its progress if that is wanted. -/
def CheckRequest.evaluate (request : CheckRequest) (snapshot : Snapshot)
    (evaluation : EvaluationRequest) : Command Report :=
  match CatalogHealth.evaluate snapshot evaluation with
  | .ok report => do
    if request.verbose then report.progress.forM Command.complain
    return report
  | .error fault => do
    if request.verbose then
      (evaluation.interruptedProgress snapshot).forM Command.complain
    throw (.fault fault)

/-- An evaluation from its configuration to its reports. -/
def CheckRequest.perform (request : CheckRequest) (surroundings : Surroundings) :
    Command Unit := do
  let configuration ← Command.accept (request.configuration surroundings.tree)
  let snapshot ← request.readSnapshot surroundings
  let report ← request.evaluate snapshot
    { registry := configuration.registry
      rules := configuration.exclusions
      thresholds := configuration.thresholds
      categories := request.categories
      workers := request.workers
      timeout := request.timeout }
  let statements? ← Command.settle <|
    if request.sql.isSome then some <$> Statement.generate configuration.generating report.findings
    else pure none
  Command.settle report.checkWritable
  Command.deliver request.output
    (if request.asJson then report.json statements? else report.markdown)
  match request.sql with
  | some path =>
    let script ← Command.settle (Script.render report.database (statements?.getD []))
    Command.deliver path script
  | none => pure ()
  match request.failOn with
  | some severity => if failsOn severity report then Command.exit exitFindings
  | none => pure ()

/-- The order in which checks are listed. -/
def listingLe (a b : Check) : Bool :=
  byPart (fun check : Check => (check.category : Text)) textLe (fun x y => textLe x.name y.name) a b

/-- The lines about the checks of one category and those behind them, given the
category of the check before them. -/
def listingFrom (before : Option String) : List Check → List String
  | [] => []
  | check :: rest =>
    let heading :=
      if before = some check.category then [] else ["", "[" ++ check.category ++ "]"]
    heading ++ ("  " ++ padded 30 check.name ++ " " ++ check.description) ::
      listingFrom (some check.category) rest

/-- The list of the checks of some categories. -/
def listing (categories : List Text) : List String :=
  match sortBy listingLe (Registry.builtin.enabledChecks categories) with
  | [] => ["No checks found."]
  | checks => listingFrom none checks

/-- What an invocation asks for is done. -/
def Invocation.perform (invocation : Invocation) (surroundings : Surroundings) : Command Unit :=
  match invocation with
  | nothing => do
    Command.print overviewPage.text
    Command.exit 1
  | help page => Command.print page.text
  | version => Command.print (toolName ++ " " ++ toolVersion ++ "\n")
  | listChecks categories => (listing categories).forM fun line => Command.print (line ++ "\n")
  | check request => request.perform surroundings
  | refused page fault => do
    modify fun console => { console with err := console.err ++ page.usageText }
    Command.complain (page.command ++ ": error: " ++ fault.message)
    Command.exit 2

/-- How a command line ends in some surroundings, and what it has done. -/
def run (words : List String) (surroundings : Surroundings) : Exit × Console :=
  let command := (Invocation.ofWords words).perform surroundings
  match command.run.run { tree := surroundings.tree } with
  | (.ok _, console) => (.code 0, console)
  | (.error exit, console) => (exit, console)

/-- The places of the files that an invocation reads if they are there. -/
def Invocation.inputs (invocation : Invocation) (tree : FileTree) : List Place :=
  match invocation with
  | check request =>
    let placeOf (path : String) := (FileTree.pathNames path).foldl FileTree.enter (tree.origin path)
    let configurations :=
      match request.config.text?.bind Text.string? with
      | some path => [placeOf path]
      | none => [tree.work ++ [configurationName], tree.home ++ [configurationName]]
    configurations ++ (request.snapshot.map placeOf).toList
  | _ => []

end CatalogHealth.CommandLine
