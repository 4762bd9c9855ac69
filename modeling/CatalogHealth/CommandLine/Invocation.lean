import CatalogHealth.CommandLine.Help
import CatalogHealth.CommandLine.Reading
import CatalogHealth.Finding.Basic
import CatalogHealth.Report.Json

/-!
# Commands

There are two commands: one evaluates a database or a snapshot file, the other
lists the checks. The first is meant when the command line begins with neither. An
invocation is what a command line asks for; it is found before anything is read
or written.
-/

namespace CatalogHealth.CommandLine

/-- The option that asks for the help page. -/
def helpOption : CommandOption where
  names := ["-h", "--help"]
  help := "show this help message and exit"
  role := .help

/-- The option for the categories of checks. -/
def categoriesOption (help : String) : CommandOption where
  names := ["--categories"]
  argument := some { word := "CATEGORIES" }
  help := help

/-- The options in front of the commands. -/
def overviewTable : OptionTable where
  command := toolName
  options :=
    [helpOption,
     { names := ["--version"], help := "show program's version number and exit", role := .version }]

/-- The options of the command that lists the checks. -/
def listTable : OptionTable where
  command := toolName ++ " list-checks"
  options := [helpOption, categoriesOption "Comma-separated list of categories to filter"]

/-- The options of the command that evaluates. -/
def checkTable : OptionTable where
  command := toolName ++ " check"
  oneOf := ["--dsn", "--snapshot"]
  options :=
    [helpOption,
     { names := ["--dsn"], argument := some { word := "DSN" },
       help := "PostgreSQL connection URI (postgres://...)" },
     { names := ["--snapshot"], argument := some { word := "SNAPSHOT" },
       help := "Path to a YAML or JSON snapshot file" },
     { names := ["--schemas"], argument := some { word := "SCHEMAS" },
       help := "Comma-separated list of schemas to read (default: all)" },
     { names := ["--config", "-c"], argument := some { word := "CONFIG" },
       help := "Path to pg-health.yaml" },
     categoriesOption "Comma-separated list of check categories to run (default: all)",
     { names := ["--exclude"], argument := some { word := "EXCLUDE" },
       help := "Comma-separated check names to skip" },
     { names := ["--include-only"], argument := some { word := "INCLUDE_ONLY" },
       help := "Comma-separated check names to run" },
     { names := ["--ignore"], argument := some { word := "PATTERN[:CHECK]" },
       help := "Hide objects matching PATTERN, optionally for one check only (repeatable)" },
     { names := ["--format", "-f"],
       argument := some { word := "\x7bjson,markdown\x7d", kind := .choice ["json", "markdown"] },
       help := "Report format (default: markdown)" },
     { names := ["--output", "-o"], argument := some { word := "OUTPUT" },
       help := "Report file path (default: stdout)" },
     { names := ["--sql"], argument := some { word := "SQL" },
       help := "Write corrective statements to this file" },
     { names := ["--index-foreign-keys"],
       help := "Generate indexes for foreign keys without one" },
     { names := ["--no-concurrently"],
       help := "Generate locking index statements instead of CONCURRENTLY" },
     { names := ["--index-bloat"],
       help := "Estimate btree index bloat with pgstatindex() (reads every index)" },
     { names := ["--workers"], argument := some { word := "WORKERS", kind := .integer },
       help := "Threads used to run checks (default: 1)" },
     { names := ["--timeout"], argument := some { word := "TIMEOUT", kind := .number },
       help := "Give up on unfinished checks after N seconds" },
     { names := ["--fail-on"],
       argument := some
         { word := "\x7bhigh,warning,info\x7d", kind := .choice ["high", "warning", "info"] },
       help := "Exit with code 2 when findings of this severity or worse exist" },
     { names := ["--verbose", "-v"], help := "Print progress" }]

/-- The help page in front of the commands. -/
def overviewPage : HelpPage where
  command := toolName
  usage := overviewTable.usageParts ++ ["\x7bcheck,list-checks\x7d", "..."]
  purpose := some "Audit PostgreSQL indexes, tables, constraints and sequences."
  sections :=
    [{ title := "positional arguments"
       entries :=
         [{ subject := "\x7bcheck,list-checks\x7d", help := "Available commands (default: check)" },
          { subject := "check", indent := 4, help := "Evaluate a database or snapshot file" },
          { subject := "list-checks", indent := 4, help := "List all available checks" }] },
     overviewTable.optionSection]

/-- What the command that evaluates is asked for. Some of it stays a value, because
two dashes in place of an argument are found to be none only where it is used. -/
structure CheckRequest where
  /-- The source of a database connection, absent if it is not given. -/
  source : Value := .null
  /-- The path of a snapshot file. -/
  snapshot : Option String := none
  /-- The schemas to read from a database, all if there are none. -/
  schemas : List Text := []
  /-- The path of a configuration file, absent if it is not given. -/
  config : Value := .null
  /-- The categories to run, all if there are none. -/
  categories : List Text := []
  /-- The checks to leave out. -/
  exclude : List Text := []
  /-- The only checks to run. -/
  includeOnly : Option (List Text) := none
  /-- The rules of exclusion in their short form. -/
  ignore : List Value := []
  /-- Whether the report is written as JSON. -/
  asJson : Bool := false
  /-- The path of the report, if it is not printed. -/
  output : Option String := none
  /-- The path of the corrective statements, if they are wanted. -/
  sql : Option String := none
  /-- Whether indexes for foreign keys are generated. -/
  indexForeignKeys : Bool := false
  /-- Whether statements lock. -/
  noConcurrently : Bool := false
  /-- Whether indexes of a database are measured. -/
  indexBloat : Bool := false
  /-- The number of workers. -/
  workers : Value := .int 1
  /-- The seconds after which the evaluation stops, absent if it does not. -/
  timeout : Value := .null
  /-- The severity of findings that make the command fail. -/
  failOn : Option Severity := none
  /-- Whether progress is printed. -/
  verbose : Bool := false

/-- The parts of a text between commas without blanks around them, apart from
those that are empty. -/
def commaParts (text : String) : List Text :=
  let parts := (Text.pieces ',' text.toList).map fun part => (Text.ofChars part).strip
  parts.filter fun part => !part.isEmpty

/-- The value of an option that was given: what is made of its argument, or an empty
list if two dashes stand for that. -/
def Given.value (ofText : String → Value) (given : Given) : Value :=
  (given.argument.map ofText).getD (.list [])

/-- The value of an option as it was given last, or a default. -/
def CommandRead.valueD (reading : CommandRead) (key : String) (default : Value)
    (ofText : String → Value) : Value :=
  ((reading.last? key).map (·.value ofText)).getD default

/-- The argument of an option, unless it is empty. -/
def CommandRead.some? (reading : CommandRead) (key : String) : Option String :=
  (reading.argument? key).filter (· != "")

/-- The parts of the argument of an option between commas. -/
def CommandRead.parts (reading : CommandRead) (key : String) : List Text :=
  ((reading.some? key).map commaParts).getD []

/-- What the command that evaluates is asked for by what was read. -/
def CheckRequest.ofRead (reading : CommandRead) : CheckRequest where
  source := reading.valueD "--dsn" .null fun word => .text word
  snapshot := reading.some? "--snapshot"
  schemas := reading.parts "--schemas"
  config := reading.valueD "--config" .null fun word => .text word
  categories := reading.parts "--categories"
  exclude := reading.parts "--exclude"
  includeOnly := (reading.some? "--include-only").map commaParts
  ignore := (reading.all "--ignore").map (·.value fun word => .text word)
  asJson := reading.argument? "--format" = some "json"
  output := reading.some? "--output"
  sql := reading.some? "--sql"
  indexForeignKeys := reading.has "--index-foreign-keys"
  noConcurrently := reading.has "--no-concurrently"
  indexBloat := reading.has "--index-bloat"
  workers := reading.valueD "--workers" (.int 1) fun text =>
    ((Text.integer text).toOption.map Value.int).getD .null
  timeout := reading.valueD "--timeout" .null fun text =>
    ((Text.number? text.toList).map Value.float).getD .null
  failOn := (reading.argument? "--fail-on").bind fun name =>
    Severity.all.find? fun severity => severity.name = String.ofList (name.toList.map Char.toUpper)
  verbose := reading.has "--verbose"

/-- What a command line asks for. -/
inductive Invocation where
  /-- Nothing; the help page in front of the commands is shown as a failure. -/
  | nothing
  /-- A help page. -/
  | help (page : HelpPage)
  /-- The version. -/
  | version
  /-- The checks of some categories, or all if there are none. -/
  | listChecks (categories : List Text)
  /-- An evaluation. -/
  | check (request : CheckRequest)
  /-- Something is wrong with it. -/
  | refused (page : HelpPage) (fault : UsageFault)

/-- What a command line asks for that was read for a command. Strangers are
refused in front of the commands. -/
def Invocation.ofRead (table : OptionTable) (result : Except Stop CommandRead)
    (accepted : CommandRead → Invocation) : Invocation :=
  match result with
  | .error .help => .help table.helpPage
  | .error .version => .version
  | .error (.fault fault) => .refused table.helpPage fault
  | .ok reading =>
    if reading.strangers.isEmpty then accepted reading
    else .refused overviewPage (.strangers reading.strangers)

/-- What words ask for that begin with a command or with an option in front of
the commands. -/
def Invocation.ofCommand (words : List String) : Invocation :=
  match classify overviewTable words with
  | .error fault => .refused overviewPage fault
  | .ok _ =>
    match words with
    | [] => .nothing
    | command :: rest =>
      if command = "--version" then .version
      else if command = "list-checks" then
        .ofRead listTable (read listTable rest) fun reading =>
          .listChecks (reading.parts "--categories")
      else if command = "check" then
        .ofRead checkTable (read checkTable rest) fun reading => .check (.ofRead reading)
      else .help overviewPage

/-- The words that may begin a command line without a command being added. -/
def leadingWords : List String := ["check", "list-checks", "--version", "--help", "-h"]

/-- What a command line asks for. -/
def Invocation.ofWords (words : List String) : Invocation :=
  match words with
  | [] => .nothing
  | first :: _ =>
    .ofCommand (if leadingWords.contains first then words else "check" :: words)

end CatalogHealth.CommandLine
