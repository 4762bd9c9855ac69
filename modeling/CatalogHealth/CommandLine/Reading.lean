import CatalogHealth.CommandLine.Option
import CatalogHealth.Text.Split
import CatalogHealth.Value.Reading

/-!
# Reading a command line

A word that begins with a dash names an option, in full or by a beginning that no
other option shares; its argument is attached to it or is the next word. Short
options without arguments may share one dash, and all of them are known before any
is taken. A word that no option claims is a stranger, and so is every word behind
two dashes. Words are told apart before any of them is taken, so that a shared
beginning is refused wherever it stands; after that the first fault from the left
counts, and an option that asks for help or for the version ends the reading.
Two dashes that are attached to an option stand for an argument that is not there;
nothing is asked of it.
-/

namespace CatalogHealth.CommandLine

/-- What a word of a command line is. -/
inductive WordKind where
  /-- An argument or a stranger. -/
  | argument
  /-- The two dashes behind which there are no options. -/
  | separator
  /-- The name of no option. -/
  | unknown
  /-- The name of an option, and what is attached to it. -/
  | named (option : CommandOption) (name : String) (attached : Option (List Char))
deriving DecidableEq, Repr

/-- A word of a command line with what it is. -/
structure Word where
  /-- The word. -/
  text : String
  /-- What it is. -/
  kind : WordKind
deriving DecidableEq, Repr

/-! ## Telling words apart -/

/-- Whether a text is digits of any script, at least one. -/
def isNumeral (cs : List Char) : Bool :=
  !cs.isEmpty && cs.all fun c => (Text.decimalDigit? c).isSome

/-- A text without the line feed at its end. -/
def dropLineEnd (cs : List Char) : List Char :=
  if cs.getLast? = some '\n' then cs.dropLast else cs

/-- Whether a word is a negative number, which is never the name of an option. A
line feed may follow it. -/
def isNegativeNumber (cs : List Char) : Bool :=
  match dropLineEnd cs with
  | '-' :: digits =>
    isNumeral digits ||
      match Text.cut '.' digits with
      | some (whole, places) => (whole.isEmpty || isNumeral whole) && isNumeral places
      | none => false
  | _ => false

/-- The name in front of the equals sign of a word, and what is attached by it. -/
def splitAttached (cs : List Char) : List Char × Option (List Char) :=
  match Text.cut '=' cs with
  | some (name, attached) => (name, some attached)
  | none => (cs, none)

/-- The options that a word may name by a beginning of their names, or by a dash
and a letter with something attached. -/
def candidates (table : OptionTable) (cs : List Char) : List WordKind :=
  match cs with
  | '-' :: '-' :: _ =>
    let (name, attached) := splitAttached cs
    (table.named.filter fun entry => name.isPrefixOf entry.1.toList).map fun entry =>
      .named entry.2 entry.1 attached
  | _ =>
    table.named.filterMap fun entry =>
      if entry.1.toList = cs.take 2 then
        some (.named entry.2 entry.1 (some (cs.drop 2)))
      else if cs.isPrefixOf entry.1.toList then some (.named entry.2 entry.1 none)
      else none

/-- The name of the option that a word names. -/
def WordKind.name? : WordKind → Option String
  | named _ name _ => some name
  | _ => none

/-- The option that a word names in full, what is attached to it standing behind
an equals sign. -/
def fullName? (table : OptionTable) (word : String) : Option WordKind :=
  match table.find? word with
  | some option => some (.named option word none)
  | none =>
    match splitAttached word.toList with
    | (_, none) => none
    | (name, attached) =>
      (table.find? (String.ofList name)).map fun option =>
        .named option (String.ofList name) attached

/-- What a word is that names no option in full. -/
def shortName (table : OptionTable) (word : String) : Except UsageFault WordKind :=
  match candidates table word.toList with
  | [only] => .ok only
  | [] =>
    .ok (if isNegativeNumber word.toList || word.toList.contains ' ' then .argument else .unknown)
  | several => .error (.ambiguous word (several.filterMap WordKind.name?))

/-- What a word is. -/
def kindOf (table : OptionTable) (word : String) : Except UsageFault WordKind :=
  match word.toList with
  | '-' :: rest =>
    match fullName? table word with
    | some kind => .ok kind
    | none => if rest.isEmpty then .ok .argument else shortName table word
  | _ => .ok .argument

/-- Words with what they are. -/
def classify (table : OptionTable) : List String → Except UsageFault (List Word)
  | [] => .ok []
  | word :: rest =>
    if word = "--" then
      .ok ({ text := word, kind := .separator } :: rest.map fun text => { text, kind := .argument })
    else do
      let kind ← kindOf table word
      return { text := word, kind } :: (← classify table rest)

/-! ## Taking options -/

/-- An option that was given. -/
structure Given where
  /-- The option. -/
  option : CommandOption
  /-- Its argument; there is none if it takes none, or if two dashes stand for it. -/
  argument : Option String := none
deriving DecidableEq, Repr

/-- Why reading a command line ends early. -/
inductive Stop where
  /-- The help page is asked for. -/
  | help
  /-- The version is asked for. -/
  | version
  /-- Something is wrong. -/
  | fault (fault : UsageFault)
deriving DecidableEq, Repr

/-- What was read of a command line. -/
structure CommandRead where
  /-- The options that were given, in order. -/
  given : List Given := []
  /-- The words that belong to nothing, in order. -/
  strangers : List String := []
deriving DecidableEq, Repr

/-- The options that share one dash. -/
structure Cluster where
  /-- The options with what is attached to them. -/
  given : List Given := []
  /-- The last option, if it still needs its argument. -/
  pending : Option CommandOption := none

namespace Cluster

/-- A single option without anything attached to it. -/
def single (option : CommandOption) : Cluster :=
  if option.argument.isSome then { pending := some option } else { given := [{ option }] }

/-- The options with one more in front, which takes no argument. -/
def behind (option : CommandOption) (cluster : Cluster) : Cluster :=
  { cluster with given := { option } :: cluster.given }

end Cluster

/-- An option with what is attached to it as its argument. -/
def Given.attached (option : CommandOption) (text : List Char) : Given where
  option := option
  argument := if text = ['-', '-'] then none else some (String.ofList text)

/-- The options in a word that begins with an option, given what is attached to
it. An option with an argument takes all of that; behind a short option without one
each character is the letter of a further option, and a letter of none is refused
with all that follows it. -/
def clusterOf (table : OptionTable) (option : CommandOption) (long : Bool) :
    List Char → Except UsageFault Cluster
  | [] =>
    if option.argument.isSome then .ok { given := [.attached option []] }
    else .error (.needlessArgument option.label "")
  | c :: rest =>
    if option.argument.isSome then .ok { given := [.attached option (c :: rest)] }
    else if long then .error (.needlessArgument option.label (String.ofList (c :: rest)))
    else
      match table.find? (String.ofList ['-', c]) with
      | none => .error (.needlessArgument option.label (String.ofList (c :: rest)))
      | some next =>
        if rest.isEmpty then .ok ((Cluster.single next).behind option)
        else (clusterOf table next false rest).map (Cluster.behind option)

/-- The options in a word. -/
def cluster (table : OptionTable) (option : CommandOption) (name : String)
    (attached : Option (List Char)) : Except UsageFault Cluster :=
  match attached with
  | none => .ok (.single option)
  | some text => clusterOf table option (name.toList.take 2 = ['-', '-']) text

/-- Whether an argument is of a kind. -/
def checkKind (label given : String) : ArgumentKind → Except UsageFault Unit
  | .text => .ok ()
  | .integer =>
    (Text.integer given).toOption.elim (.error (.notAnInteger label given)) fun _ => .ok ()
  | .number =>
    if (Text.number? given.toList).isSome then .ok () else .error (.notANumber label given)
  | .choice choices =>
    if choices.contains given then .ok () else .error (.noChoice label given choices)

/-- Whether the argument of an option is what it has to be, if there is one. -/
def checkArgument (given : Given) : Except UsageFault Unit :=
  match given.option.argument, given.argument with
  | some expected, some argument => checkKind given.option.label argument expected.kind
  | _, _ => .ok ()

/-- What was read with one more option, if its argument is what it has to be and
no option was given that excludes it. -/
def take (table : OptionTable) (reading : CommandRead) (given : Given) :
    Except Stop CommandRead := do
  (checkArgument given).mapError Stop.fault
  if table.oneOf.contains given.option.key then
    let clashes (other : String) : Bool :=
      other != given.option.key && reading.given.any fun earlier => earlier.option.key = other
    match table.oneOf.find? clashes with
    | some other => throw (.fault (.excluded given.option.label other))
    | none => pure ()
  match given.option.role with
  | .help => throw .help
  | .version => throw .version
  | .setting => return { reading with given := reading.given ++ [given] }

/-- What was read with the options of one word. -/
def takeAll (table : OptionTable) (reading : CommandRead) (given : List Given) :
    Except Stop CommandRead :=
  given.foldlM (take table) reading

/-- What is read of words after what was read before them, the options of the
word before them waiting for the argument of the last. -/
def readFrom (table : OptionTable) (reading : CommandRead)
    (waiting : Option (List Given × CommandOption)) : List Word → Except Stop CommandRead
  | [] =>
    match waiting with
    | some (_, last) => .error (.fault (.missingArgument last.label))
    | none => .ok reading
  | word :: rest =>
    match waiting, word.kind with
    | some (given, last), .argument => do
      let reading ← takeAll table reading (given ++ [⟨last, some word.text⟩])
      readFrom table reading none rest
    | some (_, last), _ => .error (.fault (.missingArgument last.label))
    | none, .named option name attached => do
      let found ← (cluster table option name attached).mapError Stop.fault
      match found.pending with
      | some last => readFrom table reading (some (found.given, last)) rest
      | none => do
        let reading ← takeAll table reading found.given
        readFrom table reading none rest
    | none, _ =>
      readFrom table { reading with strangers := reading.strangers ++ [word.text] } none rest

/-- What a command line says to a command. -/
def read (table : OptionTable) (words : List String) : Except Stop CommandRead := do
  let classified ← (classify table words).mapError Stop.fault
  let reading ← readFrom table {} none classified
  let chosen := reading.given.any fun given => table.oneOf.contains given.option.key
  if !table.oneOf.isEmpty && !chosen then throw (.fault (.noneOf table.oneOf))
  return reading

namespace CommandRead

/-- An option as it was given last. -/
def last? (reading : CommandRead) (key : String) : Option Given :=
  reading.given.reverse.find? fun given => given.option.key = key

/-- The argument of an option as it was given last. -/
def argument? (reading : CommandRead) (key : String) : Option String :=
  (reading.last? key).bind (·.argument)

/-- An option every time it was given, in order. -/
def all (reading : CommandRead) (key : String) : List Given :=
  reading.given.filter fun given => given.option.key = key

/-- Whether an option was given. -/
def has (reading : CommandRead) (key : String) : Bool :=
  reading.given.any fun given => given.option.key = key

end CommandRead

end CatalogHealth.CommandLine
