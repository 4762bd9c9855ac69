import CatalogHealth.Binary64.Text
import CatalogHealth.Text.Quoted

/-!
# Options of a command

A command knows its options from a table: the names of each, what its argument
has to be, and what the help page says about it. Options that exclude each other
form a choice, of which one has to be given. What is wrong with a command line is
told by cause, in the words that stand behind the name of the command.
-/

namespace CatalogHealth.CommandLine

/-- What the argument of an option has to be. -/
inductive ArgumentKind where
  /-- Any text. -/
  | text
  /-- A text that spells an integer. -/
  | integer
  /-- A text that spells a number. -/
  | number
  /-- One of some texts. -/
  | choice (choices : List String)
deriving DecidableEq, Repr

/-- The argument of an option. -/
structure Argument where
  /-- The word that stands for it on the help page. -/
  word : String
  /-- What it has to be. -/
  kind : ArgumentKind := .text
deriving DecidableEq, Repr

/-- What an option is for. -/
inductive OptionRole where
  /-- It sets something. -/
  | setting
  /-- It asks for the help page. -/
  | help
  /-- It asks for the version. -/
  | version
deriving DecidableEq, Repr

/-- An option of a command. -/
structure CommandOption where
  /-- Its names, the one that stands for it in front. -/
  names : List String
  /-- Its argument, if it takes one. -/
  argument : Option Argument := none
  /-- What the help page says about it. -/
  help : String
  /-- What it is for. -/
  role : OptionRole := .setting
deriving DecidableEq, Repr

namespace CommandOption

/-- The name that stands for an option. -/
def key (option : CommandOption) : String := option.names.head?.getD ""

/-- An option as messages name it. -/
def label (option : CommandOption) : String := "/".intercalate option.names

/-- An option under one of its names with the word for its argument. -/
def form (option : CommandOption) (name : String) : String :=
  match option.argument with
  | none => name
  | some argument => name ++ " " ++ argument.word

end CommandOption

/-- The options of a command. -/
structure OptionTable where
  /-- The name of the command on its help page and in front of its messages. -/
  command : String
  /-- The options in the order of the help page. -/
  options : List CommandOption
  /-- The keys of the options that exclude each other and of which one has to be
  given. -/
  oneOf : List String := []

namespace OptionTable

/-- The option of a name. -/
def find? (table : OptionTable) (name : String) : Option CommandOption :=
  table.options.find? fun option => option.names.contains name

/-- Every name with its option, in the order of the help page. -/
def named (table : OptionTable) : List (String × CommandOption) :=
  table.options.flatMap fun option => option.names.map fun name => (name, option)

end OptionTable

/-- What is wrong with a command line. -/
inductive UsageFault where
  /-- A shortened name that several options share. -/
  | ambiguous (word : String) (names : List String)
  /-- An option without its argument. -/
  | missingArgument (label : String)
  /-- An argument for an option that takes none. -/
  | needlessArgument (label given : String)
  /-- An argument that spells no integer. -/
  | notAnInteger (label given : String)
  /-- An argument that spells no number. -/
  | notANumber (label given : String)
  /-- An argument that is none of the choices. -/
  | noChoice (label given : String) (choices : List String)
  /-- An option beside another one that excludes it. -/
  | excluded (label other : String)
  /-- None of the options of which one has to be given. -/
  | noneOf (labels : List String)
  /-- Words that belong to nothing. -/
  | strangers (words : List String)
deriving DecidableEq, Repr

/-- The words for what is wrong with a command line. -/
def UsageFault.message : UsageFault → String
  | ambiguous word names =>
    "ambiguous option: " ++ word ++ " could match " ++ ", ".intercalate names
  | missingArgument label => "argument " ++ label ++ ": expected one argument"
  | needlessArgument label given =>
    "argument " ++ label ++ ": ignored explicit argument " ++ Text.quoted given
  | notAnInteger label given => "argument " ++ label ++ ": invalid int value: " ++ Text.quoted given
  | notANumber label given => "argument " ++ label ++ ": invalid float value: " ++ Text.quoted given
  | noChoice label given choices =>
    "argument " ++ label ++ ": invalid choice: " ++ Text.quoted given ++ " (choose from " ++
      ", ".intercalate (choices.map fun (choice : String) => Text.quoted choice) ++ ")"
  | excluded label other => "argument " ++ label ++ ": not allowed with argument " ++ other
  | noneOf labels => "one of the arguments " ++ " ".intercalate labels ++ " is required"
  | strangers words => "unrecognized arguments: " ++ " ".intercalate words

end CatalogHealth.CommandLine
