import CatalogHealth.CommandLine.Option
import CatalogHealth.Text.Blank

/-!
# Help pages

A help page shows how a command is called, what it is for and what its options
mean. Lines are filled up to 78 characters. What an option is called stands on the
left and what is said about it in a column of its own, on the next line if the
left side is too wide. Lines are broken between words only.
-/

namespace CatalogHealth.CommandLine

/-- The number of characters that a line of a help page may have. -/
def pageWidth : Nat := 78

/-- The column in which explanations stand at most. -/
def widestColumn : Nat := 24

/-- A line of parts with the number of its characters. -/
structure Line where
  /-- The parts, the last in front. -/
  parts : List String
  /-- The number of characters, with a blank between parts. -/
  width : Nat

/-- Lines, the last in front, with one more part at the end, which begins a new
line if it does not fit. -/
def addPart (width : Nat) (lines : List Line) (part : String) : List Line :=
  match lines with
  | line :: rest =>
    if line.width + 1 + part.length ≤ width then
      { parts := part :: line.parts, width := line.width + 1 + part.length } :: rest
    else { parts := [part], width := part.length } :: line :: rest
  | [] => [{ parts := [part], width := part.length }]

/-- Parts on lines, as many on each as fit. -/
def fill (width : Nat) (parts : List String) : List String :=
  ((parts.foldl (addPart width) []).reverse).map fun line => " ".intercalate line.parts.reverse

/-- Blanks. -/
def blanks (width : Nat) : String := String.ofList (List.replicate width ' ')

/-- A text filled with blanks up to a width. -/
def padded (width : Nat) (text : String) : String := text ++ blanks (width - text.length)

/-- A line of a help page that explains something. -/
structure HelpEntry where
  /-- What is explained. -/
  subject : String
  /-- How far it is indented. -/
  indent : Nat := 2
  /-- What is said about it. -/
  help : String

/-- A group of explanations. -/
structure HelpSection where
  /-- The words above it. -/
  title : String
  /-- The explanations. -/
  entries : List HelpEntry

/-- A help page. -/
structure HelpPage where
  /-- The command. -/
  command : String
  /-- What may follow the command, part by part. -/
  usage : List String
  /-- What the command is for. -/
  purpose : Option String := none
  /-- The explanations. -/
  sections : List HelpSection

namespace HelpPage

/-- How a command is called. -/
def usageText (page : HelpPage) : String :=
  let lead := "usage: " ++ page.command ++ " "
  let lines := fill (pageWidth - lead.length) page.usage
  lead ++ ("\n" ++ blanks lead.length).intercalate lines ++ "\n"

/-- The column of the explanations. -/
def column (page : HelpPage) : Nat :=
  let widths := page.sections.flatMap fun part =>
    part.entries.map fun entry => entry.indent + entry.subject.length
  min (widths.foldl max 0 + 2) widestColumn

/-- The lines of one explanation. -/
def entryLines (column : Nat) (entry : HelpEntry) : List String :=
  let subject := blanks entry.indent ++ entry.subject
  let words := (Text.words entry.help).filterMap Text.string?
  let lines := fill (pageWidth - column) words
  match lines with
  | [] => [subject]
  | first :: rest =>
    let below := rest.map (blanks column ++ ·)
    if subject.length + 2 ≤ column then (padded column subject ++ first) :: below
    else subject :: (blanks column ++ first) :: below

/-- The text of a help page. -/
def text (page : HelpPage) : String :=
  let sections := page.sections.map fun part =>
    "\n".intercalate ((part.title ++ ":") :: part.entries.flatMap (entryLines page.column))
  let purpose := page.purpose.toList
  "\n".intercalate (page.usageText :: (purpose ++ sections).map (· ++ "\n"))

end HelpPage

namespace OptionTable

/-- How the calling line shows the options of a table. Options that exclude each
other stand in one pair of parentheses. -/
def usageParts (table : OptionTable) : List String :=
  let form (option : CommandOption) := option.form option.key
  let choice := " | ".intercalate
    ((table.options.filter fun option => table.oneOf.contains option.key).map form)
  table.options.filterMap fun option =>
    if !table.oneOf.contains option.key then some ("[" ++ form option ++ "]")
    else if table.oneOf.head? = some option.key then some ("(" ++ choice ++ ")")
    else none

/-- The explanations of the options of a table. -/
def optionSection (table : OptionTable) : HelpSection where
  title := "options"
  entries := table.options.map fun option =>
    { subject := ", ".intercalate (option.names.map option.form), help := option.help }

/-- The help page of a command that has nothing but options. -/
def helpPage (table : OptionTable) : HelpPage where
  command := table.command
  usage := table.usageParts
  sections := [table.optionSection]

end OptionTable

end CatalogHealth.CommandLine
