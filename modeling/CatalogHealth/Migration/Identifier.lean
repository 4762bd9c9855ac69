import CatalogHealth.Text.Basic

/-!
# SQL identifiers

A name that consists of lower-case letters, digits, underscores and dollar
signs, does not begin with a digit or a dollar sign and is no reserved word is
written as it is, and so is such a name with one line break after it. Every
other name is written between double quotes, with each double quote in it
doubled.
-/

namespace CatalogHealth

/-- Words that have to be quoted although they look like plain names. -/
def reservedWords : List String :=
  ["all", "analyse", "analyze", "and", "any", "array", "as", "asc", "both", "case", "cast",
   "check", "collate", "column", "constraint", "create", "default", "deferrable", "desc",
   "distinct", "do", "else", "end", "except", "false", "fetch", "for", "foreign", "from", "grant",
   "group", "having", "in", "initially", "intersect", "into", "lateral", "leading", "limit", "not",
   "null", "offset", "on", "only", "or", "order", "placing", "primary", "references", "returning",
   "select", "some", "symmetric", "table", "then", "to", "trailing", "true", "union", "unique",
   "user", "using", "variadic", "when", "where", "window", "with"]

/-- Whether a plain name may begin with a character. -/
def isNameStart (c : Char) : Bool := c = '_' || ('a' ≤ c && c ≤ 'z')

/-- Whether a character may follow in a plain name. -/
def isNamePart (c : Char) : Bool := isNameStart c || ('0' ≤ c && c ≤ '9') || c = '$'

/-- Whether code points form the rest of a plain name, up to one line break at
the end. -/
def isNameRest : List CodePoint → Bool
  | [] => true
  | [.char '\n'] => true
  | c :: rest => c.satisfies isNamePart && isNameRest rest

/-- Whether a name has the shape of a plain one. -/
def isPlainName : List CodePoint → Bool
  | [] => false
  | c :: rest => c.satisfies isNameStart && isNameRest rest

/-- Code points with each double quote doubled. -/
def doubleQuotes (points : List CodePoint) : List CodePoint :=
  points.flatMap fun c => if c = .char '"' then [c, c] else [c]

/-- A name as SQL reads it. -/
def quoteIdentifier (name : Text) : Text :=
  if isPlainName name.points && !reservedWords.any (name = ·) then name
  else "\"" ++ ⟨doubleQuotes name.points⟩ ++ "\""

/-- A name below its schema as SQL reads it. -/
def qualifiedIdentifier (schema name : Text) : Text :=
  quoteIdentifier schema ++ "." ++ quoteIdentifier name

end CatalogHealth
