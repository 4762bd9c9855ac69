import CatalogHealth.Finding.Basic
import CatalogHealth.Snapshot.Basic
import CatalogHealth.Text.Glob

/-!
# Exclusions

An exclusion rule hides objects from one check or from all. Its pattern is a
glob: with a point in it the pattern describes identifiers, otherwise own
names. Exclusions only silence findings and never change what a check sees. A
finding is dropped when an object that it names, or the table that owns the
object, is hidden from its check; names that the snapshot does not resolve hide
nothing. A pattern or a name that is no text cannot be matched, which is a fault
where it comes to that.
-/

namespace CatalogHealth

/-- A rule that hides objects. -/
structure ExclusionRule where
  /-- The glob that describes the hidden objects. -/
  pattern : Value
  /-- The check from which they are hidden, absent for all checks. A document
  may put any value here; only a text names a check. -/
  scope : Value := .null
  /-- The pattern is not empty. -/
  pattern_truthy : pattern.truthy = true
deriving DecidableEq, Repr

namespace ExclusionRule

/-- A rule, unless its pattern is empty. -/
def ofPattern (pattern scope : Value) : Except Fault ExclusionRule :=
  if h : pattern.truthy = true then .ok { pattern, scope, pattern_truthy := h }
  else .error .emptyPattern

/-- A rule from its short form: a pattern, and after the first colon the name
of a check. -/
def ofText (t : Text) : Except Fault ExclusionRule :=
  match Text.cut (.char ':') t.points with
  | none => ofPattern (.text t) .null
  | some (before, after) =>
    ofPattern (.text ⟨before⟩) (if after.isEmpty then .null else .text ⟨after⟩)

/-- A rule from a value that should be its short form. -/
def ofShortForm : Value → Except Fault ExclusionRule
  | .text t => ofText t
  | _ => .error .noSuchOperation

/-- Whether a rule is about a check. -/
def appliesTo (rule : ExclusionRule) (check : String) : Bool :=
  rule.scope = .null || rule.scope = .text check

/-- Whether a rule looks at the identifiers of objects and not at their own names: its
pattern has a point in it. Other values that have members are searched for one as well. -/
def looksAtIdentifiers (rule : ExclusionRule) : Except Fault Bool :=
  match rule.pattern with
  | .text pattern => .ok (pattern.points.contains '.')
  | .list items => .ok (items.contains (.text "."))
  | .map entries => .ok ((entries.map (·.1)).contains (.text "."))
  | _ => .error .wrongKind

/-- Whether a rule describes an object. -/
def describes (rule : ExclusionRule) (object : SchemaObject) : Except Fault Bool := do
  let name := if ← rule.looksAtIdentifiers then .text object.qualifiedName else object.name
  match rule.pattern, name with
  | .text pattern, .text name => return (Glob.ofText pattern).accepts name
  | _, _ => throw .wrongKind

end ExclusionRule

/-- The rules of one evaluation. -/
abbrev Exclusions := List ExclusionRule

namespace Exclusions

/-- The rules about a check. -/
def rulesFor (rules : Exclusions) (check : String) : List ExclusionRule :=
  rules.filter (·.appliesTo check)

/-- The table of a snapshot that owns an object. -/
def owningTable? (snapshot : Snapshot) (object : SchemaObject) : Option SchemaObject :=
  (object.owner?.bind snapshot.table?).map .table

/-- An object and, if a snapshot is given, the table in it that owns the
object. -/
def subjects (snapshot? : Option Snapshot) (object : SchemaObject) : List SchemaObject :=
  object :: (snapshot?.bind fun snapshot => owningTable? snapshot object).toList

/-- Whether an object, or with a snapshot its owning table, is hidden from a
check. Rules are asked in order, each about the object and then about the table,
until one of them hides it. -/
def excludes (rules : Exclusions) (check : String) (snapshot? : Option Snapshot)
    (object : SchemaObject) : Except Fault Bool :=
  (rules.rulesFor check).anyM fun rule => (subjects snapshot? object).anyM rule.describes

/-- Whether a finding names an object that is hidden from a check. -/
def silences (rules : Exclusions) (snapshot : Snapshot) (check : String) (finding : Finding) :
    Except Fault Bool :=
  (finding.objects.filterMap snapshot.object?).anyM (rules.excludes check (some snapshot))

/-- The findings of a check that name no hidden object. -/
def filterFindings (rules : Exclusions) (snapshot : Snapshot) (check : String) :
    List Finding → Except Fault (List Finding)
  | [] => .ok []
  | finding :: rest => do
    let silenced ← rules.silences snapshot check finding
    let kept ← filterFindings rules snapshot check rest
    return if silenced then kept else finding :: kept

/-- The scopes of the rules that are about one check. -/
def scopes (rules : Exclusions) : List Value :=
  (rules.map (·.scope)).filter Value.truthy

end Exclusions

end CatalogHealth
