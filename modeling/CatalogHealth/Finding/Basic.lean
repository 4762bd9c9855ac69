import CatalogHealth.Value.Basic

/-!
# Findings

A finding is one observation of a check about one or more objects. Findings
with the same check and the same objects are about the same thing, whatever
they say. What a finding knows beyond its texts is kept as metadata, an
ordered list of named values; the metadata has no part in comparisons.
-/

namespace CatalogHealth

/-- How urgent a finding is. -/
inductive Severity where
  /-- Something is broken or about to break. -/
  | high
  /-- Something is wrong or wasteful. -/
  | warning
  /-- Something worth knowing. -/
  | info
deriving DecidableEq, Repr

namespace Severity

/-- The name of a severity in reports. -/
def name : Severity → String
  | high => "HIGH"
  | warning => "WARNING"
  | info => "INFO"

/-- The place of a severity, the most urgent one first. -/
def rank : Severity → Nat
  | high => 0
  | warning => 1
  | info => 2

/-- All severities, the most urgent one first. -/
def all : List Severity := [high, warning, info]

/-- The severity with a given name. -/
def ofName? (s : String) : Option Severity := all.find? fun severity => severity.name = s

end Severity

/-- Named values, in the order in which they were recorded. -/
abbrev Metadata := List (String × Value)

namespace Metadata

/-- The value under a name; a missing one is absent. -/
def get (metadata : Metadata) (name : String) : Value := (metadata.lookup name).getD .null

end Metadata

/-- The objects that a finding names: those listed, or else its primary
object. -/
def affectedObjects (objectName : Text) (listed : List Text) : List Text :=
  if listed.isEmpty && objectName != "" then [objectName] else listed

/-- One observation of a check. -/
structure Finding where
  /-- How urgent the finding is. -/
  severity : Severity
  /-- The check that made it. -/
  checkName : String
  /-- The category of that check. -/
  category : String
  /-- The headline. -/
  title : Text
  /-- What was observed. -/
  detail : Text
  /-- The object that the finding is mainly about. -/
  objectName : Text := ""
  /-- The objects that the finding names. -/
  objects : List Text := affectedObjects objectName []
  /-- What can be done about it. -/
  remediation : Text := ""
  /-- What is known beyond the texts. -/
  metadata : Metadata := []
deriving DecidableEq, Repr

namespace Finding

/-- Two findings with the same key are about the same thing: the check and the
objects that it names. -/
def key (f : Finding) : String × List Text := (f.checkName, f.objects)

/-- Whether two findings agree in all but their metadata. -/
def sameContent (f g : Finding) : Bool :=
  decide (f.severity = g.severity ∧ f.checkName = g.checkName ∧ f.category = g.category ∧
    f.title = g.title ∧ f.detail = g.detail ∧ f.objectName = g.objectName ∧
    f.objects = g.objects ∧ f.remediation = g.remediation)

end Finding

end CatalogHealth
