import CatalogHealth.Exclusion
import CatalogHealth.Proofs.Traversal

/-!
# Rules whose patterns spell names

A pattern without stars, question marks and opening brackets stands for itself. As a rule it
describes the one identifier or own name that it spells, with a point and a star behind it all
identifiers below it, and with a star alone all own names that begin with it. So a rule that names
a schema or a table hides just what is in it. Patterns with question marks, with classes or with
stars in other places are outside the scope of this module.
-/

namespace CatalogHealth

/-! ## Texts that stand for themselves -/

/-- A text without the code points that mean something else in a pattern. -/
def Text.IsLiteral (t : Text) : Prop :=
  ∀ c ∈ t.points, c ≠ .char '*' ∧ c ≠ .char '?' ∧ c ≠ .char '['

instance (t : Text) : Decidable t.IsLiteral := List.decidableBAll _ _

theorem Text.IsLiteral.append {s t : Text} (hs : s.IsLiteral) (ht : t.IsLiteral) :
    (s ++ t).IsLiteral :=
  List.forall_mem_append.2 ⟨hs, ht⟩

namespace Glob

variable {glob : Glob} {c d : CodePoint} {cs ts rest : List CodePoint} {s t : Text}

/-- A literal text at the front of a pattern is read as it is. -/
theorem itemsFrom_append (h : (Text.mk cs).IsLiteral) (rest : List CodePoint) :
    itemsFrom 0 (cs ++ rest) = cs.map GlobItem.literal ++ itemsFrom 0 rest := by
  induction cs with
  | nil => rfl
  | cons c cs ih =>
    have hc := h c (List.mem_cons_self ..)
    have hcs : (Text.mk cs).IsLiteral := fun d hd => h d (List.mem_cons_of_mem _ hd)
    rw [List.cons_append, itemsFrom, if_neg hc.1, if_neg hc.2.1, if_neg hc.2.2, ih hcs]
    rfl

/-- The range from a code point to itself holds that one alone. -/
theorem inPointRanges_self : inPointRanges [(c, c)] d = true ↔ d = c := by
  have hbetween : inPointRanges [(c, c)] d = true ↔ c.value ≤ d.value ∧ d.value ≤ c.value := by
    simp [inPointRanges]
  rw [hbetween]
  constructor
  · intro h
    exact CodePoint.eq_of_value_eq (Nat.le_antisymm h.2 h.1)
  · intro h
    rw [h]
    exact ⟨Nat.le_refl _, Nat.le_refl _⟩

/-- A literal code point takes itself off the front of a text. -/
theorem matches_literal_cons_iff : Matches (.literal c :: glob) ts ↔
    ∃ rest, ts = c :: rest ∧ Matches glob rest := by
  constructor
  · intro h
    cases h with
    | one hd hrest =>
      have heq := inPointRanges_self.1 hd
      exact ⟨_, congrArg (· :: _) heq, hrest⟩
  · intro h
    obtain ⟨rest, heq, hrest⟩ := h
    rw [heq]
    exact .one (inPointRanges_self.2 rfl) hrest

/-- Literal code points take themselves off the front of a text. -/
theorem matches_literals_iff : Matches (cs.map GlobItem.literal ++ glob) ts ↔
    ∃ rest, ts = cs ++ rest ∧ Matches glob rest := by
  induction cs generalizing ts with
  | nil => simp
  | cons c cs ih =>
    rw [List.map_cons, List.cons_append, matches_literal_cons_iff]
    simp only [ih]
    constructor
    · intro h
      obtain ⟨_, heq, rest, htail, hrest⟩ := h
      rw [htail] at heq
      exact ⟨rest, heq, hrest⟩
    · intro h
      obtain ⟨rest, heq, hrest⟩ := h
      exact ⟨cs ++ rest, heq, rest, rfl, hrest⟩

/-- At the end of a glob nothing is left. -/
theorem matches_nil_iff : Matches [] ts ↔ ts = [] := by
  constructor
  · intro h
    cases h
    rfl
  · intro h
    rw [h]
    exact .done

/-- A star takes all that is left. -/
theorem matches_star (ts : List CodePoint) : Matches [.anyRun] ts := by
  induction ts with
  | nil => exact .stop .done
  | cons c ts ih => exact .take ih

/-- A literal pattern accepts the text that it is. -/
theorem accepts_literal (h : s.IsLiteral) (t : Text) : (ofText s).accepts t = decide (s = t) := by
  have hread : ofText s = s.points.map GlobItem.literal ++ [] := by
    have hread := itemsFrom_append h []
    rwa [List.append_nil] at hread
  have hsame : s = t ↔ t.points = s.points := by
    cases s
    cases t
    rw [Text.mk.injEq]
    exact eq_comm
  rw [Bool.eq_iff_iff, matches_iff, hread, matches_literals_iff, decide_eq_true_iff, hsame]
  simp only [matches_nil_iff, exists_eq_right, List.append_nil]

/-- A literal pattern with a star behind it accepts the texts that begin with it. -/
theorem accepts_literal_star (h : s.IsLiteral) (t : Text) :
    (ofText (s ++ "*")).accepts t = decide (s.points <+: t.points) := by
  have hread : ofText (s ++ "*") = s.points.map GlobItem.literal ++ [.anyRun] :=
    itemsFrom_append h _
  rw [Bool.eq_iff_iff, matches_iff, hread, matches_literals_iff, decide_eq_true_iff]
  simp only [matches_star, and_true, List.IsPrefix, eq_comm]

end Glob

/-! ## The names of an object -/

namespace SchemaObject

/-- The names that lead to an object, from its schema down to its own. -/
def namesDown : SchemaObject → List Value
  | table t => [t.schema, t.name]
  | index i => [i.tableSchema, i.name]
  | constraint c => [c.tableSchema, c.tableName, c.name]
  | sequence q => [q.schema, q.name]

/-- The names that lead to an object are texts: `outer` in order, and its own name behind them. -/
def IsNamed (object : SchemaObject) (outer : List Text) (own : Text) : Prop :=
  object.namesDown = (outer ++ [own]).map .text

variable {object : SchemaObject} {outer : List Text} {own : Text}

/-- The last of the names that lead to an object is its own one. -/
theorem IsNamed.name_eq (h : object.IsNamed outer own) : object.name = .text own := by
  have hlast : object.namesDown.getLast? = some object.name := by
    cases object <;> rfl
  rw [h, List.map_append, List.map_singleton, List.getLast?_concat] at hlast
  exact (Option.some.inj hlast).symm

/-- The identifier of an object joins the names that lead to it with points. -/
theorem IsNamed.qualifiedName_eq (h : object.IsNamed outer own) :
    object.qualifiedName = Text.join "." (outer ++ [own]) := by
  have hdisplay : object.qualifiedName = Text.join "." (object.namesDown.map Value.display) := by
    cases object with
    | table _ | index _ | sequence _ => rfl
    | constraint c =>
      change c.tableSchema.display ++ "." ++ c.tableName.display ++ "." ++ c.name.display =
        c.tableSchema.display ++ "." ++ (c.tableName.display ++ "." ++ c.name.display)
      simp only [Text.append_assoc]
  have htexts : (outer ++ [own]).map (Value.display ∘ Value.text) = outer ++ [own] :=
    List.map_id _
  rw [hdisplay, h, List.map_map, htexts]

end SchemaObject

/-! ## What the rules describe -/

namespace ExclusionRule

variable {object : SchemaObject} {outer : List Text} {own pattern : Text} {rule : ExclusionRule}

/-- A pattern with a point in it is matched against the identifier of an object, and one without
against its own name. -/
theorem describes_eq (hnamed : object.IsNamed outer own) (hpattern : rule.pattern = .text pattern) :
    rule.describes object = .ok ((Glob.ofText pattern).accepts
      (if pattern.points.contains '.' then Text.join "." (outer ++ [own]) else own)) := by
  have hlooks : rule.looksAtIdentifiers = .ok (pattern.points.contains '.') := by
    rw [looksAtIdentifiers, hpattern]
  unfold describes
  rw [hlooks, hpattern, hnamed.qualifiedName_eq, hnamed.name_eq]
  cases pattern.points.contains '.' with
  | true => rfl
  | false => rfl

/-- A pattern that is not empty makes a rule. -/
theorem exists_ofPattern (h : pattern ≠ "") (scope : Value) :
    ∃ rule, ofPattern (.text pattern) scope = .ok rule ∧ rule.pattern = .text pattern := by
  have htruthy : (Value.text pattern).truthy = true := bne_iff_ne.2 h
  exact ⟨_, dif_pos htruthy, rfl⟩

end ExclusionRule

/-- There is a rule of a pattern for every scope, and its answer about an object is whether a
condition holds. -/
def SchemaObject.IsDescribedIff (object : SchemaObject) (pattern : Text) (condition : Prop)
    [Decidable condition] : Prop :=
  ∀ scope, ∃ rule, ExclusionRule.ofPattern (.text pattern) scope = .ok rule ∧
    rule.describes object = .ok (decide condition)

namespace SchemaObject.IsNamed

variable {object : SchemaObject} {outer : List Text} {own s pattern : Text}

/-- The answer of a rule is that of its glob about the identifier or the own name. -/
theorem isDescribedIff (hnamed : object.IsNamed outer own) (hpattern : pattern ≠ "")
    {condition : Prop} [Decidable condition]
    (hglob : (Glob.ofText pattern).accepts
        (if pattern.points.contains '.' then Text.join "." (outer ++ [own]) else own) =
      decide condition) : object.IsDescribedIff pattern condition := by
  intro scope
  obtain ⟨rule, hrule, hspelled⟩ := ExclusionRule.exists_ofPattern hpattern scope
  exact ⟨rule, hrule, (ExclusionRule.describes_eq hnamed hspelled).trans (congrArg _ hglob)⟩

/-- A literal text describes what it spells. -/
theorem isDescribedIff_literal (hnamed : object.IsNamed outer own) (hs : s ≠ "")
    (hliteral : s.IsLiteral) : object.IsDescribedIff s
      (s = if s.points.contains '.' then Text.join "." (outer ++ [own]) else own) :=
  hnamed.isDescribedIff hs (Glob.accepts_literal hliteral _)

/-- A literal text with a point and a star behind it describes what is below it. -/
theorem isDescribedIff_below (hnamed : object.IsNamed outer own) (hliteral : s.IsLiteral) :
    object.IsDescribedIff (s ++ "." ++ "*")
      ((s ++ ".").points <+: (Text.join "." (outer ++ [own])).points) := by
  have hdotted : (s ++ ".").IsLiteral := hliteral.append (by decide)
  have hpoint : (s ++ "." ++ "*").points.contains '.' = true := by
    simp [Text.ofString, Text.ofChars]
  have hne : s ++ "." ++ "*" ≠ "" := by
    intro hempty
    rw [hempty] at hpoint
    cases hpoint
  refine hnamed.isDescribedIff hne ?_
  rw [if_pos hpoint, Glob.accepts_literal_star hdotted]

/-- A literal text without a point and with a star behind it describes the own names that begin
with it. -/
theorem isDescribedIff_beginning (hnamed : object.IsNamed outer own) (hs : s ≠ "")
    (hliteral : s.IsLiteral) (hpoint : s.points.contains '.' = false) :
    object.IsDescribedIff (s ++ "*") (s.points <+: own.points) := by
  have hpoint' : (s ++ "*").points.contains '.' = false := by
    rw [Text.points_append, List.contains_append, hpoint]
    rfl
  have hne : s ++ "*" ≠ "" := by
    intro hempty
    have hpoints := congrArg Text.points hempty
    exact hs (congrArg Text.mk (List.append_eq_nil_iff.1 hpoints).1)
  refine hnamed.isDescribedIff hne ?_
  rw [hpoint', Glob.accepts_literal_star hliteral]
  rfl

end SchemaObject.IsNamed

/-- What the rules say about an object whose patterns are made from a literal text. -/
structure SchemaObject.IsDescribedLiterally (object : SchemaObject) (outer : List Text)
    (own s : Text) : Prop where
  /-- The text is the identifier of the object, if it has a point in it, or else its own name. -/
  itself : object.IsDescribedIff s
    (s = if s.points.contains '.' then Text.join "." (outer ++ [own]) else own)
  /-- With a point and a star behind it, the text leads to the object. -/
  below : object.IsDescribedIff (s ++ "." ++ "*")
    ((s ++ ".").points <+: (Text.join "." (outer ++ [own])).points)
  /-- Without a point in it and with a star behind it, the text begins the object's own name. -/
  beginning : s.points.contains '.' = false →
    object.IsDescribedIff (s ++ "*") (s.points <+: own.points)

/-- The rule of a literal text describes the object with this identifier or, if there is no point
in it, with this own name. With a point and a star behind it the rule describes all that is below
it, and with a star alone all own names that begin with it. -/
theorem literal_rules_describe {object : SchemaObject} {outer : List Text} {own s : Text}
    (hnamed : object.IsNamed outer own) (hs : s ≠ "") (hliteral : s.IsLiteral) :
    object.IsDescribedLiterally outer own s where
  itself := hnamed.isDescribedIff_literal hs hliteral
  below := hnamed.isDescribedIff_below hliteral
  beginning := hnamed.isDescribedIff_beginning hs hliteral

/-- A foreign key of the orders. -/
def shopOfOrders : SchemaObject :=
  .constraint
    { name := .text "of_shop", kind := .foreignKey, tableSchema := .text "public"
      tableName := .text "orders" }

/-- The key is hidden with its table, and by the beginning of its own name, but not by the bare
name of its table. -/
theorem literal_rules_describe_shopOfOrders :
    shopOfOrders.IsNamed ["public", "orders"] "of_shop" ∧
      (∀ s ∈ (["public.orders", "of", "orders"] : List Text), s ≠ "" ∧ s.IsLiteral) ∧
      (∃ rule, ExclusionRule.ofPattern (.text "public.orders.*") .null = .ok rule ∧
        rule.describes shopOfOrders = .ok true) ∧
      (∃ rule, ExclusionRule.ofPattern (.text "of*") .null = .ok rule ∧
        rule.describes shopOfOrders = .ok true) ∧
      ∃ rule, ExclusionRule.ofPattern (.text "orders") .null = .ok rule ∧
        rule.describes shopOfOrders = .ok false := by
  have hnamed : shopOfOrders.IsNamed ["public", "orders"] "of_shop" := rfl
  have htable := literal_rules_describe (s := "public.orders") hnamed (by decide) (by decide)
  have hbeginning := literal_rules_describe (s := "of") hnamed (by decide) (by decide)
  have hbare := literal_rules_describe (s := "orders") hnamed (by decide) (by decide)
  exact ⟨hnamed, by decide, htable.below .null, hbeginning.beginning (by decide) .null,
    hbare.itself .null⟩

end CatalogHealth
