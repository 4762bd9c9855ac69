import CatalogHealth.Finding.Basic
import CatalogHealth.Sorting

/-!
# The order of findings

Reports list urgent findings first, then by the objects named, the check and
the title. Lists of objects are compared like words in a dictionary: the first
difference decides, and a list comes before its continuations. Of several
findings about the same thing only the first is kept.
-/

namespace CatalogHealth

/-- The dictionary order of lists of texts. -/
def textsLe : List Text → List Text → Bool := dictionaryLe textLe

theorem textsLe_total (xs ys : List Text) : textsLe xs ys = true ∨ textsLe ys xs = true :=
  dictionaryLe_total textLe_total xs ys

theorem textsLe_antisymm {xs ys : List Text} (hxy : textsLe xs ys = true)
    (hyx : textsLe ys xs = true) : xs = ys :=
  dictionaryLe_antisymm (fun _ _ => textLe_antisymm) hxy hyx

theorem textsLe_trans (xs ys zs : List Text) (hxy : textsLe xs ys = true)
    (hyz : textsLe ys zs = true) : textsLe xs zs = true :=
  dictionaryLe_trans textLe_trans (fun _ _ => textLe_antisymm) xs ys zs hxy hyz

/-- What decides the place of a finding in a report, the weightiest part
first. -/
structure SortKey where
  /-- The rank of the severity. -/
  rank : Nat
  /-- The objects named. -/
  objects : List Text
  /-- The check. -/
  checkName : Text
  /-- The headline. -/
  title : Text
deriving DecidableEq, Repr

namespace SortKey

/-- Titles in the order of their code points. -/
def titleLe (a b : SortKey) : Bool := textLe a.title b.title

/-- By check and then by title. -/
def checkLe : SortKey → SortKey → Bool := byPart checkName textLe titleLe

/-- By objects and then by check. -/
def objectsLe : SortKey → SortKey → Bool := byPart objects textsLe checkLe

/-- The order of sort keys: the first part that differs decides. -/
def le : SortKey → SortKey → Bool := byPart rank Nat.ble objectsLe

theorem titleLe_total (a b : SortKey) : titleLe a b = true ∨ titleLe b a = true :=
  textLe_total _ _

theorem titleLe_trans (a b c : SortKey) (hab : titleLe a b = true) (hbc : titleLe b c = true) :
    titleLe a c = true :=
  textLe_trans _ _ _ hab hbc

theorem checkLe_total (a b : SortKey) : checkLe a b = true ∨ checkLe b a = true :=
  byPart_total textLe_total titleLe_total a b

theorem checkLe_trans (a b c : SortKey) (hab : checkLe a b = true) (hbc : checkLe b c = true) :
    checkLe a c = true :=
  byPart_trans textLe_trans (fun _ _ => textLe_antisymm) titleLe_trans a b c hab hbc

theorem objectsLe_total (a b : SortKey) : objectsLe a b = true ∨ objectsLe b a = true :=
  byPart_total textsLe_total checkLe_total a b

theorem objectsLe_trans (a b c : SortKey) (hab : objectsLe a b = true)
    (hbc : objectsLe b c = true) : objectsLe a c = true :=
  byPart_trans textsLe_trans (fun _ _ => textsLe_antisymm) checkLe_trans a b c hab hbc

theorem le_total (a b : SortKey) : a.le b = true ∨ b.le a = true :=
  byPart_total (fun x y => by simpa using Nat.le_total x y) objectsLe_total a b

theorem le_trans (a b c : SortKey) (hab : a.le b = true) (hbc : b.le c = true) :
    a.le c = true :=
  byPart_trans (fun x y z => by simpa using Nat.le_trans)
    (fun x y => by simpa using Nat.le_antisymm) objectsLe_trans a b c hab hbc

/-- Sort keys before each other are the same. -/
theorem le_antisymm {a b : SortKey} (hab : a.le b = true) (hba : b.le a = true) : a = b := by
  obtain ⟨hr, hab, hba⟩ :=
    byPart_antisymm (fun x y => by simpa using Nat.le_antisymm) hab hba
  obtain ⟨ho, hab, hba⟩ := byPart_antisymm (fun _ _ => textsLe_antisymm) hab hba
  obtain ⟨hc, hab, hba⟩ := byPart_antisymm (fun _ _ => textLe_antisymm) hab hba
  have ht : a.title = b.title := textLe_antisymm hab hba
  cases a
  cases b
  simp_all

end SortKey

namespace Finding

/-- What decides the place of a finding. -/
def sortKey (f : Finding) : SortKey := ⟨f.severity.rank, f.objects, f.checkName, f.title⟩

/-- The order of findings in reports. -/
def le (f g : Finding) : Bool := f.sortKey.le g.sortKey

theorem le_total (f g : Finding) : f.le g = true ∨ g.le f = true :=
  SortKey.le_total f.sortKey g.sortKey

theorem le_trans (f g h : Finding) (hfg : f.le g = true) (hgh : g.le h = true) : f.le h = true :=
  SortKey.le_trans f.sortKey g.sortKey h.sortKey hfg hgh

/-- Findings in the order of reports. -/
def sort (findings : List Finding) : List Finding := sortBy le findings

/-- The first finding about each thing, given the keys seen before. -/
def firstsFrom (seen : List (String × List Text)) : List Finding → List Finding
  | [] => []
  | f :: rest =>
    if f.key ∈ seen then firstsFrom seen rest else f :: firstsFrom (f.key :: seen) rest

/-- The first finding about each thing. -/
def firsts (findings : List Finding) : List Finding := firstsFrom [] findings

/-- The first finding about each thing, in the order of reports. -/
def merge (findings : List Finding) : List Finding := sort (firsts findings)

theorem key_of_mem_firstsFrom {seen : List (String × List Text)} {findings : List Finding}
    {f : Finding} (h : f ∈ firstsFrom seen findings) : f ∈ findings ∧ f.key ∉ seen := by
  induction findings generalizing seen with
  | nil => simp [firstsFrom] at h
  | cons g rest ih =>
    unfold firstsFrom at h
    split at h
    · exact ⟨List.mem_cons_of_mem _ (ih h).1, (ih h).2⟩
    · rename_i hg
      rcases List.mem_cons.1 h with rfl | h
      · exact ⟨List.mem_cons_self .., hg⟩
      · have := ih h
        exact ⟨List.mem_cons_of_mem _ this.1, fun hs => this.2 (List.mem_cons_of_mem _ hs)⟩

/-- No two kept findings are about the same thing. -/
theorem nodup_keys_firstsFrom (seen : List (String × List Text)) (findings : List Finding) :
    ((firstsFrom seen findings).map key).Nodup := by
  induction findings generalizing seen with
  | nil => simp [firstsFrom]
  | cons f rest ih =>
    unfold firstsFrom
    split
    · exact ih seen
    · refine List.nodup_cons.2 ⟨fun h => ?_, ih _⟩
      obtain ⟨g, hg, hk⟩ := List.mem_map.1 h
      exact (key_of_mem_firstsFrom hg).2 (hk ▸ List.mem_cons_self ..)

end Finding

end CatalogHealth
