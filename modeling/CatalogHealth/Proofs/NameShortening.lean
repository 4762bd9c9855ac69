import CatalogHealth.Migration.IndexName
import Mathlib.Data.String.Basic

/-!
# How index names are shortened

The database keeps 63 bytes of a name. The name of a generated index is the full one if this
fits. Otherwise it has a checksum in place of the columns, and as much of the table's name in
front of it as there is room for in whole characters, while everything that the options add to a
name is still there. Names that have no bytes, because a half of a character stands in them, and
whether different indexes get different names are outside the scope of this module.
-/

namespace CatalogHealth

/-! ## Bytes -/

/-- The length of a text in bytes is the size of the string that it is. -/
theorem utf8Length_eq (cs : List Char) : utf8Length cs = (String.ofList cs).utf8ByteSize := by
  rw [String.utf8ByteSize_ofList]
  induction cs with
  | nil => rfl
  | cons c rest ih =>
    rw [String.utf8Len_cons, ← ih, Nat.add_comm]
    rfl

theorem utf8Length_toList (s : String) : utf8Length s.toList = s.utf8ByteSize := by
  rw [utf8Length_eq, String.ofList_toList]

/-- A digit takes one byte. -/
theorem utf8Size_of_isDigit {c : Char} (h : c.isDigit = true) : c.utf8Size = 1 := by
  simp only [Char.isDigit, Bool.and_eq_true, decide_eq_true_eq] at h
  exact Char.utf8Size_eq_one_iff.2 (UInt32.le_trans h.2 (by decide))

/-- Digits take as many bytes as there are. -/
theorem utf8Length_of_isDigit {cs : List Char} (h : ∀ c ∈ cs, c.isDigit = true) :
    utf8Length cs = cs.length := by
  induction cs with
  | nil => rfl
  | cons c rest ih =>
    obtain ⟨hc, hrest⟩ := List.forall_mem_cons.1 h
    rw [List.length_cons, ← ih hrest, Nat.add_comm, ← utf8Size_of_isDigit hc]
    rfl

/-- A beginning of a text that has room is a beginning of what is kept. -/
theorem prefix_cutToBytes {room : Nat} {cs beginning : List Char} (h : beginning <+: cs)
    (hroom : utf8Length beginning ≤ room) : beginning <+: cutToBytes room cs := by
  induction cs generalizing room beginning with
  | nil => simpa [cutToBytes] using h
  | cons c rest ih =>
    cases beginning with
    | nil => exact List.nil_prefix
    | cons d tail =>
      obtain ⟨rfl, htail⟩ := List.cons_prefix_cons.1 h
      have hsize : utf8Length (d :: tail) = d.utf8Size + utf8Length tail := rfl
      have hfirst : d.utf8Size ≤ room := by omega
      rw [cutToBytes, if_pos hfirst]
      exact List.cons_prefix_cons.2 ⟨rfl, ih htail (by omega)⟩

/-! ## What the options add -/

/-- What stands in front of the parts of a name. -/
def nameFront (options : GeneratingOptions) : String :=
  if options.placement = .front then "idx_" else ""

/-- What stands behind the parts of a name. -/
def nameBack (options : GeneratingOptions) (withoutNulls : Bool) : String :=
  (if withoutNulls && options.nameWithoutNulls then "_without_nulls" else "") ++
    (if options.placement = .suffix then "_idx" else "")

variable {options : GeneratingOptions} {withoutNulls : Bool}

/-- The parts of a name stand between what the options add. -/
theorem joinedName_eq {parts : List String} (hne : parts ≠ []) :
    joinedName options withoutNulls parts =
      nameFront options ++ "_".intercalate parts ++ nameBack options withoutNulls := by
  have hmarked : "_".intercalate (if withoutNulls && options.nameWithoutNulls then
      parts ++ ["without_nulls"] else parts) = "_".intercalate parts ++
        (if withoutNulls && options.nameWithoutNulls then "_without_nulls" else "") := by
    split
    · rw [String.intercalate_append_of_ne_nil hne (by simp), String.append_assoc]
      rfl
    · rw [String.append_empty]
  have hmarked_ne : (if withoutNulls && options.nameWithoutNulls then
      parts ++ ["without_nulls"] else parts) ≠ [] := by
    split
    · simp
    · exact hne
  unfold joinedName decorated nameFront nameBack
  cases options.placement with
  | suffix =>
    simp only [reduceCtorEq, if_true, if_false]
    rw [String.intercalate_append_of_ne_nil hmarked_ne (by simp), hmarked]
    simp [String.append_assoc]
  | front =>
    simp only [reduceCtorEq, if_true, if_false]
    rw [String.intercalate_cons_of_ne_nil hmarked_ne, hmarked]
    simp [String.append_assoc]
  | absent =>
    simp only [reduceCtorEq, if_false]
    rw [hmarked]
    simp

/-- What the options add takes at most 18 bytes. -/
theorem utf8ByteSize_added_le (options : GeneratingOptions) (withoutNulls : Bool) :
    (nameFront options).utf8ByteSize + (nameBack options withoutNulls).utf8ByteSize ≤ 18 := by
  have hmark : (if withoutNulls && options.nameWithoutNulls then "_without_nulls"
      else "").utf8ByteSize ≤ 14 := by
    split <;> decide
  have hplace : (nameFront options).utf8ByteSize +
      (if options.placement = .suffix then "_idx" else "").utf8ByteSize = 4 ∨
        (nameFront options).utf8ByteSize +
          (if options.placement = .suffix then "_idx" else "").utf8ByteSize = 0 := by
    unfold nameFront
    cases options.placement <;> decide
  rw [nameBack, String.utf8ByteSize_append]
  omega

/-! ## The number that stands for the columns -/

/-- The number that stands for the columns is written with decimal digits. -/
theorem isDigit_of_mem_columnsDigest {columns : List String} {c : Char}
    (h : c ∈ (columnsDigest columns).toList) : c.isDigit = true := by
  unfold columnsDigest at h
  rw [Nat.toString_eq_repr, Nat.repr_eq_ofList_toDigits, String.toList_ofList] at h
  exact Nat.isDigit_of_mem_toDigits (by decide) (by decide) h

/-- It has one to seven digits. -/
theorem length_columnsDigest (columns : List String) :
    0 < (columnsDigest columns).length ∧ (columnsDigest columns).length ≤ 7 := by
  unfold columnsDigest
  generalize (checksum _).toNat = n
  have hlimit : n % 10000000 < 10 ^ 7 := Nat.mod_lt _ (by decide)
  rw [Nat.toString_eq_repr, Nat.repr_eq_ofList_toDigits, String.length_ofList]
  exact ⟨List.length_pos_iff.2 Nat.toDigits_ne_nil,
    (Nat.length_toDigits_le_iff (by decide) (by decide)).2 hlimit⟩

/-- It takes at most seven bytes. -/
theorem utf8ByteSize_columnsDigest_le (columns : List String) :
    (columnsDigest columns).utf8ByteSize ≤ 7 := by
  have hlength := (length_columnsDigest columns).2
  rwa [← utf8Length_toList, utf8Length_of_isDigit fun _ => isDigit_of_mem_columnsDigest,
    String.length_toList]

/-! ## Shortened names -/

/-- A name is the shortened one of an index: the beginning of its table's name and the number that
stands for its columns, with all that the options add. -/
structure Shortens (options : GeneratingOptions) (withoutNulls : Bool) (table : String)
    (columns : List String) (name head digest : String) : Prop where
  /-- What the options add is there as in the full name. -/
  name_eq : name =
    nameFront options ++ (head ++ "_" ++ digest) ++ nameBack options withoutNulls
  /-- The table's name is cut between two characters. -/
  head_prefix : head.toList <+: table.toList
  /-- No more characters of the table's name would fit. -/
  head_longest : ∀ longer : String, longer.toList <+: table.toList →
    (nameFront options ++ (longer ++ "_" ++ digest) ++
      nameBack options withoutNulls).utf8ByteSize ≤ maxIdentifierBytes →
    longer.toList <+: head.toList
  /-- The number is the checksum of the columns without its leading digits. -/
  digest_eq : digest =
    toString ((checksum (utf8Bytes ("_".intercalate columns).toList)).toNat % 10000000)
  /-- It is written in decimal digits. -/
  digest_digits : ∀ c ∈ digest.toList, c.isDigit = true
  /-- It has one to seven of them. -/
  digest_length : 0 < digest.length ∧ digest.length ≤ 7

/-- A beginning of the table's name leaves room for all else exactly if it has no more bytes than
the part that is kept. -/
theorem fits_iff (options : GeneratingOptions) (withoutNulls : Bool) (head : String)
    (columns : List String) :
    (nameFront options ++ (head ++ "_" ++ columnsDigest columns) ++
      nameBack options withoutNulls).utf8ByteSize ≤ maxIdentifierBytes ↔
    utf8Length head.toList ≤ maxIdentifierBytes - utf8Length
      (joinedName options withoutNulls [columnsDigest columns]).toList - 1 := by
  have hadded := utf8ByteSize_added_le options withoutNulls
  have hdigest := utf8ByteSize_columnsDigest_le columns
  have hunderscore : ("_" : String).utf8ByteSize = 1 := by decide
  have htail : utf8Length (joinedName options withoutNulls [columnsDigest columns]).toList =
      (nameFront options).utf8ByteSize + (columnsDigest columns).utf8ByteSize +
        (nameBack options withoutNulls).utf8ByteSize := by
    rw [joinedName_eq (by simp), String.intercalate_singleton, utf8Length_toList,
      String.utf8ByteSize_append, String.utf8ByteSize_append]
  rw [htail, utf8Length_toList, maxIdentifierBytes]
  simp only [String.utf8ByteSize_append, hunderscore]
  omega

/-- A name whose full form is too long is shortened. -/
theorem shortens_indexName {table : String} {columns : List String}
    (hlong : maxIdentifierBytes < (fullIndexName options withoutNulls table columns).utf8ByteSize) :
    Shortens options withoutNulls table columns (indexName options withoutNulls table columns)
      (tableHead options withoutNulls table (columnsDigest columns)) (columnsDigest columns) where
  name_eq := by
    rw [indexName, if_neg (by rw [utf8Length_toList]; omega), joinedName_eq (by simp),
      String.intercalate_cons_cons, String.intercalate_singleton]
  head_prefix := by
    rw [tableHead, String.toList_ofList]
    exact cutToBytes_isPrefix _ _
  head_longest := by
    intro longer hbegins hfits
    rw [tableHead, String.toList_ofList]
    exact prefix_cutToBytes hbegins ((fits_iff options withoutNulls longer columns).1 hfits)
  digest_eq := rfl
  digest_digits := fun _ => isDigit_of_mem_columnsDigest
  digest_length := length_columnsDigest columns

/-- A shortened name fits. -/
theorem utf8ByteSize_indexName_le (options : GeneratingOptions) (withoutNulls : Bool)
    (table : String) (columns : List String) :
    (indexName options withoutNulls table columns).utf8ByteSize ≤ maxIdentifierBytes := by
  by_cases hfull :
      (fullIndexName options withoutNulls table columns).utf8ByteSize ≤ maxIdentifierBytes
  · rwa [indexName, utf8Length_toList, if_pos hfull]
  · rw [(shortens_indexName (Nat.lt_of_not_le hfull)).name_eq, fits_iff, tableHead,
      String.toList_ofList]
    exact utf8Length_cutToBytes _ _

/-- The name of an index has at most 63 bytes. It is the full name, which has all parts between
what the options add, exactly if this fits, and otherwise it is a shortened one. -/
theorem indexName_fits_or_shortens (options : GeneratingOptions) (withoutNulls : Bool)
    (table : String) (columns : List String) :
    (indexName options withoutNulls table columns).utf8ByteSize ≤ maxIdentifierBytes ∧
      fullIndexName options withoutNulls table columns =
        nameFront options ++ "_".intercalate (table :: columns) ++
          nameBack options withoutNulls ∧
      (indexName options withoutNulls table columns =
          fullIndexName options withoutNulls table columns ↔
        (fullIndexName options withoutNulls table columns).utf8ByteSize ≤ maxIdentifierBytes) ∧
      (maxIdentifierBytes < (fullIndexName options withoutNulls table columns).utf8ByteSize →
        ∃ head digest, Shortens options withoutNulls table columns
          (indexName options withoutNulls table columns) head digest) := by
  have hfits := utf8ByteSize_indexName_le options withoutNulls table columns
  refine ⟨hfits, joinedName_eq (by simp), ⟨fun hsame => hsame ▸ hfits, fun hfull => ?_⟩,
    fun hlong => ⟨_, _, shortens_indexName hlong⟩⟩
  rw [indexName, utf8Length_toList, if_pos hfull]

/-- The name of a table in which each character takes two bytes. -/
def accentedTable : String := "ééééééééééééééééééééééééééééééé"

/-- The name of an index on this table is cut where a byte is left that no character fits into. -/
theorem indexName_fits_or_shortens_accented :
    maxIdentifierBytes < (fullIndexName .standard true accentedTable ["shop"]).utf8ByteSize ∧
      (indexName .standard true accentedTable ["shop"]).utf8ByteSize ≤ maxIdentifierBytes ∧
      (∃ head digest, Shortens .standard true accentedTable ["shop"]
        (indexName .standard true accentedTable ["shop"]) head digest) ∧
      indexName .standard true accentedTable ["shop"] =
        "éééééééééééééééééé_2647586_without_nulls_idx" := by
  have hlong :
      maxIdentifierBytes < (fullIndexName .standard true accentedTable ["shop"]).utf8ByteSize := by
    decide +kernel
  obtain ⟨hfits, -, -, hshortens⟩ :=
    indexName_fits_or_shortens .standard true accentedTable ["shop"]
  exact ⟨hlong, hfits, hshortens hlong, by decide +kernel⟩

end CatalogHealth
