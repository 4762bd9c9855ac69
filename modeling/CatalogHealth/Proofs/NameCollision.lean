import CatalogHealth.Proofs.KeyIndex
import CatalogHealth.Proofs.NameShortening
import CatalogHealth.Proofs.StatementText

/-!
# Which generated indexes have the same name

The parts of a name are joined by underscores, so all that is left of them is the sequence of their
words: two indexes have the same name exactly if the words in it are the same. The parts of a
shortened name are the beginning of the table's name and the number that stands for the columns. A
statement does not build an index if there is one with its name, so of two indexes in one schema
that share a name only the first is built. Names that other objects of a schema have are outside the
scope of this module.
-/

namespace CatalogHealth

/-! ## Words -/

/-- The words of a name, which underscores separate. -/
def nameWords (name : String) : List (List Char) := name.toList.splitOn '_'

/-- A name is known by its words. -/
theorem nameWords_injective : Function.Injective nameWords := by
  intro a b h
  have hjoined : ∀ name : String, ['_'].intercalate (nameWords name) = name.toList :=
    fun name => List.intercalate_splitOn '_'
  exact String.toList_injective (by rw [← hjoined a, ← hjoined b, h])

/-- A name without underscores is one word. -/
theorem nameWords_of_notMem {name : String} (h : '_' ∉ name.toList) :
    nameWords name = [name.toList] :=
  List.splitOn_eq_singleton h

/-- The words of two names stand one after the other where an underscore joins them. -/
theorem nameWords_append (a b : String) :
    nameWords (a ++ "_" ++ b) = nameWords a ++ nameWords b := by
  have hlist : (a ++ "_" ++ b).toList = a.toList ++ '_' :: b.toList := by simp
  rw [nameWords, hlist]
  exact List.splitOnP_append_cons _ _ (beq_self_eq_true '_')

/-- The words of a joined name are those of its parts. -/
theorem nameWords_intercalate {parts : List String} (hne : parts ≠ []) :
    nameWords ("_".intercalate parts) = parts.flatMap nameWords := by
  induction parts with
  | nil => exact absurd rfl hne
  | cons part rest ih =>
    cases rest with
    | nil => rw [String.intercalate_singleton, List.flatMap_singleton]
    | cons next others =>
      rw [String.intercalate_cons_cons, nameWords_append, ih (by simp), List.flatMap_cons,
        List.flatMap_cons, List.flatMap_cons]

/-! ## Names of indexes -/

variable {options : GeneratingOptions} {withoutNulls withoutNulls' : Bool}
  {table table' : String} {columns columns' : List String}

/-- What stands in a name if it says that rows with nulls are left out. -/
def nameMark (options : GeneratingOptions) (withoutNulls : Bool) : List String :=
  if withoutNulls && options.nameWithoutNulls then ["without_nulls"] else []

/-- The parts of the name of an index, apart from `idx`. -/
def nameParts (options : GeneratingOptions) (withoutNulls : Bool) (table : String)
    (columns : List String) : List String :=
  (if (fullIndexName options withoutNulls table columns).utf8ByteSize ≤ maxIdentifierBytes then
      table :: columns
    else [tableHead options withoutNulls table (columnsDigest columns), columnsDigest columns]) ++
    nameMark options withoutNulls

theorem nameParts_of_fits
    (h : (fullIndexName options withoutNulls table columns).utf8ByteSize ≤ maxIdentifierBytes) :
    nameParts options withoutNulls table columns =
      table :: columns ++ nameMark options withoutNulls := by
  rw [nameParts, if_pos h]

theorem nameParts_of_long
    (h : maxIdentifierBytes < (fullIndexName options withoutNulls table columns).utf8ByteSize) :
    nameParts options withoutNulls table columns =
      [tableHead options withoutNulls table (columnsDigest columns), columnsDigest columns] ++
        nameMark options withoutNulls := by
  rw [nameParts, if_neg (Nat.not_le.2 h)]

/-- The name of an index is joined of its parts and of `idx` where the options put it. -/
theorem indexName_eq_joined (options : GeneratingOptions) (withoutNulls : Bool) (table : String)
    (columns : List String) : ∃ parts, parts ≠ [] ∧
      nameParts options withoutNulls table columns = parts ++ nameMark options withoutNulls ∧
        indexName options withoutNulls table columns = joinedName options withoutNulls parts := by
  by_cases hfits :
      (fullIndexName options withoutNulls table columns).utf8ByteSize ≤ maxIdentifierBytes
  · refine ⟨table :: columns, by simp, nameParts_of_fits hfits, ?_⟩
    rw [indexName, utf8Length_toList, if_pos hfits, fullIndexName]
  · refine ⟨_, by simp, nameParts_of_long (Nat.not_le.1 hfits), ?_⟩
    rw [indexName, utf8Length_toList, if_neg hfits]

/-- The words of the name of an index are those of its parts and `idx`. -/
theorem nameWords_indexName (options : GeneratingOptions) (withoutNulls : Bool) (table : String)
    (columns : List String) : nameWords (indexName options withoutNulls table columns) =
      (if options.placement = .front then [['i', 'd', 'x']] else []) ++
        (nameParts options withoutNulls table columns).flatMap nameWords ++
          (if options.placement = .suffix then [['i', 'd', 'x']] else []) := by
  obtain ⟨parts, hne, hparts, hname⟩ := indexName_eq_joined options withoutNulls table columns
  have hmarked : (if withoutNulls && options.nameWithoutNulls then parts ++ ["without_nulls"]
      else parts) = parts ++ nameMark options withoutNulls := by
    unfold nameMark
    split
    · rfl
    · rw [List.append_nil]
  have hidx : nameWords "idx" = [['i', 'd', 'x']] := nameWords_of_notMem (by decide)
  rw [hname, hparts, joinedName, decorated]
  simp only [hmarked]
  cases options.placement with
  | suffix =>
    rw [nameWords_intercalate (by simp), List.flatMap_append, List.flatMap_singleton, hidx]
    simp
  | front =>
    rw [nameWords_intercalate (by simp), List.flatMap_cons, hidx]
    simp
  | absent =>
    rw [nameWords_intercalate (by simp [hne])]
    simp

/-- Two indexes have the same name exactly if the words in it are the same. -/
theorem indexName_eq_iff : indexName options withoutNulls table columns =
      indexName options withoutNulls' table' columns' ↔
    (nameParts options withoutNulls table columns).flatMap nameWords =
      (nameParts options withoutNulls' table' columns').flatMap nameWords := by
  rw [← nameWords_injective.eq_iff, nameWords_indexName, nameWords_indexName,
    List.append_left_inj, List.append_right_inj]

/-- The mark of a name can be told from what stands in front of it if this does not end with the
last word of the mark. -/
theorem eq_of_append_nameMark {front front' : List (List Char)}
    (hfront : "nulls".toList ∉ front.getLast?) (hfront' : "nulls".toList ∉ front'.getLast?)
    (h : front ++ (nameMark options withoutNulls).flatMap nameWords =
      front' ++ (nameMark options withoutNulls').flatMap nameWords) :
    front = front' ∧ nameMark options withoutNulls = nameMark options withoutNulls' := by
  have hcases : ∀ marked,
      nameMark options marked = ["without_nulls"] ∨ nameMark options marked = [] :=
    fun marked => ite_eq_or_eq _ _ _
  have hwords : ["without_nulls"].flatMap nameWords = ["without".toList] ++ ["nulls".toList] := by
    decide
  rcases hcases withoutNulls with hmark | hmark <;>
    rcases hcases withoutNulls' with hmark' | hmark' <;> rw [hmark, hmark'] at h ⊢
  · exact ⟨List.append_cancel_right h, rfl⟩
  · rw [hwords, ← List.append_assoc, List.flatMap_nil, List.append_nil] at h
    exact absurd (by rw [← h, List.getLast?_concat]; rfl) hfront'
  · rw [hwords, ← List.append_assoc, List.flatMap_nil, List.append_nil] at h
    exact absurd (by rw [h, List.getLast?_concat]; rfl) hfront
  · exact ⟨List.append_cancel_right h, rfl⟩

/-- Two shortened names are the same exactly if the options add the same to them and the beginnings
of the tables' names and the numbers that stand for the columns are the same. -/
theorem indexName_eq_iff_of_long
    (h : maxIdentifierBytes < (fullIndexName options withoutNulls table columns).utf8ByteSize)
    (h' : maxIdentifierBytes <
      (fullIndexName options withoutNulls' table' columns').utf8ByteSize) :
    indexName options withoutNulls table columns =
        indexName options withoutNulls' table' columns' ↔
      nameMark options withoutNulls = nameMark options withoutNulls' ∧
        tableHead options withoutNulls table (columnsDigest columns) =
          tableHead options withoutNulls' table' (columnsDigest columns') ∧
        columnsDigest columns = columnsDigest columns' := by
  have hdigest : ∀ columns : List String,
      nameWords (columnsDigest columns) = [(columnsDigest columns).toList] := fun columns =>
    nameWords_of_notMem fun hmem => absurd (isDigit_of_mem_columnsDigest hmem) (by decide)
  have hlast : ∀ (head : List (List Char)) (columns : List String),
      "nulls".toList ∉ (head ++ nameWords (columnsDigest columns)).getLast? := by
    intro head columns hmem
    rw [hdigest, List.getLast?_concat, Option.mem_some_iff] at hmem
    have hletter : 'n' ∈ (columnsDigest columns).toList := hmem ▸ by decide
    exact absurd (isDigit_of_mem_columnsDigest hletter) (by decide)
  rw [indexName_eq_iff, nameParts_of_long h, nameParts_of_long h', List.flatMap_append,
    List.flatMap_append]
  simp only [List.flatMap_cons, List.flatMap_nil, List.append_nil]
  constructor
  · intro hwords
    obtain ⟨hparts, hmark⟩ := eq_of_append_nameMark (hlast _ _) (hlast _ _) hwords
    rw [hdigest, hdigest] at hparts
    obtain ⟨hhead, htail⟩ := List.append_inj' hparts rfl
    exact ⟨hmark, nameWords_injective hhead, String.toList_injective (List.cons.inj htail).1⟩
  · rintro ⟨hmark, hhead, hsame⟩
    rw [hmark, hhead, hsame]

/-- A name that is one word and does not look like the end of a mark. -/
def IsPlainPart (part : String) : Prop := '_' ∉ part.toList ∧ part ≠ "nulls"

/-- Names that fit are those of the same table and the same columns if the parts can be told apart
in them. -/
theorem eq_of_indexName_of_plain
    (h : (fullIndexName options withoutNulls table columns).utf8ByteSize ≤ maxIdentifierBytes)
    (h' : (fullIndexName options withoutNulls' table' columns').utf8ByteSize ≤ maxIdentifierBytes)
    (hplain : ∀ part ∈ table :: columns, IsPlainPart part)
    (hplain' : ∀ part ∈ table' :: columns', IsPlainPart part)
    (hname : indexName options withoutNulls table columns =
      indexName options withoutNulls' table' columns') : table = table' ∧ columns = columns' := by
  have hwords : ∀ {parts : List String}, (∀ part ∈ parts, IsPlainPart part) →
      parts.flatMap nameWords = parts.map String.toList := by
    intro parts hparts
    rw [List.map_eq_flatMap]
    exact List.flatMap_congr fun part hpart => nameWords_of_notMem (hparts part hpart).1
  have hlast : ∀ {parts : List String}, (∀ part ∈ parts, IsPlainPart part) →
      "nulls".toList ∉ (parts.map String.toList).getLast? := by
    intro parts hparts hmem
    obtain ⟨part, hpart, hsame⟩ := List.mem_map.1 (List.mem_of_getLast? hmem)
    exact (hparts part hpart).2 (String.toList_injective hsame)
  rw [indexName_eq_iff, nameParts_of_fits h, nameParts_of_fits h', List.flatMap_append,
    List.flatMap_append, hwords hplain, hwords hplain'] at hname
  obtain ⟨hparts, -⟩ := eq_of_append_nameMark (hlast hplain) (hlast hplain') hname
  exact List.cons.inj ((List.map_inj_right fun _ _ => String.toList_injective).1 hparts)

/-! ## Statements that build indexes -/

namespace Repair

/-- The name of the index that a repair builds. -/
def indexName? (options : GeneratingOptions) : Repair → Option String
  | indexColumns _ table columns nullable =>
    some (indexName options (!nullable.isEmpty) table columns)
  | _ => none

/-- The words in the name of this index, apart from `idx`. -/
def indexWords (options : GeneratingOptions) : Repair → List (List Char)
  | indexColumns _ table columns nullable =>
    (nameParts options (!nullable.isEmpty) table columns).flatMap nameWords
  | _ => []

/-- Two repairs build indexes in one schema, on different tables or on different columns. -/
def IsBeside : Repair → Repair → Prop
  | indexColumns schema table columns _, indexColumns schema' table' columns' _ =>
    schema = schema' ∧ (table ≠ table' ∨ columns ≠ columns')
  | _, _ => False

/-- The names of the two indexes are the same exactly if their words are. -/
theorem IsBeside.indexName?_eq_iff {repair repair' : Repair} (h : repair.IsBeside repair') :
    repair.indexName? options = repair'.indexName? options ↔
      repair.indexWords options = repair'.indexWords options := by
  cases repair with
  | indexColumns schema table columns nullable =>
    cases repair' with
    | indexColumns schema' table' columns' nullable' =>
      rw [indexName?, indexName?, Option.some.injEq]
      exact indexName_eq_iff
    | _ => exact h.elim
  | _ => exact h.elim

end Repair

namespace Statement

/-- Statements that build indexes in one schema, on different tables or on different columns, give
them different names. -/
def NamesApart (options : GeneratingOptions) (statements : List Statement) : Prop :=
  ∀ st ∈ statements, ∀ st' ∈ statements, ∀ repair repair' : Repair,
    st.sql = repair.sql options → st'.sql = repair'.sql options → repair.IsBeside repair' →
      repair.indexName? options ≠ repair'.indexName? options

/-- The indexes that are built for foreign keys have different names exactly if no two of them have
names with the same words. Where both names are shortened, only the beginnings of the tables' names
and the numbers that stand for the columns tell them apart. Names that fit are different if no table
and no column has an underscore in its name or is called like the end of a mark. -/
theorem names_apart_iff (options : GeneratingOptions) :
    (∀ findings statements, generate options findings = .ok statements →
      (NamesApart options statements ↔ ∀ f g : Finding, f.IsFirstIn findings →
        g.IsFirstIn findings → ∀ repair repair',
          Repair.ofFinding? options f = .ok (some repair) →
          Repair.ofFinding? options g = .ok (some repair') → repair.IsBeside repair' →
            repair.indexWords options ≠ repair'.indexWords options)) ∧
    (∀ withoutNulls withoutNulls' table table' columns columns',
      maxIdentifierBytes < (fullIndexName options withoutNulls table columns).utf8ByteSize →
      maxIdentifierBytes < (fullIndexName options withoutNulls' table' columns').utf8ByteSize →
        (indexName options withoutNulls table columns =
            indexName options withoutNulls' table' columns' ↔
          nameMark options withoutNulls = nameMark options withoutNulls' ∧
            tableHead options withoutNulls table (columnsDigest columns) =
              tableHead options withoutNulls' table' (columnsDigest columns') ∧
            columnsDigest columns = columnsDigest columns')) ∧
    ∀ withoutNulls withoutNulls' table table' columns columns',
      (fullIndexName options withoutNulls table columns).utf8ByteSize ≤ maxIdentifierBytes →
      (fullIndexName options withoutNulls' table' columns').utf8ByteSize ≤ maxIdentifierBytes →
      (∀ part ∈ table :: columns, IsPlainPart part) →
      (∀ part ∈ table' :: columns', IsPlainPart part) →
        indexName options withoutNulls table columns =
            indexName options withoutNulls' table' columns' →
          table = table' ∧ columns = columns' := by
  refine ⟨fun findings statements h => ?_, ?_, ?_⟩
  · constructor
    · intro hnames f g hf hg repair repair' hrepair hrepair' hbeside hwords
      obtain ⟨st, hst, hsql⟩ := (exists_sql_iff h).2 ⟨f, hf, hrepair⟩
      obtain ⟨st', hst', hsql'⟩ := (exists_sql_iff h).2 ⟨g, hg, hrepair'⟩
      exact hnames st hst st' hst' repair repair' hsql hsql' hbeside
        (hbeside.indexName?_eq_iff.2 hwords)
    · intro hwords st hst st' hst' repair repair' hsql hsql' hbeside hname
      obtain ⟨f, hf, hrepair⟩ := (exists_sql_iff h).1 ⟨st, hst, hsql⟩
      obtain ⟨g, hg, hrepair'⟩ := (exists_sql_iff h).1 ⟨st', hst', hsql'⟩
      exact hwords f g hf hg repair repair' hrepair hrepair' hbeside
        (hbeside.indexName?_eq_iff.1 hname)
  · exact fun _ _ _ _ _ _ hlong hlong' => indexName_eq_iff_of_long hlong hlong'
  · exact fun _ _ _ _ _ _ hfits hfits' hplain hplain' =>
      eq_of_indexName_of_plain hfits hfits' hplain hplain'

/-- A foreign key that no index covers. -/
def uncoveredShopOf (table : String) : Finding :=
  uncoveredKeyFinding bareSnapshot (foreignKeyOn table ["shop"]) "" ""

/-- For the foreign keys of the orders and of the bills, indexes on their columns are built. -/
theorem ofFinding?_uncoveredShops {f : Finding}
    (h : f.IsFirstIn [uncoveredShopOf "orders", uncoveredShopOf "bills"]) :
    ∃ table ∈ ["orders", "bills"], Repair.ofFinding? keyIndexing f =
      .ok (some (.indexColumns "public" table ["shop"] [])) := by
  have horders : Repair.ofFinding? keyIndexing (uncoveredShopOf "orders") =
      .ok (some (.indexColumns "public" "orders" ["shop"] [])) := by decide +kernel
  have hbills : Repair.ofFinding? keyIndexing (uncoveredShopOf "bills") =
      .ok (some (.indexColumns "public" "bills" ["shop"] [])) := by decide +kernel
  have hmem := Finding.mem_of_mem_merge (Finding.mem_merge_iff_isFirstIn.2 h)
  rcases List.mem_pair.1 hmem with rfl | rfl
  · exact ⟨"orders", by simp, horders⟩
  · exact ⟨"bills", by simp, hbills⟩

/-- A table of readings whose indexes have names that are too long. -/
def northernReadings : String := "readings_of_all_weather_stations_in_the_north_of_europe_2023"

/-- Another one. -/
def southernReadings : String := "readings_of_all_weather_stations_in_the_south_of_europe_2023"

/-- The indexes on the columns of one name of two tables have different names. Those on the readings
are shortened, and the beginnings of the tables' names tell them apart. Those on the orders and the
bills fit and are made of plain parts. -/
theorem names_apart_iff_shops :
    (∃ statements,
      generate keyIndexing [uncoveredShopOf "orders", uncoveredShopOf "bills"] = .ok statements ∧
        NamesApart keyIndexing statements) ∧
    (∀ table ∈ [northernReadings, southernReadings],
      maxIdentifierBytes < (fullIndexName keyIndexing false table ["station"]).utf8ByteSize) ∧
    indexName keyIndexing false northernReadings ["station"] ≠
      indexName keyIndexing false southernReadings ["station"] ∧
    (∀ table ∈ ["orders", "bills"],
      (fullIndexName keyIndexing false table ["shop"]).utf8ByteSize ≤ maxIdentifierBytes ∧
        ∀ part ∈ [table, "shop"], IsPlainPart part) ∧
    indexName keyIndexing false "orders" ["shop"] ≠
      indexName keyIndexing false "bills" ["shop"] := by
  obtain ⟨statements, hstatements⟩ : ∃ statements,
      generate keyIndexing [uncoveredShopOf "orders", uncoveredShopOf "bills"] =
        .ok statements := by
    refine exists_generate_iff.2 fun f hf => ?_
    obtain ⟨table, -, hrepair⟩ := ofFinding?_uncoveredShops hf
    exact ⟨_, ofFinding?_eq_ok_some.2 (asked?_eq_some.2 ⟨_, hrepair, rfl⟩)⟩
  have hwords : ∀ table ∈ ["orders", "bills"], ∀ table' ∈ ["orders", "bills"], table ≠ table' →
      (Repair.indexColumns "public" table ["shop"] []).indexWords keyIndexing ≠
        (Repair.indexColumns "public" table' ["shop"] []).indexWords keyIndexing := by
    decide +kernel
  have hlong : ∀ table ∈ [northernReadings, southernReadings],
      maxIdentifierBytes < (fullIndexName keyIndexing false table ["station"]).utf8ByteSize := by
    decide +kernel
  have hheads : tableHead keyIndexing false northernReadings (columnsDigest ["station"]) ≠
      tableHead keyIndexing false southernReadings (columnsDigest ["station"]) := by decide +kernel
  have hplain : ∀ table ∈ ["orders", "bills"],
      (fullIndexName keyIndexing false table ["shop"]).utf8ByteSize ≤ maxIdentifierBytes ∧
        ∀ part ∈ [table, "shop"], IsPlainPart part := by
    unfold IsPlainPart
    decide +kernel
  obtain ⟨hapart, hshortened, hfitting⟩ := names_apart_iff keyIndexing
  refine ⟨⟨statements, hstatements, (hapart _ _ hstatements).2 ?_⟩, hlong, fun hname => ?_,
    hplain, fun hname => ?_⟩
  · intro f g hf hg repair repair' hrepair hrepair' hbeside
    obtain ⟨table, htable, hmade⟩ := ofFinding?_uncoveredShops hf
    obtain ⟨table', htable', hmade'⟩ := ofFinding?_uncoveredShops hg
    cases hmade.symm.trans hrepair
    cases hmade'.symm.trans hrepair'
    refine hwords table htable table' htable' ?_
    exact hbeside.2.resolve_right fun hne => hne rfl
  · have hsame := (hshortened _ _ _ _ _ _ (hlong _ (by simp)) (hlong _ (by simp))).1 hname
    exact hheads hsame.2.1
  · obtain ⟨hfits, hparts⟩ := hplain "orders" (by simp)
    obtain ⟨hfits', hparts'⟩ := hplain "bills" (by simp)
    have hsame := hfitting _ _ _ _ _ _ hfits hfits' hparts hparts' hname
    exact absurd hsame.1 (by decide)

/-- A table of users whose columns are not null. -/
def filledTable (name : String) (columns : List String) : Table where
  schema := .text "public"
  name := .text name
  columns := columns.map fun column => { name := .text column, notNull := true }

/-- The orders and the items of orders, with a foreign key each. -/
def alikeTables : Snapshot :=
  { bareSnapshot with
    tables := [filledTable "orders" ["item", "shop"], filledTable "orders_item" ["shop"]]
    constraints :=
      [foreignKeyOn "orders" ["item", "shop"], foreignKeyOn "orders_item" ["shop"]]
    tables_nodup := by decide
    constraints_nodup := by decide }

/-- The repair for the foreign key of the orders. -/
def indexOnOrders : Repair := .indexColumns "public" "orders" ["item", "shop"] []

/-- The repair for the foreign key of their items. -/
def indexOnItems : Repair := .indexColumns "public" "orders_item" ["shop"] []

/-- The index on the orders has the name of that on their items. A longer name is no remedy, since
the number in it stands for the columns only: the tables of two years can only be told apart by what
is cut. -/
theorem alikeTables_names_collide : ∃ report statements, evaluate alikeTables {} = .ok report ∧
    generate keyIndexing report.findings = .ok statements ∧
    (∃ st ∈ statements, st.sql = indexOnOrders.sql keyIndexing) ∧
    (∃ st ∈ statements, st.sql = indexOnItems.sql keyIndexing) ∧
    indexOnOrders.indexName? keyIndexing = some "orders_item_shop_idx" ∧
    indexOnItems.indexName? keyIndexing = some "orders_item_shop_idx" ∧
    ¬NamesApart keyIndexing statements ∧
    indexName keyIndexing false "readings_of_all_weather_stations_in_the_north_of_europe_2023"
        ["station"] =
      indexName keyIndexing false "readings_of_all_weather_stations_in_the_north_of_europe_2024"
        ["station"] := by
  have hruns : (evaluate alikeTables { thresholds := {} } >>= fun report =>
      generate keyIndexing report.findings).toOption.any (fun statements =>
        (∃ st ∈ statements, st.sql = indexOnOrders.sql keyIndexing) ∧
          ∃ st ∈ statements, st.sql = indexOnItems.sql keyIndexing) = true := by
    decide +kernel
  have horders : indexOnOrders.indexName? keyIndexing = some "orders_item_shop_idx" := by
    decide +kernel
  have hitems : indexOnItems.indexName? keyIndexing = some "orders_item_shop_idx" := by
    decide +kernel
  have hbeside : indexOnOrders.IsBeside indexOnItems := ⟨rfl, .inl (by decide)⟩
  obtain ⟨report, statements, hreport, hstatements, hfacts⟩ := exists_report_of_toOption hruns
  obtain ⟨⟨st, hst, hsql⟩, st', hst', hsql'⟩ := of_decide_eq_true hfacts
  refine ⟨report, statements, hreport, hstatements, ⟨st, hst, hsql⟩, ⟨st', hst', hsql'⟩, horders,
    hitems, fun hapart => ?_, by decide +kernel⟩
  exact hapart st hst st' hst' _ _ hsql hsql' hbeside (horders.trans hitems.symm)

end Statement

end CatalogHealth
