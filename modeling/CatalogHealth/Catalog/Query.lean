import CatalogHealth.Value.Basic

/-!
# Catalogue queries

Five queries read the whole catalogue in a fixed order, and a sixth one
measures a single index. All but the last leave out the schemas of the database
system itself and can be narrowed to some schemas. The texts hold placeholders
for named parameters; a percent sign that is meant as such is doubled in them.
-/

namespace CatalogHealth

/-- A query of the catalogue. -/
inductive CatalogQuery where
  /-- The tables. -/
  | tables
  /-- The columns. -/
  | columns
  /-- The keys of the indexes. -/
  | indexes
  /-- The constraints. -/
  | constraints
  /-- The sequences. -/
  | sequences
  /-- The density of one index. -/
  | indexBloat
deriving DecidableEq, Repr

namespace CatalogQuery

/-- The name of a query in logs. -/
def name : CatalogQuery → String
  | tables => "tables"
  | columns => "columns"
  | indexes => "indexes"
  | constraints => "constraints"
  | sequences => "sequences"
  | indexBloat => "index_bloat"

/-- The tables with their sizes and row statistics. -/
def tablesLines (filter : String) : List String :=
  ["SELECT",
   "    n.nspname AS schema_name,",
   "    c.relname AS table_name,",
   "    greatest(c.reltuples, 0)::bigint AS row_estimate,",
   "    pg_catalog.pg_table_size(c.oid) AS size_bytes,",
   "    s.n_live_tup,",
   "    s.n_dead_tup",
   "FROM pg_catalog.pg_class c",
   "JOIN pg_catalog.pg_namespace n ON n.oid = c.relnamespace",
   "LEFT JOIN pg_catalog.pg_stat_user_tables s ON s.relid = c.oid",
   "WHERE c.relkind IN ('r', 'p')",
   "  AND n.nspname <> ALL(%(excluded)s)",
   "  AND n.nspname NOT LIKE 'pg_temp%%'",
   "  " ++ filter,
   "ORDER BY n.nspname, c.relname;"]

/-- The columns of all tables, in order. -/
def columnsLines (filter : String) : List String :=
  ["SELECT",
   "    n.nspname AS schema_name,",
   "    c.relname AS table_name,",
   "    a.attname AS column_name,",
   "    pg_catalog.format_type(a.atttypid, a.atttypmod) AS data_type,",
   "    a.attnotnull",
   "FROM pg_catalog.pg_attribute a",
   "JOIN pg_catalog.pg_class c ON c.oid = a.attrelid",
   "JOIN pg_catalog.pg_namespace n ON n.oid = c.relnamespace",
   "WHERE c.relkind IN ('r', 'p')",
   "  AND a.attnum > 0",
   "  AND NOT a.attisdropped",
   "  AND n.nspname <> ALL(%(excluded)s)",
   "  AND n.nspname NOT LIKE 'pg_temp%%'",
   "  " ++ filter,
   "ORDER BY n.nspname, c.relname, a.attnum;"]

/-- The indexes, one row for each key; the key of an expression has no column name. -/
def indexesLines (filter : String) : List String :=
  ["SELECT",
   "    n.nspname AS schema_name,",
   "    t.relname AS table_name,",
   "    ic.relname AS index_name,",
   "    i.indisunique,",
   "    i.indisvalid,",
   "    am.amname,",
   "    pg_catalog.pg_get_expr(i.indpred, i.indrelid) AS predicate,",
   "    con.conname,",
   "    pg_catalog.pg_relation_size(ic.oid) AS size_bytes,",
   "    s.idx_scan,",
   "    pg_catalog.pg_get_indexdef(ic.oid) AS definition,",
   "    k.ord,",
   "    a.attname,",
   "    pg_catalog.pg_get_indexdef(ic.oid, k.ord::int, true) AS key_definition,",
   "    (i.indoption[k.ord - 1] & 1) = 1 AS descending,",
   "    (i.indoption[k.ord - 1] & 2) = 2 AS nulls_first,",
   "    CASE WHEN opc.opcdefault THEN '' ELSE opc.opcname END AS opclass,",
   "    CASE WHEN coll.collname IS NULL OR coll.collname = 'default'",
   "         THEN '' ELSE coll.collname END AS collation",
   "FROM pg_catalog.pg_index i",
   "JOIN pg_catalog.pg_class ic ON ic.oid = i.indexrelid",
   "JOIN pg_catalog.pg_class t ON t.oid = i.indrelid",
   "JOIN pg_catalog.pg_namespace n ON n.oid = t.relnamespace",
   "JOIN pg_catalog.pg_am am ON am.oid = ic.relam",
   "LEFT JOIN pg_catalog.pg_constraint con",
   "  ON con.conindid = i.indexrelid AND con.contype IN ('p', 'u', 'x')",
   "LEFT JOIN pg_catalog.pg_stat_user_indexes s ON s.indexrelid = i.indexrelid",
   "LEFT JOIN LATERAL unnest(i.indkey::int2[]) WITH ORDINALITY AS k(attnum, ord)",
   "  ON k.ord <= i.indnkeyatts",
   "LEFT JOIN pg_catalog.pg_attribute a",
   "  ON a.attrelid = i.indrelid AND a.attnum = k.attnum AND k.attnum > 0",
   "LEFT JOIN pg_catalog.pg_opclass opc ON opc.oid = i.indclass[k.ord - 1]",
   "LEFT JOIN pg_catalog.pg_collation coll ON coll.oid = i.indcollation[k.ord - 1]",
   "WHERE t.relkind IN ('r', 'p', 'm')",
   "  AND n.nspname <> ALL(%(excluded)s)",
   "  AND n.nspname NOT LIKE 'pg_temp%%'",
   "  " ++ filter,
   "ORDER BY n.nspname, t.relname, ic.relname, k.ord;"]

/-- The constraints with their columns and the columns that they refer to. -/
def constraintsLines (filter : String) : List String :=
  ["SELECT",
   "    n.nspname AS schema_name,",
   "    c.relname AS table_name,",
   "    con.conname,",
   "    con.contype,",
   "    con.convalidated,",
   "    ARRAY(",
   "        SELECT a.attname",
   "        FROM unnest(con.conkey) WITH ORDINALITY AS k(attnum, ord)",
   "        JOIN pg_catalog.pg_attribute a",
   "          ON a.attrelid = con.conrelid AND a.attnum = k.attnum",
   "        ORDER BY k.ord",
   "    ) AS columns,",
   "    rn.nspname AS ref_schema,",
   "    rc.relname AS ref_table,",
   "    ARRAY(",
   "        SELECT a.attname",
   "        FROM unnest(con.confkey) WITH ORDINALITY AS k(attnum, ord)",
   "        JOIN pg_catalog.pg_attribute a",
   "          ON a.attrelid = con.confrelid AND a.attnum = k.attnum",
   "        ORDER BY k.ord",
   "    ) AS ref_columns",
   "FROM pg_catalog.pg_constraint con",
   "JOIN pg_catalog.pg_class c ON c.oid = con.conrelid",
   "JOIN pg_catalog.pg_namespace n ON n.oid = c.relnamespace",
   "LEFT JOIN pg_catalog.pg_class rc ON rc.oid = con.confrelid",
   "LEFT JOIN pg_catalog.pg_namespace rn ON rn.oid = rc.relnamespace",
   "WHERE con.contype IN ('p', 'f', 'u', 'c', 'n', 'x')",
   "  AND n.nspname <> ALL(%(excluded)s)",
   "  AND n.nspname NOT LIKE 'pg_temp%%'",
   "  " ++ filter,
   "ORDER BY n.nspname, c.relname, con.conname;"]

/-- The sequences with their bounds and positions. -/
def sequencesLines (filter : String) : List String :=
  ["SELECT",
   "    n.schemaname,",
   "    n.sequencename,",
   "    n.data_type::text,",
   "    n.last_value,",
   "    n.min_value,",
   "    n.max_value,",
   "    n.increment_by,",
   "    n.cycle",
   "FROM pg_catalog.pg_sequences n",
   "WHERE n.schemaname <> ALL(%(excluded)s)",
   "  " ++ filter,
   "ORDER BY n.schemaname, n.sequencename;"]

/-- The density of the leaf pages of one index. -/
def indexBloatLines : List String :=
  ["SELECT avg_leaf_density FROM pgstatindex(%(index)s::regclass);"]

/-- The lines of a query with a condition put in its place. -/
def lines (query : CatalogQuery) (filter : String) : List String :=
  match query with
  | tables => tablesLines filter
  | columns => columnsLines filter
  | indexes => indexesLines filter
  | constraints => constraintsLines filter
  | sequences => sequencesLines filter
  | indexBloat => indexBloatLines

/-- The column that holds the name of the schema. -/
def schemaColumn : CatalogQuery → String
  | sequences => "n.schemaname"
  | _ => "n.nspname"

/-- The condition that narrows a query to some schemas. -/
def schemaFilter (query : CatalogQuery) : String :=
  "AND " ++ query.schemaColumn ++ " = ANY(%(schemas)s)"

end CatalogQuery

/-- The schemas of the database system itself. -/
def systemSchemas : List String := ["pg_catalog", "information_schema", "pg_toast"]

/-- A query as it is sent. -/
structure QueryCall where
  /-- The query. -/
  query : CatalogQuery
  /-- The schemas to read, all but those of the system if there are none. -/
  schemas : List Text := []
  /-- The identifier of the index to measure, if it is that kind of query. -/
  index : Option Text := none
deriving DecidableEq, Repr

namespace QueryCall

/-- The text of the query. -/
def sql (call : QueryCall) : String :=
  let filter := if call.schemas.isEmpty then "" else call.query.schemaFilter
  "\n" ++ String.join ((call.query.lines filter).map fun line => "    " ++ line ++ "\n")

/-- Whether the query is narrowed to some schemas. -/
def isFiltered (call : QueryCall) : Bool := !call.schemas.isEmpty && call.query != .indexBloat

/-- The named parameters of the query. -/
def parameters (call : QueryCall) : List (String × Value) :=
  let schemas :=
    if call.schemas.isEmpty then [] else [("schemas", Value.list (call.schemas.map .text))]
  let index :=
    match call.index with
    | none => []
    | some identifier => [("index", Value.text identifier)]
  let excluded := systemSchemas.map fun (schema : String) => Value.text schema
  ("excluded", Value.list excluded) :: (schemas ++ index)

end QueryCall

end CatalogHealth
