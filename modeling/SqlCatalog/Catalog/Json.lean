-- SUMMARY: Catalogs as JSON.
import SqlCatalog.Catalog
import SqlCatalog.Document.Value

/-!
# Catalogs as JSON

Every field is written. On reading, the link fields may be left out, and
nothing is checked beyond the kinds of the values.
-/

namespace SqlCatalog

/-! ## Writing -/

def Column.toJson (c : Column) : Json.Value :=
  .object [
    ("name", .string c.name),
    ("semantic_type", .string c.type.name),
    ("queryable", .strings (c.queryable.members.map Operator.symbol)),
    ("unique", .bool c.unique),
    ("indexed", .bool c.indexed),
    ("orderable", .bool c.orderable),
    ("required", .bool c.required),
    ("linked_table", .optional c.linkedTable)]

def ViewColumn.toJson (c : ViewColumn) : Json.Value :=
  .object [
    ("name", .string c.name),
    ("linked_table", .optional c.linkedTable),
    ("linked_view", .optional c.linkedView)]

def View.toJson (v : View) : Json.Value :=
  .object [
    ("name", .string v.name),
    ("columns", .array (v.columns.map ViewColumn.toJson)),
    ("select_list", .string v.selectList),
    ("cache_ttl_seconds", .number (.ofInt64 v.cacheSeconds)),
    ("identity_hash", .string v.identity)]

def Table.toJson (t : Table) : Json.Value :=
  .object [
    ("name", .string t.name),
    ("namespace", .string t.space),
    ("columns", .ofDict Column.toJson t.columns),
    ("views", .ofDict View.toJson t.views)]

def Catalog.toJson (c : Catalog) : Json.Value :=
  .object [("tables", .ofDict Table.toJson c.tables)]

/-! ## Reading -/

def Column.fieldNames : List String :=
  ["name", "semantic_type", "queryable", "unique", "indexed", "orderable", "required",
   "linked_table"]

def Column.read : Reader Column :=
  Reader.record fieldNames fun budget fs => do
    let name ← fs.required "name" (Reader.string budget)
    let type ← fs.required "semantic_type" (Reader.keyword ColumnType.names budget)
    let queryable ← fs.required "queryable" (Reader.list (Reader.keyword Operator.symbols) budget)
    let unique ← fs.required "unique" (Reader.bool budget)
    let indexed ← fs.required "indexed" (Reader.bool budget)
    let orderable ← fs.required "orderable" (Reader.bool budget)
    let required ← fs.required "required" (Reader.bool budget)
    let linkedTable ← fs.optional "linked_table" (Reader.string budget)
    return ⟨name, type, .ofList queryable, unique, indexed, orderable, required, linkedTable⟩

def ViewColumn.read : Reader ViewColumn :=
  Reader.record ["name", "linked_table", "linked_view"] fun budget fs => do
    let name ← fs.required "name" (Reader.string budget)
    let linkedTable ← fs.optional "linked_table" (Reader.string budget)
    let linkedView ← fs.optional "linked_view" (Reader.string budget)
    return ⟨name, linkedTable, linkedView⟩

def View.fieldNames : List String :=
  ["name", "columns", "select_list", "cache_ttl_seconds", "identity_hash"]

def View.read : Reader View :=
  Reader.record fieldNames fun budget fs => do
    let name ← fs.required "name" (Reader.string budget)
    let columns ← fs.required "columns" (Reader.list ViewColumn.read budget)
    let selectList ← fs.required "select_list" (Reader.string budget)
    let cacheSeconds ← fs.required "cache_ttl_seconds" (Reader.int64 budget)
    let identity ← fs.required "identity_hash" (Reader.string budget)
    return ⟨name, columns, selectList, cacheSeconds, identity⟩

def Table.read : Reader Table :=
  Reader.record ["name", "namespace", "columns", "views"] fun budget fs => do
    let name ← fs.required "name" (Reader.string budget)
    let space ← fs.required "namespace" (Reader.string budget)
    let columns ← fs.required "columns" (Reader.dict Column.read budget)
    let views ← fs.required "views" (Reader.dict View.read budget)
    return ⟨name, space, columns, views⟩

def Catalog.read : Reader Catalog :=
  Reader.record ["tables"] fun budget fs => do
    let tables ← fs.required "tables" (Reader.dict Table.read budget)
    return ⟨tables⟩

def Catalog.ofJson? (text : String) : Option Catalog :=
  (Document.ofJson? text).bind (Catalog.read Reader.maxNesting)

end SqlCatalog
