-- SUMMARY: Table declarations as users write them.
import SqlCatalog.Dict
import SqlCatalog.Document.Value
import SqlCatalog.Toml.Reading

/-!
# Declarations

A declaration describes one table: its columns with their types, operators and
flags, and its views with their columns and cache lifetime. It is written as
JSON or TOML. The header is the part that tells a declaration from other files.
-/

namespace SqlCatalog

structure ColumnDeclaration where
  type : String
  query : List String
  unique : Bool
  index : Bool
  order : Bool
  required : Bool
deriving DecidableEq, Repr

structure ViewDeclaration where
  cache : String
  columns : List String
deriving DecidableEq, Repr

structure Declaration where
  version : Option String
  table : String
  columns : Dict ColumnDeclaration
  views : Dict ViewDeclaration
deriving DecidableEq

structure Header where
  version : Option String
deriving DecidableEq, Repr

/-- The declaration version this library reads. -/
def Declaration.currentVersion : String := "rt.db.v1"

def Header.isDeclaration (h : Header) : Bool := h.version = some Declaration.currentVersion

/-! ## Reading -/

def ColumnDeclaration.read : Reader ColumnDeclaration :=
  Reader.record ["type", "query", "unique", "index", "order", "required"] fun budget fs => do
    let type ← fs.required "type" (Reader.string budget)
    let query ← fs.orElse "query" [] (Reader.list Reader.string budget)
    let unique ← fs.orElse "unique" false (Reader.bool budget)
    let index ← fs.orElse "index" false (Reader.bool budget)
    let order ← fs.orElse "order" false (Reader.bool budget)
    let required ← fs.orElse "required" false (Reader.bool budget)
    return ⟨type, query, unique, index, order, required⟩

def ViewDeclaration.read : Reader ViewDeclaration :=
  Reader.record ["cache", "columns"] fun budget fs => do
    let cache ← fs.orElse "cache" "" (Reader.string budget)
    let columns ← fs.orElse "columns" [] (Reader.list Reader.string budget)
    return ⟨cache, columns⟩

def Declaration.read : Reader Declaration :=
  Reader.record ["version", "table", "columns", "views"] fun budget fs => do
    let version ← fs.orElse "version" none (Reader.optional Reader.string budget)
    let table ← fs.required "table" (Reader.string budget)
    let columns ← fs.orElse "columns" .empty (Reader.dict ColumnDeclaration.read budget)
    let views ← fs.orElse "views" .empty (Reader.dict ViewDeclaration.read budget)
    return ⟨version, table, columns, views⟩

def Header.read : Reader Header :=
  Reader.record ["version"] fun budget fs => do
    let version ← fs.orElse "version" none (Reader.optional Reader.string budget)
    return ⟨version⟩

def Declaration.ofJson? (text : String) : Option Declaration :=
  (Document.ofJson? text).bind (Declaration.read Reader.maxNesting)

def Declaration.ofToml? (text : String) : Option Declaration :=
  (Document.ofToml? text).bind (Declaration.read Reader.maxNesting)

def Header.ofJson? (text : String) : Option Header :=
  (Document.ofJson? text).bind (Header.read Reader.maxNesting)

def Header.ofToml? (text : String) : Option Header :=
  (Document.ofToml? text).bind (Header.read Reader.maxNesting)

/-! ## Writing -/

def ColumnDeclaration.toJson (c : ColumnDeclaration) : Json.Value :=
  .object [
    ("type", .string c.type),
    ("query", .strings c.query),
    ("unique", .bool c.unique),
    ("index", .bool c.index),
    ("order", .bool c.order),
    ("required", .bool c.required)]

def ViewDeclaration.toJson (v : ViewDeclaration) : Json.Value :=
  .object [("cache", .string v.cache), ("columns", .strings v.columns)]

def Declaration.toJson (d : Declaration) : Json.Value :=
  .object [
    ("version", .optional d.version),
    ("table", .string d.table),
    ("columns", .ofDict ColumnDeclaration.toJson d.columns),
    ("views", .ofDict ViewDeclaration.toJson d.views)]

end SqlCatalog
