-- SUMMARY: Changes to the layout of one table, and the DDL statement of each.
import SqlCatalog.Error
import SqlCatalog.Sql.Clause
import SqlCatalog.Sql.Storage

/-!
# Changes to a table

Each change is one statement. A table starts with its primary key column only;
every other column is added, and has a default so that existing rows get one.
-/

namespace SqlCatalog.Sql

inductive TableChange where
  | createTable (table : String)
  | addColumn (table column : String) (type : ColumnType)
  | dropColumn (table column : String)
  | createIndex (table column : String)
  | dropIndex (table column : String)
  | createUnique (table column : String)
  | dropUnique (table column : String)
deriving DecidableEq, Repr

namespace TableChange

def render : TableChange → String
  | .createTable table =>
    "CREATE TABLE IF NOT EXISTS " ++ identifier table ++ " (" ++ identifier idColumn ++ " " ++
      (storage .primaryKey).type ++ " NOT NULL PRIMARY KEY);"
  | .addColumn table column type =>
    "ALTER TABLE " ++ identifier table ++ " ADD COLUMN " ++ identifier column ++ " " ++
      (storage type).type ++ " NOT NULL DEFAULT " ++ (storage type).default ++ ";"
  | .dropColumn table column =>
    "ALTER TABLE " ++ identifier table ++ " DROP COLUMN " ++ identifier column ++ ";"
  | .createIndex table column =>
    "CREATE INDEX " ++ identifier (indexName table column) ++ " ON " ++ identifier table ++
      " (" ++ identifier column ++ ");"
  | .dropIndex table column => "DROP INDEX " ++ identifier (indexName table column) ++ ";"
  | .createUnique table column =>
    "ALTER TABLE " ++ identifier table ++ " ADD CONSTRAINT " ++
      identifier (uniqueName table column) ++ " UNIQUE (" ++ identifier column ++ ");"
  | .dropUnique table column =>
    "ALTER TABLE " ++ identifier table ++ " DROP CONSTRAINT " ++
      identifier (uniqueName table column) ++ ";"

end TableChange

/-! ## Columns by type tag -/

/-- No column type has the given tag. -/
structure UnsupportedType where
  table : String
  column : String
  tag : String
deriving DecidableEq, Repr

def UnsupportedType.diagnosis (e : UnsupportedType) : Diagnosis :=
  .plain "E0300" ("unsupported column type " ++ Diagnosis.quote e.tag ++ " for " ++ e.table ++
    "." ++ e.column)

/-- Add a column whose type is given by its tag. -/
def TableChange.addTagged (table column tag : String) : Except UnsupportedType TableChange :=
  match ColumnType.ofTag? tag with
  | some type => .ok (.addColumn table column type)
  | none => .error ⟨table, column, tag⟩

end SqlCatalog.Sql
