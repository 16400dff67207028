-- SUMMARY: Inserting, updating and deleting one row.
import SqlCatalog.Sql.Clause
import SqlCatalog.Sql.Placeholder
import SqlCatalog.Sql.Storage

/-!
# Changes to a row

The columns are bound in the order in which they are listed; an update and a
delete find their row by the primary key, bound last.
-/

namespace SqlCatalog.Sql

inductive RowChange where
  | insert (table : String) (columns : List String)
  | update (table : String) (columns : List String)
  | delete (table : String)
deriving DecidableEq, Repr

namespace RowChange

def assignments (columns : List String) : List String :=
  (columns.zip (Placeholder.tokens 1 columns.length)).map fun (column, token) =>
    identifier column ++ " = " ++ token

/-- An update of no column still has to set something: the primary key to itself. -/
def setList (columns : List String) : String :=
  if columns = [] then identifier idColumn ++ " = " ++ identifier idColumn
  else ",".intercalate (assignments columns)

def render : RowChange → String
  | .insert table columns =>
    if columns = [] then "INSERT INTO " ++ identifier table ++ " DEFAULT VALUES;"
    else
      "INSERT INTO " ++ identifier table ++ " (" ++ columnList columns ++ ") VALUES (" ++
        ",".intercalate (Placeholder.tokens 1 columns.length) ++ ");"
  | .update table columns =>
    "UPDATE " ++ identifier table ++ " SET " ++ setList columns ++ " WHERE " ++
      identifier idColumn ++ " = " ++
      Placeholder.token (Placeholder.advance 1 columns.length) ++ ";"
  | .delete table =>
    "DELETE FROM " ++ identifier table ++ " WHERE " ++ identifier idColumn ++ " = " ++
      Placeholder.token 1 ++ ";"

end RowChange

end SqlCatalog.Sql
