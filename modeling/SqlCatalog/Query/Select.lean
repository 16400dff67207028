-- SUMMARY: SELECT statements for a view of a table.
import SqlCatalog.Query.Where
import SqlCatalog.View

/-!
# SELECT statements

The columns of a view, restricted and ordered by a query.
-/

namespace SqlCatalog

/-- SQL text with its bound values in order. -/
structure Statement where
  sql : String
  args : List Json.Value

namespace Statement

/-- A clause led by its keyword, or nothing when it is empty. -/
def clause (keyword text : String) : String := if text = "" then "" else keyword ++ text

def select (table : String) (view : View) (q : Query) : Except QueryError Statement := do
  let compiled ← q.compileWhere 1
  return {
    sql := "SELECT " ++ Sql.columnList view.columnNames ++ " FROM " ++ Sql.identifier table ++
      clause " WHERE " compiled.sql ++ clause " ORDER BY " (Sql.orderList q.orders) ++ ";"
    args := compiled.args }

def toJson (s : Statement) : Json.Value :=
  .object [("sql", .string s.sql), ("args", .array s.args)]

end Statement

end SqlCatalog
