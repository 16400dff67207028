-- SUMMARY: Queries as JSON: the text they are written to and read from.
import SqlCatalog.Document.Value
import SqlCatalog.Query

/-!
# Queries as JSON

A query is an object with `where` and `order`, each left out or empty when there
is nothing to say. A predicate leaves out a null value and a missing child.
-/

namespace SqlCatalog

/-! ## Writing -/

def SortKey.toJson (o : SortKey) : Json.Value :=
  .object [("column", .string o.column), ("asc", .bool o.ascending)]

mutual

def Query.toJson : Query → Json.Value
  | ⟨predicates, orders⟩ =>
    .object [("where", .array (Predicate.allToJson predicates)),
      ("order", .array (orders.map SortKey.toJson))]

def Predicate.allToJson : List Predicate → List Json.Value
  | [] => []
  | p :: ps => p.toJson :: Predicate.allToJson ps

def Predicate.toJson : Predicate → Json.Value
  | ⟨operator, column, value, connective, child⟩ =>
    .object ([("op", .string operator.symbol), ("column", .string column)] ++
      (if value.isNull then [] else [("value", value)]) ++
      [("concat", .string connective.symbol)] ++ Predicate.childToJson child)

def Predicate.childToJson : Option Query → List (String × Json.Value)
  | none => []
  | some q => [("query", q.toJson)]

end

/-! ## Reading -/

def SortKey.read : Reader SortKey :=
  Reader.record ["column", "asc"] fun budget fs => do
    let column ← fs.required "column" (Reader.string budget)
    let ascending ← fs.orElse "asc" true (Reader.bool budget)
    return ⟨column, ascending⟩

def Predicate.fieldNames : List String := ["op", "column", "value", "concat", "query"]

/-- Read a predicate, given how to read a child query inside it. -/
def Predicate.readWith (child : Document → Option Query) : Reader Predicate :=
  Reader.record fieldNames fun budget fs => do
    let operator ← fs.required "op" (Reader.keyword Operator.symbols budget)
    let column ← fs.required "column" (Reader.string budget)
    let value ← fs.orElse "value" .null (Json.Value.read budget)
    let connective ← fs.orElse "concat" .and (Reader.keyword Connective.symbols budget)
    let child ← fs.orElse "query" none (Reader.optional (fun _ => child) budget)
    return ⟨operator, column, value, connective, child⟩

/-- Read a query, given how to read the child queries inside it. -/
def Query.readWith (child : Document → Option Query) : Reader Query :=
  Reader.record ["where", "order"] fun budget fs => do
    let predicates ← fs.orElse "where" [] (Reader.list (Predicate.readWith child) budget)
    let orders ← fs.orElse "order" [] (Reader.list SortKey.read budget)
    return ⟨predicates, orders⟩

/-- A child query stands three brackets deeper than the query it is in. -/
def Query.read : Reader Query
  | budget + 3, d => Query.readWith (Query.read budget) (budget + 3) d
  | budget, d => Query.readWith (fun _ => none) budget d

def Query.ofJson? (text : String) : Option Query :=
  (Document.ofJson? text).bind (Query.read Reader.maxNesting)

end SqlCatalog
