-- SUMMARY: Queries: predicates with connectives and child queries, and orderings.
import SqlCatalog.Json.Value
import SqlCatalog.Operator

/-!
# Queries

A query is a list of predicates and a list of orderings. A predicate compares a
column with a value. A child predicate instead puts conditions on a related
table: its column slot names that table, and it carries a query of its own.
Nothing here forbids a predicate of the wrong shape; compiling does.
-/

namespace SqlCatalog

/-- One sort column. -/
structure SortKey where
  column : String
  ascending : Bool
deriving DecidableEq, Repr

mutual

structure Predicate where
  operator : Operator
  column : String
  value : Json.Value
  connective : Connective
  child : Option Query

structure Query where
  predicates : List Predicate
  orders : List SortKey

end

namespace Predicate

/-- Compare a column with a value. -/
def compare (operator : Operator) (column : String) (value : Json.Value) : Predicate :=
  ⟨operator, column, value, .and, none⟩

/-- Put conditions on a related table. -/
def related (table : String) (query : Query) : Predicate :=
  ⟨.child, table, .null, .and, some query⟩

def withConnective (p : Predicate) (c : Connective) : Predicate := { p with connective := c }

def withChild (p : Predicate) (query : Query) : Predicate := { p with child := some query }

end Predicate

namespace Query

def empty : Query := ⟨[], []⟩

instance : Inhabited Query := ⟨empty⟩

/-- Whether the query restricts nothing. -/
def isEmpty (q : Query) : Bool := q.predicates.isEmpty

def push (q : Query) (p : Predicate) : Query := { q with predicates := q.predicates ++ [p] }

def and (q : Query) (operator : Operator) (column : String) (value : Json.Value) : Query :=
  q.push (.compare operator column value)

def or (q : Query) (operator : Operator) (column : String) (value : Json.Value) : Query :=
  q.push ((Predicate.compare operator column value).withConnective .or)

def andRelated (q : Query) (table : String) (child : Query) : Query :=
  q.push (.related table child)

def orRelated (q : Query) (table : String) (child : Query) : Query :=
  q.push ((Predicate.related table child).withConnective .or)

def orderBy (q : Query) (column : String) (ascending : Bool) : Query :=
  { q with orders := q.orders ++ [⟨column, ascending⟩] }

end Query

end SqlCatalog
