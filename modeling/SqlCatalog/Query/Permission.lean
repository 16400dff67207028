-- SUMMARY: Checking a query against what the tables of a catalog permit.
import SqlCatalog.Catalog
import SqlCatalog.Query
import SqlCatalog.Error

/-!
# Permissions

A query may use the columns of its table with the operators they allow, and
order by columns that are orderable. A child query is held to the same rules on
the table it names. The first violation is reported: the predicates of a level,
and everything below them, come before that level's orderings.
-/

namespace SqlCatalog

namespace Catalog

def lookup (c : Catalog) (table : String) : Except QueryError Table :=
  match c.table? table with
  | some t => .ok t
  | none => .error (.unknownTable table)

/-- A table and one of its views. -/
def resolveView (c : Catalog) (table view : String) : Except QueryError (Table × View) := do
  let t ← c.lookup table
  match t.view? view with
  | some v => return (t, v)
  | none => throw (.unknownView table view)

end Catalog

namespace Table

def lookupColumn (t : Table) (column : String) : Except QueryError Column :=
  match t.column? column with
  | some c => .ok c
  | none => .error (.unknownColumn t.name column)

/-- A comparison on the table's own columns. -/
def checkComparison (t : Table) (p : Predicate) : Except QueryError Unit :=
  if p.child.isSome then .error (.unexpectedChild p.column p.operator)
  else do
    let column ← t.lookupColumn p.column
    if column.allows p.operator then return ()
    else throw (.operatorNotAllowed t.name p.column p.operator)

def checkOrders (t : Table) : List SortKey → Except QueryError Unit
  | [] => .ok ()
  | key :: rest => do
    let column ← t.lookupColumn key.column
    if column.orderable then t.checkOrders rest
    else throw (.notOrderable t.name key.column)

end Table

namespace Query

/-- A child predicate at a place where `child` checks queries one level down; `none` when no
child query may stand there. -/
def checkRelated (c : Catalog) (child : Option (Table → Query → Except QueryError Unit))
    (p : Predicate) : Except QueryError Unit :=
  match child with
  | none => .error .nestingTooDeep
  | some check => do
    let t ← c.lookup p.column
    match p.child with
    | none => throw (.missingChild p.column)
    | some q => if q.isEmpty then throw (.emptyChild p.column) else check t q

def checkPredicates (c : Catalog) (child : Option (Table → Query → Except QueryError Unit))
    (t : Table) : List Predicate → Except QueryError Unit
  | [] => .ok ()
  | p :: ps => do
    if p.operator = .child then checkRelated c child p else t.checkComparison p
    checkPredicates c child t ps

def checkLevel (c : Catalog) (child : Option (Table → Query → Except QueryError Unit))
    (t : Table) (q : Query) : Except QueryError Unit := do
  checkPredicates c child t q.predicates
  t.checkOrders q.orders

/-- Check a query in which child queries may nest `levels` deep. -/
def checkLevels (c : Catalog) : Nat → Table → Query → Except QueryError Unit
  | 0 => checkLevel c none
  | levels + 1 => checkLevel c (some (checkLevels c levels))

/-- Check a query on a table of the catalog. -/
def check (c : Catalog) (table : String) (q : Query) : Except QueryError Unit := do
  let t ← c.lookup table
  checkLevels c maxNesting t q

end Query

end SqlCatalog
