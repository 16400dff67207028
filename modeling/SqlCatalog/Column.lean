-- SUMMARY: Columns of a table and what queries may do with them.
import SqlCatalog.ColumnType
import SqlCatalog.Operator
import SqlCatalog.Sql.Storage

/-!
# Columns

A column has a type, flags, and the set of operators that queries may apply to
it. A column of a link type names the table it links to.
-/

namespace SqlCatalog

structure Column where
  name : String
  type : ColumnType
  queryable : OperatorSet
  unique : Bool
  indexed : Bool
  orderable : Bool
  required : Bool
  linkedTable : Option String
deriving DecidableEq

namespace Column

def new (name : String) (type : ColumnType) : Column :=
  ⟨name, type, .empty, false, false, false, false, none⟩

def withQueryable (c : Column) (ops : List Operator) : Column :=
  { c with queryable := c.queryable.union ops }

def asUnique (c : Column) : Column := { c with unique := true }

def asIndexed (c : Column) : Column := { c with indexed := true }

def asOrderable (c : Column) : Column := { c with orderable := true }

def asRequired (c : Column) : Column := { c with required := true }

def linkedTo (c : Column) (table : String) : Column := { c with linkedTable := some table }

/-- The primary key every table has. -/
def primaryKey : Column :=
  (((new Sql.idColumn .primaryKey).withQueryable [.eq, .isIn, .notIn]).asUnique).asRequired

def allows (c : Column) (op : Operator) : Bool := c.queryable.contains op

@[simp] theorem allows_new (name : String) (type : ColumnType) (op : Operator) :
    (new name type).allows op = false := by
  cases op <;> rfl

@[simp] theorem allows_primaryKey (op : Operator) :
    primaryKey.allows op = [Operator.eq, .isIn, .notIn].contains op := by
  cases op <;> rfl

end Column

end SqlCatalog
