-- SUMMARY: Tables and the catalog that holds them.
import SqlCatalog.Column
import SqlCatalog.Dict
import SqlCatalog.View

/-!
# Catalogs

A catalog holds tables by physical name; a table holds columns and views by
name. In a catalog made from declarations the keys are the names of what they
hold; in one that was read back nothing checks that, so look-ups go by key.
-/

namespace SqlCatalog

structure Table where
  name : String
  space : String
  columns : Dict Column
  views : Dict View
deriving DecidableEq

namespace Table

def column? (t : Table) (name : String) : Option Column := t.columns.find? name

def view? (t : Table) (name : String) : Option View := t.views.find? name

def columnNames (t : Table) : List String := t.columns.keys

/-- The columns other than the primary key. -/
def dataColumns (t : Table) : List Column :=
  t.columns.values.filter fun c => c.type ≠ .primaryKey

end Table

structure Catalog where
  tables : Dict Table
deriving DecidableEq

namespace Catalog

def empty : Catalog := ⟨.empty⟩

instance : Inhabited Catalog := ⟨empty⟩

def table? (c : Catalog) (name : String) : Option Table := c.tables.find? name

def contains (c : Catalog) (name : String) : Bool := c.tables.contains name

def view? (c : Catalog) (table view : String) : Option View :=
  (c.table? table).bind fun t => t.view? view

def tableNames (c : Catalog) : List String := c.tables.keys

end Catalog

end SqlCatalog
