-- SUMMARY: Plans that create a table or move it from one form to the next.
import SqlCatalog.Catalog
import SqlCatalog.Sql.TableChange

/-!
# Migrations

A plan lists the changes that take a table from its previous form to the next,
or create it. Columns that are gone are dropped first; then each column of the
next form is added, replaced when its type differs, or has its constraint and
index adjusted. The primary key comes with the table and never changes.
-/

namespace SqlCatalog.Migration

open Sql (TableChange)

/-- Add a column together with its constraint and index. -/
def addColumn (table : String) (c : Column) : List TableChange :=
  .addColumn table c.name c.type ::
    ((if c.unique then [.createUnique table c.name] else []) ++
      (if c.indexed then [.createIndex table c.name] else []))

/-- Drop a column after its constraint and index. -/
def dropColumn (table : String) (c : Column) : List TableChange :=
  (if c.unique then [.dropUnique table c.name] else []) ++
    (if c.indexed then [.dropIndex table c.name] else []) ++ [.dropColumn table c.name]

def adjustUnique (table : String) (old new : Column) : List TableChange :=
  if old.unique = new.unique then []
  else if new.unique then [.createUnique table new.name]
  else [.dropUnique table new.name]

def adjustIndex (table : String) (old new : Column) : List TableChange :=
  if old.indexed = new.indexed then []
  else if new.indexed then [.createIndex table new.name]
  else [.dropIndex table new.name]

/-- The changes for one column of the next form. -/
def changeColumn (table : String) (old? : Option Column) (new : Column) : List TableChange :=
  match old? with
  | none => addColumn table new
  | some old =>
    if old.type = new.type then adjustUnique table old new ++ adjustIndex table old new
    else dropColumn table old ++ addColumn table new

def create (next : Table) : List TableChange :=
  .createTable next.name :: next.dataColumns.flatMap (addColumn next.name)

/-- The columns of the previous form that the next one lacks. -/
def removed (previous next : Table) : List Column :=
  previous.dataColumns.filter fun c => (next.column? c.name).isNone

def change (previous next : Table) : List TableChange :=
  (removed previous next).flatMap (dropColumn next.name) ++
    next.dataColumns.flatMap fun c => changeColumn next.name (previous.column? c.name) c

/-- The changes that lead from `previous` (or nothing) to `next`. -/
def plan (previous : Option Table) (next : Table) : List TableChange :=
  match previous with
  | none => create next
  | some previous => change previous next

/-- The plan as SQL statements. -/
def statements (previous : Option Table) (next : Table) : List String :=
  (plan previous next).map TableChange.render

end SqlCatalog.Migration
