-- SUMMARY: The physical layout of a table, and what DDL operations do to it.
import Mathlib.Data.Finmap
import SqlCatalog.Catalog
import SqlCatalog.Proofs.Ddl

/-!
# Layouts

A table as a database keeps it: a primary key, columns by name, and uniqueness
constraints and indexes by name, each on one column. Operations fail where a
database would refuse them, and statements are run one after another until one
fails.
-/

namespace SqlCatalog

open Sql

structure Layout where
  table : String
  key : String
  keyType : List Token
  columns : Finmap fun _ : String => Stored
  uniques : Finmap fun _ : String => String
  indexes : Finmap fun _ : String => String
deriving DecidableEq

/-- Why a database refuses a statement. -/
inductive Fault where
  | unreadable (text : String)
  | missingTable
  | otherTable (table : String)
  | columnExists (column : String)
  | columnMissing (column : String)
  | columnInUse (column : String)
  | nameTaken (name : String)
  | constraintMissing (name : String)
  | indexMissing (name : String)
deriving DecidableEq, Repr

namespace Layout

/-! ## Operations -/

def HasColumn (L : Layout) (column : String) : Prop := column = L.key ∨ column ∈ L.columns

instance (L : Layout) (column : String) : Decidable (L.HasColumn column) :=
  inferInstanceAs (Decidable (_ ∨ _))

/-- Constraints and indexes share their names. -/
def Taken (L : Layout) (name : String) : Prop := name ∈ L.uniques ∨ name ∈ L.indexes

instance (L : Layout) (name : String) : Decidable (L.Taken name) :=
  inferInstanceAs (Decidable (_ ∨ _))

/-- A constraint or an index is on the column. -/
def InUse (L : Layout) (column : String) : Prop :=
  (∃ name ∈ L.uniques.keys, L.uniques.lookup name = some column) ∨
    ∃ name ∈ L.indexes.keys, L.indexes.lookup name = some column

instance (L : Layout) (column : String) : Decidable (L.InUse column) :=
  inferInstanceAs (Decidable (_ ∨ _))

def addColumn (L : Layout) (column : String) (stored : Stored) : Except Fault Layout :=
  if L.HasColumn column then .error (.columnExists column)
  else .ok { L with columns := L.columns.insert column stored }

def dropColumn (L : Layout) (column : String) : Except Fault Layout :=
  if column ∉ L.columns then .error (.columnMissing column)
  else if L.InUse column then .error (.columnInUse column)
  else .ok { L with columns := L.columns.erase column }

def addUnique (L : Layout) (name column : String) : Except Fault Layout :=
  if ¬ L.HasColumn column then .error (.columnMissing column)
  else if L.Taken name then .error (.nameTaken name)
  else .ok { L with uniques := L.uniques.insert name column }

def dropConstraint (L : Layout) (name : String) : Except Fault Layout :=
  if name ∉ L.uniques then .error (.constraintMissing name)
  else .ok { L with uniques := L.uniques.erase name }

def createIndex (L : Layout) (name column : String) : Except Fault Layout :=
  if ¬ L.HasColumn column then .error (.columnMissing column)
  else if L.Taken name then .error (.nameTaken name)
  else .ok { L with indexes := L.indexes.insert name column }

def dropIndex (L : Layout) (name : String) : Except Fault Layout :=
  if name ∉ L.indexes then .error (.indexMissing name)
  else .ok { L with indexes := L.indexes.erase name }

/-- The layout, if it is that of the table. -/
def expect (L : Layout) (table : String) : Except Fault Layout :=
  if L.table = table then .ok L else .error (.otherTable table)

end Layout

/-! ## Running statements -/

/-- Run an operation on a table that exists. -/
def Sql.Ddl.alter (L : Layout) : Ddl → Except Fault Layout
  -- the table exists already, so there is nothing to create
  | .createTable table _ _ => L.expect table
  | .addColumn table column stored => do (← L.expect table).addColumn column stored
  | .dropColumn table column => do (← L.expect table).dropColumn column
  | .addUnique table name column => do (← L.expect table).addUnique name column
  | .dropConstraint table name => do (← L.expect table).dropConstraint name
  | .createIndex name table column => do (← L.expect table).createIndex name column
  | .dropIndex name => L.dropIndex name

/-- Run an operation on a table that may not exist yet. -/
def Sql.Ddl.run : Option Layout → Ddl → Except Fault Layout
  | some L, operation => operation.alter L
  | none, .createTable table key keyType => .ok ⟨table, key, keyType, ∅, ∅, ∅⟩
  | none, _ => .error .missingTable

/-- Run statements in order; the first that fails ends it. -/
def execute (state : Option Layout) : List String → Except Fault (Option Layout)
  | [] => .ok state
  | text :: rest =>
    match Ddl.ofText? text with
    | none => .error (.unreadable text)
    | some operation => do execute (some (← operation.run state)) rest

/-! ## The layout of a table -/

def Table.layout (t : Table) : Layout where
  table := t.name
  key := idColumn
  keyType := (storedAs .primaryKey).type
  columns := (t.dataColumns.map fun c =>
    (⟨c.name, storedAs c.type⟩ : (_ : String) × Stored)).toFinmap
  uniques := ((t.dataColumns.filter Column.unique).map fun c =>
    (⟨uniqueName t.name c.name, c.name⟩ : (_ : String) × String)).toFinmap
  indexes := ((t.dataColumns.filter Column.indexed).map fun c =>
    (⟨indexName t.name c.name, c.name⟩ : (_ : String) × String)).toFinmap

end SqlCatalog
