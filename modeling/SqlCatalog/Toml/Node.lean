-- SUMMARY: TOML tables under construction, and the rules for extending them.
import SqlCatalog.Dict
import SqlCatalog.Toml.Value

/-!
# TOML tables under construction

How a table came to be decides what may still be added to it. A table opened by
its own header is closed to dotted keys and to a second header; one that only
appeared as the parent of a header may still get a header of its own; one that
appeared inside a dotted key may get more dotted keys. Values, inline tables
among them, are never extended.
-/

namespace SqlCatalog.Toml

inductive Origin where
  | header
  | parent
  | dotted
deriving DecidableEq

inductive Node where
  | value (value : Value)
  | table (origin : Origin) (entries : List (String × Node))
  | tables (items : List Node)

namespace Node

instance : Inhabited Node := ⟨.value default⟩

/-- Extend the last table of an array of tables. -/
def mapLast (f : List (String × Node) → Option (List (String × Node))) :
    List Node → Option (List Node)
  | [] => none
  | [.table origin entries] => (f entries).map fun entries => [.table origin entries]
  | [_] => none
  | n :: rest => (mapLast f rest).map (n :: ·)

/-! ## Keys -/

/-- Add a value under a dotted key: `path` leads to its table, `key` is its last part. -/
def insert (path : List String) (key : String) (v : Value) (entries : List (String × Node)) :
    Option (List (String × Node)) :=
  match path with
  | [] =>
    match Entries.find? key entries with
    | some _ => none
    | none => some (entries ++ [(key, .value v)])
  | p :: rest =>
    match Entries.find? p entries with
    | none =>
      (insert rest key v []).map fun inner => entries ++ [(p, .table .dotted inner)]
    | some (.value _) => none
    | some (.table origin inner) =>
      if origin = .header ∨ (rest = [] ∧ origin ≠ .dotted) then none
      else (insert rest key v inner).map fun inner => Entries.put p (.table origin inner) entries
    | some (.tables items) =>
      if rest = [] then none
      else (mapLast (insert rest key v) items).map fun items => Entries.put p (.tables items) entries

/-! ## Headers -/

/-- Apply `place` to the last key of a header, in the table that the other keys lead to. -/
def under (place : String → List (String × Node) → Option (List (String × Node))) :
    List String → List (String × Node) → Option (List (String × Node))
  | [], _ => none
  | [key], entries => place key entries
  | p :: rest, entries =>
    match Entries.find? p entries with
    | none => (under place rest []).map fun inner => entries ++ [(p, .table .parent inner)]
    | some (.value _) => none
    | some (.table origin inner) =>
      (under place rest inner).map fun inner => Entries.put p (.table origin inner) entries
    | some (.tables items) =>
      (mapLast (under place rest) items).map fun items => Entries.put p (.tables items) entries

/-- Place the table of a header: a new one, or one that so far was only a parent. -/
def placeTable (fill : List (String × Node) → Option (List (String × Node))) (key : String)
    (entries : List (String × Node)) : Option (List (String × Node)) :=
  match Entries.find? key entries with
  | none => (fill []).map fun inner => entries ++ [(key, .table .header inner)]
  | some (.table .parent inner) =>
    (fill inner).map fun inner => Entries.remove key entries ++ [(key, .table .header inner)]
  | some _ => none

/-- Place one more table of an array of tables. -/
def placeItem (fill : List (String × Node) → Option (List (String × Node))) (key : String)
    (entries : List (String × Node)) : Option (List (String × Node)) :=
  (fill []).bind fun inner =>
    match Entries.find? key entries with
    | none => some (entries ++ [(key, .tables [.table .header inner])])
    | some (.tables items) =>
      some (Entries.put key (.tables (items ++ [.table .header inner])) entries)
    | some _ => none

/-! ## Finished tables -/

mutual

def toValue : Node → Value
  | .value v => v
  | .table _ entries => .table (entryValues entries)
  | .tables items => .array (itemValues items)

def entryValues : List (String × Node) → List (String × Value)
  | [] => []
  | (k, n) :: rest => (k, toValue n) :: entryValues rest

def itemValues : List Node → List Value
  | [] => []
  | n :: rest => toValue n :: itemValues rest

end

end Node

end SqlCatalog.Toml
