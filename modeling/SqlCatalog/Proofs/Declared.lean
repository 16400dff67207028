-- SUMMARY: What holds of every table that was declared: columns under their names, one primary key.
import SqlCatalog.Proofs.Compiled
import SqlCatalog.Schema.Draft

/-!
# Declared tables

A draft grows by one declaration at a time. In every table it can come to hold,
each column is kept under its own name, and the primary key type belongs to the
column `id` and to no other.
-/

namespace SqlCatalog

/-- Columns are kept under their names; the primary key is the column `id`. -/
def Keyed (columns : Dict Column) : Prop :=
  ∀ name column, columns.find? name = some column →
    column.name = name ∧ (column.type = .primaryKey ↔ name = Sql.idColumn)

theorem Keyed.empty : Keyed .empty := fun _ _ h => nomatch h

theorem Keyed.insert {columns : Dict Column} (h : Keyed columns) {name : String} {column : Column}
    (hname : column.name = name) (htype : column.type = .primaryKey ↔ name = Sql.idColumn) :
    Keyed (columns.insert name column) := by
  intro other found hfound
  rw [Dict.find?_insert] at hfound
  by_cases heq : other = name
  · rw [if_pos heq] at hfound
    cases hfound
    exact ⟨hname.trans heq.symm, htype.trans (by rw [heq])⟩
  · rw [if_neg heq] at hfound
    exact h other found hfound

/-! ## Columns and tables -/

theorem ColumnDeclaration.base_keyed {d : ColumnDeclaration} {table name : String} {c : Column}
    (h : d.base table name = .ok c) :
    c.name = name ∧ (c.type = .primaryKey ↔ name = Sql.idColumn) := by
  unfold base at h
  split at h
  · cases h
  · rename_i type linked _
    by_cases hid : name = Sql.idColumn
    · by_cases hkey : type = .primaryKey
      · simp only [hid, hkey, if_true, Except.ok.injEq] at h
        subst h
        exact ⟨hid.symm, by simp [hid, Column.primaryKey, Column.new, Column.withQueryable,
          Column.asUnique, Column.asRequired]⟩
      · simp [hid, hkey] at h
    · by_cases hkey : type = .primaryKey
      · simp [hid, hkey] at h
      · simp only [hid, hkey, if_false, Except.ok.injEq] at h
        subst h
        simp [Column.new, hid, hkey]

theorem ColumnDeclaration.build_keyed {d : ColumnDeclaration} {table name : String} {c : Column}
    (h : d.build table name = .ok c) :
    c.name = name ∧ (c.type = .primaryKey ↔ name = Sql.idColumn) := by
  simp only [build, bind_eq_ok, pure, Except.pure, Except.ok.injEq] at h
  obtain ⟨column, hbase, ops, -, rfl⟩ := h
  have hcolumn := base_keyed hbase
  exact hcolumn

namespace Declaration

theorem buildColumns_keyed {table : String} {built columns : Dict Column}
    {declared : List (String × ColumnDeclaration)} (hbuilt : Keyed built)
    (h : buildColumns table built declared = .ok columns) : Keyed columns := by
  induction declared generalizing built with
  | nil =>
    cases h
    exact hbuilt
  | cons entry rest ih =>
    obtain ⟨name, d⟩ := entry
    obtain ⟨column, hcolumn, hrest⟩ := bind_eq_ok.1 h
    obtain ⟨hname, htype⟩ := ColumnDeclaration.build_keyed hcolumn
    exact ih (hbuilt.insert hname htype) hrest

theorem initialColumns_keyed (d : Declaration) : Keyed d.initialColumns := by
  unfold initialColumns
  split
  · exact Keyed.empty
  · exact Keyed.empty.insert rfl (by decide)

theorem build_keyed {d : Declaration} {t : Table} (h : d.build = .ok t) : Keyed t.columns := by
  unfold build at h
  dsimp only at h
  split at h
  · cases h
  · simp only [bind_eq_ok] at h
    obtain ⟨-, -, columns, hcolumns, views, -, ht⟩ := h
    cases ht
    exact buildColumns_keyed d.initialColumns_keyed hcolumns

end Declaration

/-! ## Drafts -/

namespace Draft

/-- The drafts that adding declarations leads to. -/
inductive Reachable : Draft → Prop
  | empty : Reachable .empty
  | add {draft grown : Draft} {d : Declaration} {table : Table} :
    Reachable draft → draft.add d = .ok (table, grown) → Reachable grown

/-- A declaration adds its table and changes no other. -/
theorem add_eq_ok {draft grown : Draft} {d : Declaration} {table : Table}
    (h : draft.add d = .ok (table, grown)) :
    d.build = .ok table ∧ grown = ⟨draft.tables.insert table.name table⟩ := by
  unfold add at h
  obtain ⟨built, hbuilt, hrest⟩ := bind_eq_ok.1 h
  split at hrest
  · cases hrest
  · cases hrest
    exact ⟨hbuilt, rfl⟩

theorem Reachable.keyed {draft : Draft} (h : draft.Reachable) {table : Table}
    (ht : table ∈ draft.tables.values) : Keyed table.columns := by
  obtain ⟨key, hfind⟩ := Dict.mem_values.1 ht
  induction h with
  | empty => cases hfind
  | add _ hadd ih =>
    obtain ⟨hbuild, rfl⟩ := add_eq_ok hadd
    rw [Dict.find?_insert] at hfind
    split at hfind
    · cases hfind
      exact Declaration.build_keyed hbuild
    · exact ih (Dict.mem_values.2 ⟨key, hfind⟩) hfind

end Draft

end SqlCatalog
