-- SUMMARY: Migration plans do what differs and nothing else, column by column.
import SqlCatalog.Proofs.Migration

/-!
# Minimality of migrations

A plan can be read column by column: what it does to a column depends on the
data columns of that name before and after, and on nothing else. So a column is
dropped or added only where it is gone, new or of another type. The constraint
and the index of a column that stays are touched only where the flag differs,
and the primary key is never touched.
-/

namespace SqlCatalog

open Sql

/-! ## Statements by what they do -/

namespace Sql

/-- The number of statements that spell an operation of the given kind. -/
def tally (kind : Ddl → Bool) (texts : List String) : Nat :=
  texts.countP fun text => (Ddl.ofText? text).any kind

namespace Ddl

def dropsColumn (table column : String) : Ddl → Bool
  | .dropColumn t c => t = table ∧ c = column
  | _ => false

def addsColumn (table column : String) : Ddl → Bool
  | .addColumn t c _ => t = table ∧ c = column
  | _ => false

/-- Adds or drops the uniqueness constraint of the column. -/
def togglesUnique (table column : String) : Ddl → Bool
  | .addUnique t name c => t = table ∧ name = uniqueName table column ∧ c = column
  | .dropConstraint t name => t = table ∧ name = uniqueName table column
  | _ => false

/-- Creates or drops the index of the column. -/
def togglesIndex (table column : String) : Ddl → Bool
  | .createIndex name t c => name = indexName table column ∧ t = table ∧ c = column
  | .dropIndex name => name = indexName table column
  | _ => false

/-- Does anything to the column. -/
def concerns (table column : String) (op : Ddl) : Bool :=
  op.dropsColumn table column || op.addsColumn table column ||
    op.togglesUnique table column || op.togglesIndex table column

end Ddl

namespace TableChange

/-- The change is one to the column of the table. -/
def isOn (table column : String) : TableChange → Bool
  | .createTable _ => false
  | .addColumn t c _ | .dropColumn t c | .createIndex t c | .dropIndex t c | .createUnique t c
  | .dropUnique t c => t = table ∧ c = column

variable {table column : String} {change : TableChange}

theorem concerns_operation (h : change.isOn table column) :
    change.operation.concerns table column = true := by
  cases change <;>
    simp_all [isOn, operation, Ddl.concerns, Ddl.dropsColumn, Ddl.addsColumn, Ddl.togglesUnique,
      Ddl.togglesIndex]

/-- A change to one column of the table concerns no other column of it. -/
theorem eq_of_concerns {other : String} (h : change.isOn table other)
    (hconcerns : change.operation.concerns table column = true) : other = column := by
  have hunique := @uniqueName_injective table other column
  have hindex := @indexName_injective table other column
  cases change <;>
    simp_all [isOn, operation, Ddl.concerns, Ddl.dropsColumn, Ddl.addsColumn, Ddl.togglesUnique,
      Ddl.togglesIndex]

end TableChange

end Sql

/-- One where the condition holds, and none otherwise. -/
def OnceIff (count : Nat) (condition : Prop) : Prop :=
  (condition → count = 1) ∧ (¬ condition → count = 0)

/-- The data column of the given name. -/
def Table.data? (t : Table) (name : String) : Option Column :=
  if name = idColumn then none else t.column? name

namespace Table

variable {t : Table} {name : String}

theorem data?_eq_some (h : Keyed t.columns) {c : Column} :
    t.data? name = some c ↔ c ∈ t.dataColumns ∧ c.name = name := by
  rw [mem_dataColumns h]
  unfold data?
  split
  · grind
  · rename_i hid
    constructor
    · intro hfind
      obtain ⟨rfl, -⟩ := h name c hfind
      exact ⟨⟨hid, hfind⟩, rfl⟩
    · rintro ⟨⟨-, hfind⟩, rfl⟩
      exact hfind

theorem name_of_data? (h : Keyed t.columns) : ∀ c ∈ t.data? name, c.name = name :=
  fun _ hc => ((data?_eq_some h).1 hc).2

theorem notMem_of_data?_eq_none (h : Keyed t.columns) (hnone : t.data? name = none) :
    name ∉ t.dataColumns.map Column.name := by
  intro hmem
  obtain ⟨c, hc, hname⟩ := List.mem_map.1 hmem
  rw [(data?_eq_some h).2 ⟨hc, hname⟩] at hnone
  cases hnone

end Table

/-! ## Plans by column -/

namespace Migration

/-- The changes to a column that was `old?` and becomes `new?`. -/
def columnChanges (table : String) (old? new? : Option Column) : List TableChange :=
  match new? with
  | some new => changeColumn table old? new
  | none => old?.elim [] (dropColumn table)

variable {table name : String} {old? new? : Option Column}

theorem mem_toggled {create drop change : TableChange} {old new : Bool}
    (h : change ∈ toggled create drop old new) : change = create ∨ change = drop := by
  cases old <;> cases new <;> simp_all [toggled]

theorem toggled_eq_nil {create drop : TableChange} {old new : Bool} :
    toggled create drop old new = [] ↔ old = new := by
  cases old <;> cases new <;> simp [toggled]

theorem isOn_unique {old new : Bool} {change : TableChange}
    (h : change ∈ toggled (.createUnique table name) (.dropUnique table name) old new) :
    change.isOn table name := by
  rcases mem_toggled h with rfl | rfl <;> simp [TableChange.isOn]

theorem isOn_index {old new : Bool} {change : TableChange}
    (h : change ∈ toggled (.createIndex table name) (.dropIndex table name) old new) :
    change.isOn table name := by
  rcases mem_toggled h with rfl | rfl <;> simp [TableChange.isOn]

theorem isOn_addColumn {c : Column} : ∀ change ∈ addColumn table c, change.isOn table c.name := by
  simp only [addColumn_eq, List.forall_mem_append, List.forall_mem_singleton]
  exact ⟨by simp [TableChange.isOn], fun _ => isOn_unique, fun _ => isOn_index⟩

theorem isOn_dropColumn {c : Column} : ∀ change ∈ dropColumn table c, change.isOn table c.name := by
  simp only [dropColumn_eq, List.forall_mem_append, List.forall_mem_singleton]
  exact ⟨⟨fun _ => isOn_unique, fun _ => isOn_index⟩, by simp [TableChange.isOn]⟩

theorem isOn_changeColumn {new : Column} (hold : ∀ old ∈ old?, old.name = new.name) :
    ∀ change ∈ changeColumn table old? new, change.isOn table new.name := by
  cases old? with
  | none => exact isOn_addColumn
  | some old =>
    by_cases htype : old.type = new.type
    · simp only [changeColumn, if_pos htype, List.forall_mem_append]
      exact ⟨fun _ => isOn_unique, fun _ => isOn_index⟩
    · simp only [changeColumn, if_neg htype, List.forall_mem_append]
      exact ⟨hold old rfl ▸ isOn_dropColumn, isOn_addColumn⟩

section Groups

variable {cs : List Column} {changes : Column → List TableChange}

theorem filter_groups_of_notMem
    (hchanges : ∀ c ∈ cs, ∀ change ∈ changes c, change.isOn table c.name)
    (hname : name ∉ cs.map Column.name) :
    (cs.flatMap changes).filter (TableChange.isOn table name) = [] := by
  rw [List.filter_eq_nil_iff]
  intro change hmem hon
  obtain ⟨c, hc, hchange⟩ := List.mem_flatMap.1 hmem
  have heq := TableChange.eq_of_concerns (hchanges c hc change hchange)
    (TableChange.concerns_operation hon)
  exact hname (heq ▸ List.mem_map_of_mem hc)

/-- Of groups for different columns, one is on the given column. -/
theorem filter_groups_of_mem (hnodup : (cs.map Column.name).Nodup)
    (hchanges : ∀ c ∈ cs, ∀ change ∈ changes c, change.isOn table c.name) {c : Column}
    (hc : c ∈ cs) :
    (cs.flatMap changes).filter (TableChange.isOn table c.name) = changes c := by
  -- the groups before and after this one are for columns of other names
  obtain ⟨before, after, rfl⟩ := List.append_of_mem hc
  simp only [List.forall_mem_append, List.forall_mem_cons] at hchanges
  obtain ⟨hbefore, hown, hafter⟩ := hchanges
  have hnodup' : c.name ∉ before.map Column.name ∧ c.name ∉ after.map Column.name := by
    rw [List.map_append, List.map_cons, List.nodup_middle, List.nodup_cons] at hnodup
    simpa using hnodup.1
  rw [List.flatMap_append, List.flatMap_cons, List.filter_append, List.filter_append,
    filter_groups_of_notMem hbefore hnodup'.1, filter_groups_of_notMem hafter hnodup'.2,
    List.filter_eq_self.2 hown, List.nil_append, List.append_nil]

end Groups

section Plan

variable {previous next : Table}

theorem isOn_removed : ∀ c ∈ removed previous next, ∀ change ∈ dropColumn next.name c,
    change.isOn next.name c.name :=
  fun _ _ => isOn_dropColumn

theorem isOn_next (hprevious : Keyed previous.columns) : ∀ c ∈ next.dataColumns,
    ∀ change ∈ changeColumn next.name (previous.column? c.name) c,
      change.isOn next.name c.name :=
  fun c _ => isOn_changeColumn fun old hold => (hprevious c.name old hold).1

/-- The changes on a column are those that its own forms call for. -/
theorem filter_change (hprevious : Keyed previous.columns) (hnext : Keyed next.columns)
    (name : String) :
    (change previous next).filter (TableChange.isOn next.name name) =
      columnChanges next.name (previous.data? name) (next.data? name) := by
  rw [change, List.filter_append]
  cases hnew : next.data? name with
  | some new =>
    obtain ⟨hmem, rfl⟩ := (Table.data?_eq_some hnext).1 hnew
    obtain ⟨hid, hfind⟩ := (Table.mem_dataColumns hnext).1 hmem
    -- the next form has the column, so it is not among those dropped first
    rw [filter_groups_of_notMem isOn_removed (notMem_removed hfind),
      filter_groups_of_mem (Table.nodup_dataColumns hnext) (isOn_next hprevious) hmem,
      List.nil_append, Table.data?, if_neg hid, columnChanges]
  | none =>
    rw [filter_groups_of_notMem (isOn_next hprevious)
      (Table.notMem_of_data?_eq_none hnext hnew), List.append_nil]
    cases hold : previous.data? name with
    | none =>
      have hnot := Table.notMem_of_data?_eq_none hprevious hold
      exact filter_groups_of_notMem isOn_removed
        fun hmem => hnot (names_removed_sublist.subset hmem)
    | some old =>
      obtain ⟨hmem, rfl⟩ := (Table.data?_eq_some hprevious).1 hold
      obtain ⟨hid, -⟩ := (Table.mem_dataColumns hprevious).1 hmem
      have hnone : next.column? old.name = none := by
        rwa [Table.data?, if_neg hid] at hnew
      exact filter_groups_of_mem (nodup_removed hprevious) isOn_removed
        (mem_removed.2 ⟨hmem, hnone⟩)

/-- Every change of a plan is on a data column. -/
theorem isOn_change (hprevious : Keyed previous.columns) (hnext : Keyed next.columns)
    {change : TableChange} (h : change ∈ Migration.change previous next) :
    ∃ name, name ≠ idColumn ∧ change.isOn next.name name := by
  rcases List.mem_append.1 h with hdropped | hchanged
  · obtain ⟨c, hc, hmem⟩ := List.mem_flatMap.1 hdropped
    have hdata := (mem_removed.1 hc).1
    exact ⟨c.name, ((Table.mem_dataColumns hprevious).1 hdata).1, isOn_removed c hc change hmem⟩
  · obtain ⟨c, hc, hmem⟩ := List.mem_flatMap.1 hchanged
    exact ⟨c.name, ((Table.mem_dataColumns hnext).1 hc).1, isOn_next hprevious c hc change hmem⟩

/-- What a plan does of one kind to a column is what the column's own forms call for. -/
theorem tally_statements (hprevious : Keyed previous.columns) (hnext : Keyed next.columns)
    (name : String) {kind : Ddl → Bool} (hkind : ∀ op, kind op → op.concerns next.name name) :
    tally kind (statements (some previous) next) =
      (columnChanges next.name (previous.data? name) (next.data? name)).countP
        fun change => kind change.operation := by
  rw [← filter_change hprevious hnext, List.countP_filter, tally, statements, List.countP_map]
  refine List.countP_congr fun change hmem => ?_
  simp only [Function.comp_apply, TableChange.ofText?_render, Option.any_some, Bool.and_eq_true]
  refine ⟨fun hop => ⟨hop, ?_⟩, fun hop => hop.1⟩
  obtain ⟨column, -, hon⟩ := isOn_change hprevious hnext hmem
  exact TableChange.eq_of_concerns hon (hkind _ hop) ▸ hon

end Plan

/-! ## Counts by column -/

/-- The first form is there, and the second is not or has another type. -/
def Alone (c? d? : Option Column) : Prop := ∃ c, c? = some c ∧ ∀ d ∈ d?, d.type ≠ c.type

theorem countP_dropColumn (table : String) (c : Column) :
    (dropColumn table c).countP (fun change => change.operation.dropsColumn table c.name) = 1 ∧
      (dropColumn table c).countP (fun change => change.operation.addsColumn table c.name) = 0 := by
  unfold dropColumn
  cases c.unique <;> cases c.indexed <;>
    simp [TableChange.operation, Ddl.dropsColumn, Ddl.addsColumn]

theorem countP_addColumn (table : String) (c : Column) :
    (addColumn table c).countP (fun change => change.operation.dropsColumn table c.name) = 0 ∧
      (addColumn table c).countP (fun change => change.operation.addsColumn table c.name) = 1 := by
  unfold addColumn
  cases c.unique <;> cases c.indexed <;>
    simp [TableChange.operation, Ddl.dropsColumn, Ddl.addsColumn]

theorem columnChanges_of_type_eq {old new : Column} (htype : old.type = new.type) :
    columnChanges table (some old) (some new) =
      toggled (.createUnique table new.name) (.dropUnique table new.name) old.unique new.unique ++
        toggled (.createIndex table new.name) (.dropIndex table new.name) old.indexed
          new.indexed :=
  if_pos htype

theorem columnChanges_of_type_ne {old new : Column} (htype : old.type ≠ new.type) :
    columnChanges table (some old) (some new) = dropColumn table old ++ addColumn table new :=
  if_neg htype

/-- A column is dropped where its old form stands alone, and added where its new form does. -/
theorem countP_columnChanges (hold : ∀ old ∈ old?, old.name = name)
    (hnew : ∀ new ∈ new?, new.name = name) :
    OnceIff ((columnChanges table old? new?).countP
        fun change => change.operation.dropsColumn table name) (Alone old? new?) ∧
      OnceIff ((columnChanges table old? new?).countP
        fun change => change.operation.addsColumn table name) (Alone new? old?) := by
  cases old? with
  | none =>
    cases new? with
    | none => simp [columnChanges, OnceIff, Alone]
    | some new =>
      obtain rfl := hnew new rfl
      simp [columnChanges, changeColumn, countP_addColumn, OnceIff, Alone]
  | some old =>
    obtain rfl := hold old rfl
    have hdrop := countP_dropColumn table old
    cases new? with
    | none => simp [columnChanges, hdrop, OnceIff, Alone]
    | some new =>
      have hadd := countP_addColumn table new
      rw [hnew new rfl] at hadd
      by_cases htype : old.type = new.type
      · rw [columnChanges_of_type_eq htype]
        cases old.unique <;> cases new.unique <;> cases old.indexed <;> cases new.indexed <;>
          simp [toggled, TableChange.operation, Ddl.dropsColumn, Ddl.addsColumn, OnceIff, Alone,
            htype]
      · rw [columnChanges_of_type_ne htype]
        simp [hdrop, hadd, OnceIff, Alone, htype, Ne.symm htype]

/-- The constraint and the index of a column that stays are toggled where the flags differ. -/
theorem countP_columnChanges_flags {old new : Column} (htype : old.type = new.type) :
    OnceIff ((columnChanges table (some old) (some new)).countP
        fun change => change.operation.togglesUnique table new.name) (old.unique ≠ new.unique) ∧
      OnceIff ((columnChanges table (some old) (some new)).countP
        fun change => change.operation.togglesIndex table new.name)
        (old.indexed ≠ new.indexed) := by
  rw [columnChanges_of_type_eq htype]
  cases old.unique <;> cases new.unique <;> cases old.indexed <;> cases new.indexed <;>
    simp [toggled, TableChange.operation, Ddl.togglesUnique, Ddl.togglesIndex, OnceIff]

end Migration

/-! ## What a plan depends on -/

namespace Dict

variable {α β : Type}

def map (f : α → β) (d : Dict α) : Dict β where
  entries := d.entries.map fun entry => (entry.1, f entry.2)
  distinct := by
    have hkeys : Entries.keys (d.entries.map fun entry => (entry.1, f entry.2)) = d.keys :=
      List.map_map
    rw [hkeys]
    exact d.distinct

theorem values_map (f : α → β) (d : Dict α) : (d.map f).values = d.values.map f := by
  simp [values, map]

theorem find?_map (f : α → β) (d : Dict α) (key : String) :
    (d.map f).find? key = (d.find? key).map f := by
  obtain ⟨entries, distinct⟩ := d
  unfold find? map
  dsimp only
  clear distinct
  induction entries with
  | nil => rfl
  | cons entry rest ih =>
    rw [List.map_cons, Entries.find?, Entries.find?, ih]
    split <;> rfl

end Dict

/-- The column with its name, type and flags for constraint and index, and nothing else set. -/
def Column.bare (c : Column) : Column :=
  { Column.new c.name c.type with unique := c.unique, indexed := c.indexed }

theorem Column.bare_eq_bare {c d : Column} :
    c.bare = d.bare ↔
      c.name = d.name ∧ c.type = d.type ∧ c.unique = d.unique ∧ c.indexed = d.indexed := by
  simp [bare, new]

/-- The table with its name and bare columns, and nothing else. -/
def Table.bare (t : Table) : Table := ⟨t.name, "", t.columns.map Column.bare, .empty⟩

namespace Table

theorem column?_bare (t : Table) (name : String) :
    t.bare.column? name = (t.column? name).map Column.bare :=
  Dict.find?_map Column.bare t.columns name

theorem dataColumns_bare (t : Table) : t.bare.dataColumns = t.dataColumns.map Column.bare := by
  unfold dataColumns bare
  rw [Dict.values_map, List.filter_map]
  rfl

/-- The bare data columns of a table, each found by its name. -/
theorem bare_data?_eq_some {t : Table} (h : Keyed t.columns) (name : String) {c : Column} :
    (t.data? name).map Column.bare = some c ↔
      c ∈ t.dataColumns.map Column.bare ∧ c.name = name := by
  simp only [Option.map_eq_some_iff, data?_eq_some h, List.mem_map]
  constructor
  · rintro ⟨d, ⟨hd, rfl⟩, rfl⟩
    exact ⟨⟨d, hd, rfl⟩, rfl⟩
  · rintro ⟨⟨d, hd, rfl⟩, rfl⟩
    exact ⟨d, ⟨hd, rfl⟩, rfl⟩

end Table

namespace Migration

variable {previous next : Table}

theorem changeColumn_bare (table : String) (old? : Option Column) (new : Column) :
    changeColumn table (old?.map Column.bare) new.bare = changeColumn table old? new := by
  cases old? <;> rfl

theorem removed_bare (previous next : Table) :
    removed previous.bare next.bare = (removed previous next).map Column.bare := by
  simp [removed, Table.dataColumns_bare, Table.column?_bare, List.filter_map, Function.comp_def,
    Column.bare, Column.new]

/-- Of two tables, a plan uses their names and bare columns only. -/
theorem change_bare (previous next : Table) :
    change previous.bare next.bare = change previous next := by
  unfold change
  rw [removed_bare, Table.dataColumns_bare, List.flatMap_map, List.flatMap_map]
  congr 1
  refine List.flatMap_congr fun c _ => ?_
  rw [Table.column?_bare]
  exact changeColumn_bare next.name (previous.column? c.name) c

theorem columnChanges_eq_nil (table : String) {name : String} {old? new? : Option Column}
    (hold : ∀ old ∈ old?, old.name = name) (hnew : ∀ new ∈ new?, new.name = name) :
    columnChanges table old? new? = [] ↔ old?.map Column.bare = new?.map Column.bare := by
  cases old? with
  | none => cases new? <;> simp [columnChanges, changeColumn, addColumn]
  | some old =>
    cases new? with
    | none => simp [columnChanges, dropColumn]
    | some new =>
      have hname : old.name = new.name := (hold old rfl).trans (hnew new rfl).symm
      by_cases htype : old.type = new.type
      · rw [columnChanges_of_type_eq htype]
        simp [toggled_eq_nil, Column.bare_eq_bare, hname, htype]
      · rw [columnChanges_of_type_ne htype]
        simp [dropColumn, Column.bare_eq_bare, htype]

theorem change_eq_nil_iff_filter (hprevious : Keyed previous.columns)
    (hnext : Keyed next.columns) :
    change previous next = [] ↔
      ∀ name, (change previous next).filter (TableChange.isOn next.name name) = [] := by
  refine ⟨fun hnil name => by rw [hnil, List.filter_nil], fun hnone => ?_⟩
  refine List.eq_nil_iff_forall_not_mem.2 fun change hmem => ?_
  obtain ⟨name, -, hon⟩ := isOn_change hprevious hnext hmem
  exact List.filter_eq_nil_iff.1 (hnone name) change hmem hon

/-- Nothing changes exactly where the bare data columns are the same. -/
theorem change_eq_nil (hprevious : Keyed previous.columns) (hnext : Keyed next.columns) :
    change previous next = [] ↔
      ∀ c, c ∈ previous.dataColumns.map Column.bare ↔ c ∈ next.dataColumns.map Column.bare := by
  have hcolumns : change previous next = [] ↔ ∀ name,
      (previous.data? name).map Column.bare = (next.data? name).map Column.bare := by
    simp only [change_eq_nil_iff_filter hprevious hnext, filter_change hprevious hnext,
      columnChanges_eq_nil next.name (Table.name_of_data? hprevious) (Table.name_of_data? hnext)]
  have hold := fun name c => Table.bare_data?_eq_some hprevious name (c := c)
  have hnew := fun name c => Table.bare_data?_eq_some hnext name (c := c)
  rw [hcolumns]
  constructor
  · intro hsame c
    simpa [hsame c.name, hnew c.name c] using (hold c.name c).symm
  · intro hsame name
    refine Option.ext fun c => ?_
    rw [hold name c, hnew name c, hsame c]

end Migration

/-! ## Minimal plans -/

/-- The table has a data column of the given name that the other table lacks or has with another
type. -/
def Table.HasAlone (t other : Table) (name : String) : Prop :=
  ∃ c ∈ t.dataColumns, c.name = name ∧
    (other.column? name = none ∨ ∃ d, other.column? name = some d ∧ d.type ≠ c.type)

theorem Table.hasAlone_iff {t other : Table} (h : Keyed t.columns) {name : String} :
    t.HasAlone other name ↔ Migration.Alone (t.data? name) (other.data? name) := by
  unfold HasAlone Migration.Alone
  refine exists_congr fun c => ?_
  rw [data?_eq_some h, and_assoc, and_congr_right_iff]
  intro hc
  rw [and_congr_right_iff]
  rintro rfl
  rw [data?, if_neg ((mem_dataColumns h).1 hc).1]
  cases other.column? c.name <;> simp

namespace Migration

/-- The statements do to each column what its forms in the two tables call for, and nothing else. -/
structure Minimal (previous next : Table) (texts : List String) : Prop where
  drops : ∀ name, OnceIff (tally (Ddl.dropsColumn next.name name) texts)
    (previous.HasAlone next name)
  adds : ∀ name, OnceIff (tally (Ddl.addsColumn next.name name) texts)
    (next.HasAlone previous name)
  uniques : ∀ old ∈ previous.dataColumns, ∀ new ∈ next.dataColumns, old.name = new.name →
    old.type = new.type →
      OnceIff (tally (Ddl.togglesUnique next.name new.name) texts) (old.unique ≠ new.unique)
  indexes : ∀ old ∈ previous.dataColumns, ∀ new ∈ next.dataColumns, old.name = new.name →
    old.type = new.type →
      OnceIff (tally (Ddl.togglesIndex next.name new.name) texts) (old.indexed ≠ new.indexed)
  rest : ∀ text ∈ texts, ∃ op name, Ddl.ofText? text = some op ∧ name ≠ idColumn ∧
    op.concerns next.name name

variable {previous next : Table}

theorem minimal_statements (hprevious : Keyed previous.columns) (hnext : Keyed next.columns) :
    Minimal previous next (statements (some previous) next) where
  drops name := by
    rw [tally_statements hprevious hnext name fun op hop => by simp [Ddl.concerns, hop],
      Table.hasAlone_iff hprevious]
    exact (countP_columnChanges (Table.name_of_data? hprevious) (Table.name_of_data? hnext)).1
  adds name := by
    rw [tally_statements hprevious hnext name fun op hop => by simp [Ddl.concerns, hop],
      Table.hasAlone_iff hnext]
    exact (countP_columnChanges (Table.name_of_data? hprevious) (Table.name_of_data? hnext)).2
  uniques old hold new hnew hname htype := by
    rw [tally_statements hprevious hnext new.name fun op hop => by simp [Ddl.concerns, hop],
      (Table.data?_eq_some hprevious).2 ⟨hold, hname⟩,
      (Table.data?_eq_some hnext).2 ⟨hnew, rfl⟩]
    exact (countP_columnChanges_flags htype).1
  indexes old hold new hnew hname htype := by
    rw [tally_statements hprevious hnext new.name fun op hop => by simp [Ddl.concerns, hop],
      (Table.data?_eq_some hprevious).2 ⟨hold, hname⟩,
      (Table.data?_eq_some hnext).2 ⟨hnew, rfl⟩]
    exact (countP_columnChanges_flags htype).2
  rest text htext := by
    obtain ⟨change, hmem, rfl⟩ := List.mem_map.1 htext
    obtain ⟨name, hid, hon⟩ := isOn_change hprevious hnext hmem
    exact ⟨change.operation, name, change.ofText?_render, hid,
      TableChange.concerns_operation hon⟩

theorem statements_eq_of_bare {previous' next' : Table} (hprevious : previous'.bare = previous.bare)
    (hnext : next'.bare = next.bare) :
    statements (some previous') next' = statements (some previous) next := by
  simp only [statements, plan]
  rw [← change_bare previous' next', hprevious, hnext, change_bare]

/-- A plan between two forms of a table is minimal. It is empty exactly where the data columns
have the same names, types and flags, and it depends on nothing else of the two tables. -/
theorem statements_minimal {before after : Draft} (hbefore : before.Reachable)
    (hafter : after.Reachable) {previous next : Table}
    (hprevious : previous ∈ before.tables.values) (hnext : next ∈ after.tables.values) :
    Minimal previous next (statements (some previous) next) ∧
      (statements (some previous) next = [] ↔ ∀ c,
        c ∈ previous.dataColumns.map Column.bare ↔ c ∈ next.dataColumns.map Column.bare) ∧
      ∀ previous' next', previous'.bare = previous.bare → next'.bare = next.bare →
        statements (some previous') next' = statements (some previous) next := by
  have hkeyed := hbefore.keyed hprevious
  have hkeyed' := hafter.keyed hnext
  refine ⟨minimal_statements hkeyed hkeyed', ?_, fun _ _ => statements_eq_of_bare⟩
  rw [statements, List.map_eq_nil_iff]
  exact change_eq_nil hkeyed hkeyed'

/-- A column that changes its type, and one that changes its place and a flag. -/
theorem statements_minimal_retyped :
    let b : Column := (Column.new "b\x22" .bool).asIndexed
    let c : Column := (Column.new "c" .string).asUnique
    let b' : Column := (Column.new "b\x22" .int64).asIndexed
    let c' : Column := (Column.new "c" .string).asIndexed.asUnique.asOrderable
    let previous : Table :=
      ⟨"users", "users", Dict.ofList [("id", .primaryKey), ("b\x22", b), ("c", c)], .empty⟩
    let next : Table :=
      ⟨"users", "users", Dict.ofList [("id", .primaryKey), ("c", c'), ("b\x22", b')], .empty⟩
    let before : Draft := ⟨Dict.ofList [("users", previous)]⟩
    let after : Draft := ⟨Dict.ofList [("users", next)]⟩
    let texts := statements (some previous) next
    (before.Reachable ∧ after.Reachable) ∧
      (tally (Ddl.dropsColumn "users" "b\x22") texts = 1 ∧
        tally (Ddl.addsColumn "users" "b\x22") texts = 1) ∧
      (tally (Ddl.togglesUnique "users" "c") texts = 0 ∧
        tally (Ddl.togglesIndex "users" "c") texts = 1) ∧
      texts ≠ [] ∧ statements (some { previous with space := "shop.users" }) next = texts := by
  intro b c b' c' previous next before after texts
  have hprevious : Draft.empty.add ⟨none, "users", Dict.ofList [
      ("b\x22", ⟨"Bool", [], false, true, false, false⟩),
      ("c", ⟨"String", [], true, false, false, false⟩)], .empty⟩ = .ok (previous, before) := rfl
  have hnext : Draft.empty.add ⟨none, "users", Dict.ofList [
      ("c", ⟨"String", [], true, true, true, false⟩),
      ("b\x22", ⟨"Int64", [], false, true, false, false⟩)], .empty⟩ = .ok (next, after) := rfl
  have hbefore : before.Reachable := .add .empty hprevious
  have hafter : after.Reachable := .add .empty hnext
  obtain ⟨hminimal, hempty, hsame⟩ :=
    statements_minimal hbefore hafter List.mem_cons_self List.mem_cons_self
  have hb : b ∈ previous.dataColumns := .head _
  have hc : c ∈ previous.dataColumns := .tail _ (.head _)
  have hc' : c' ∈ next.dataColumns := .head _
  have hb' : b' ∈ next.dataColumns := .tail _ (.head _)
  refine ⟨⟨hbefore, hafter⟩, ⟨?_, ?_⟩, ⟨?_, ?_⟩, ?_, hsame _ _ rfl rfl⟩
  · exact (hminimal.drops b.name).1 ⟨b, hb, rfl, .inr ⟨b', rfl, by decide⟩⟩
  · exact (hminimal.adds b.name).1 ⟨b', hb', rfl, .inr ⟨b, rfl, by decide⟩⟩
  · exact (hminimal.uniques c hc c' hc' rfl rfl).2 (by decide)
  · exact (hminimal.indexes c hc c' hc' rfl rfl).1 (by decide)
  · intro hnil
    have hbare := (hempty.1 hnil b.bare).1 (List.mem_map_of_mem hb)
    revert hbare
    decide

end Migration

end SqlCatalog
