-- SUMMARY: Migration plans run without a fault and end in the layout of the next table.
import SqlCatalog.Migration
import SqlCatalog.Proofs.Declared
import SqlCatalog.Proofs.Layout

/-!
# Soundness of migrations

A plan is a list of groups of changes, one group for each column it touches.
Layouts are described by what each column of the table is like at the moment
(`Describes`); a group carries its column from one state to another and leaves
the other columns alone (`Carries`). Plans are sound because their groups are,
and because they touch each column once.
-/

namespace SqlCatalog

open Sql

/-! ## Constraints and indexes by column -/

/-- Exactly the columns with the flag have an entry, under the name they get. -/
def Attached (nameOf : String → String) (flag : String → Bool)
    (entries : Finmap fun _ : String => String) : Prop :=
  ∀ name column, entries.lookup name = some column ↔ name = nameOf column ∧ flag column = true

namespace Attached

variable {nameOf : String → String} {flag : String → Bool}
  {entries other : Finmap fun _ : String => String}

theorem mem_iff (h : Attached nameOf flag entries) (hinj : nameOf.Injective) (column : String) :
    nameOf column ∈ entries ↔ flag column = true := by
  rw [Finmap.mem_iff]
  constructor
  · rintro ⟨found, hfound⟩
    obtain ⟨hname, hflag⟩ := (h _ _).1 hfound
    rwa [hinj hname]
  · intro hflag
    exact ⟨column, (h _ _).2 ⟨rfl, hflag⟩⟩

theorem notMem_of_ne (h : Attached nameOf flag entries) {name : String}
    (hne : ∀ column, name ≠ nameOf column) : name ∉ entries := by
  intro hmem
  obtain ⟨column, hcolumn⟩ := Finmap.mem_iff.1 hmem
  exact hne column ((h _ _).1 hcolumn).1

theorem insert (h : Attached nameOf flag entries) (hinj : nameOf.Injective) (column : String) :
    Attached nameOf (Function.update flag column true)
      (entries.insert (nameOf column) column) := by
  intro name found
  by_cases hname : name = nameOf column
  · subst hname
    rw [Finmap.lookup_insert, Option.some.injEq]
    constructor
    · rintro rfl
      exact ⟨rfl, Function.update_self ..⟩
    · exact fun hfound => hinj hfound.1
  · rw [Finmap.lookup_insert_of_ne _ hname, h]
    refine and_congr_right fun hfound => ?_
    have hne : found ≠ column := fun heq => hname (by rw [hfound, heq])
    rw [Function.update_of_ne hne]

theorem erase (h : Attached nameOf flag entries) (hinj : nameOf.Injective) (column : String) :
    Attached nameOf (Function.update flag column false) (entries.erase (nameOf column)) := by
  intro name found
  by_cases hname : name = nameOf column
  · subst hname
    rw [Finmap.lookup_erase]
    refine iff_of_false nofun fun hfound => ?_
    rw [← hinj hfound.1, Function.update_self] at hfound
    exact nomatch hfound.2
  · rw [Finmap.lookup_erase_ne hname, h]
    refine and_congr_right fun hfound => ?_
    have hne : found ≠ column := fun heq => hname (by rw [hfound, heq])
    rw [Function.update_of_ne hne]

theorem unique (h : Attached nameOf flag entries) (hother : Attached nameOf flag other) :
    entries = other := by
  refine Finmap.ext_lookup fun name => Option.ext fun column => ?_
  rw [h, hother]

end Attached

theorem uniqueName_injective (table : String) : (uniqueName table).Injective := by
  intro a b h
  simpa [uniqueName, String.ext_iff] using h

theorem indexName_injective (table : String) : (indexName table).Injective := by
  intro a b h
  simpa [indexName, String.ext_iff] using h

theorem uniqueName_ne_indexName (table a b : String) : uniqueName table a ≠ indexName table b := by
  intro h
  simp [uniqueName, indexName, String.ext_iff] at h

/-! ## Describing layouts -/

/-- What a layout holds of one data column. -/
structure Slot where
  stored : Stored
  unique : Bool
  indexed : Bool

def Column.slot (c : Column) : Slot := ⟨storedAs c.type, c.unique, c.indexed⟩

/-- The data columns of the table are as `slots` says. -/
structure Describes (table : String) (slots : String → Option Slot) (L : Layout) : Prop where
  table_eq : L.table = table
  key_eq : L.key = idColumn
  keyType_eq : L.keyType = (storedAs .primaryKey).type
  columns : ∀ name, L.columns.lookup name = (slots name).map Slot.stored
  uniques : Attached (uniqueName table) (Option.any Slot.unique ∘ slots) L.uniques
  indexes : Attached (indexName table) (Option.any Slot.indexed ∘ slots) L.indexes

namespace Describes

variable {table column : String} {slots : String → Option Slot} {L : Layout}

theorem unique {other : Layout} (h : Describes table slots L)
    (hother : Describes table slots other) : L = other := by
  obtain ⟨table₁, key₁, keyType₁, columns₁, uniques₁, indexes₁⟩ := L
  obtain ⟨table₂, key₂, keyType₂, columns₂, uniques₂, indexes₂⟩ := other
  have hcolumns : columns₁ = columns₂ :=
    Finmap.ext_lookup fun name => (h.columns name).trans (hother.columns name).symm
  have huniques : uniques₁ = uniques₂ := h.uniques.unique hother.uniques
  have hindexes : indexes₁ = indexes₂ := h.indexes.unique hother.indexes
  have htable : table₁ = table₂ := h.table_eq.trans hother.table_eq.symm
  have hkey : key₁ = key₂ := h.key_eq.trans hother.key_eq.symm
  have hkeyType : keyType₁ = keyType₂ := h.keyType_eq.trans hother.keyType_eq.symm
  rw [hcolumns, huniques, hindexes, htable, hkey, hkeyType]

theorem mem_columns (h : Describes table slots L) : column ∈ L.columns ↔ (slots column).isSome := by
  rw [← Finmap.lookup_isSome, h.columns, Option.isSome_map]

theorem expect_eq (h : Describes table slots L) : L.expect table = .ok L := by
  rw [Layout.expect, if_pos h.table_eq]

/-! ### What a change to one column keeps -/

theorem comp_update_of_eq {β : Type} (f : Option Slot → β) {slot : Option Slot}
    (h : f slot = f (slots column)) : f ∘ Function.update slots column slot = f ∘ slots := by
  rw [Function.comp_update, h]
  exact Function.update_eq_self column (f ∘ slots)

theorem columns_update (h : Describes table slots L) {slot : Option Slot}
    (hsame : slot.map Slot.stored = (slots column).map Slot.stored) (name : String) :
    L.columns.lookup name = (Function.update slots column slot name).map Slot.stored := by
  rw [h.columns]
  exact (congrFun (comp_update_of_eq (Option.map Slot.stored) hsame) name).symm

theorem uniques_update (h : Describes table slots L) {slot : Option Slot}
    (hsame : slot.any Slot.unique = (slots column).any Slot.unique) :
    Attached (uniqueName table) (Option.any Slot.unique ∘ Function.update slots column slot)
      L.uniques := by
  rw [comp_update_of_eq _ hsame]
  exact h.uniques

theorem indexes_update (h : Describes table slots L) {slot : Option Slot}
    (hsame : slot.any Slot.indexed = (slots column).any Slot.indexed) :
    Attached (indexName table) (Option.any Slot.indexed ∘ Function.update slots column slot)
      L.indexes := by
  rw [comp_update_of_eq _ hsame]
  exact h.indexes

/-! ### One change -/

theorem addColumn (h : Describes table slots L) (hnone : slots column = none)
    (hid : column ≠ idColumn) (type : ColumnType) :
    ∃ L', (TableChange.addColumn table column type).operation.alter L = .ok L' ∧
      Describes table (Function.update slots column (some ⟨storedAs type, false, false⟩)) L' := by
  have hfree : ¬ L.HasColumn column := by
    rintro (hkey | hmem)
    · exact hid (hkey.trans h.key_eq)
    · rw [h.mem_columns, hnone] at hmem
      cases hmem
  refine ⟨{ L with columns := L.columns.insert column (storedAs type) }, ?_, ?_⟩
  · simp only [TableChange.operation, Ddl.alter, h.expect_eq]
    exact if_neg hfree
  · refine ⟨h.table_eq, h.key_eq, h.keyType_eq, fun name => ?_, ?_, ?_⟩
    · by_cases hname : name = column
      · subst hname
        rw [Finmap.lookup_insert, Function.update_self]
        rfl
      · rw [Finmap.lookup_insert_of_ne _ hname, Function.update_of_ne hname, h.columns]
    · exact h.uniques_update (by rw [hnone]; rfl)
    · exact h.indexes_update (by rw [hnone]; rfl)

theorem dropColumn (h : Describes table slots L) {stored : Stored}
    (hslot : slots column = some ⟨stored, false, false⟩) :
    ∃ L', (TableChange.dropColumn table column).operation.alter L = .ok L' ∧
      Describes table (Function.update slots column none) L' := by
  have hpresent : column ∈ L.columns := by
    rw [h.mem_columns, hslot]
    rfl
  have hunused : ¬ L.InUse column := by
    rintro (⟨name, -, hname⟩ | ⟨name, -, hname⟩)
    · have hflag := ((h.uniques name column).1 hname).2
      rw [Function.comp_apply, hslot] at hflag
      cases hflag
    · have hflag := ((h.indexes name column).1 hname).2
      rw [Function.comp_apply, hslot] at hflag
      cases hflag
  refine ⟨{ L with columns := L.columns.erase column }, ?_, ?_⟩
  · simp only [TableChange.operation, Ddl.alter, h.expect_eq]
    exact (if_neg (not_not_intro hpresent)).trans (if_neg hunused)
  · refine ⟨h.table_eq, h.key_eq, h.keyType_eq, fun name => ?_, ?_, ?_⟩
    · by_cases hname : name = column
      · subst hname
        rw [Finmap.lookup_erase, Function.update_self]
        rfl
      · rw [Finmap.lookup_erase_ne hname, Function.update_of_ne hname, h.columns]
    · exact h.uniques_update (by rw [hslot]; rfl)
    · exact h.indexes_update (by rw [hslot]; rfl)

/-- A present column can be given constraints and indexes. -/
theorem hasColumn (h : Describes table slots L) {slot : Slot} (hslot : slots column = some slot) :
    L.HasColumn column := by
  right
  rw [h.mem_columns, hslot]
  rfl

theorem createUnique (h : Describes table slots L) {slot : Slot} (hslot : slots column = some slot)
    (hfalse : slot.unique = false) :
    ∃ L', (TableChange.createUnique table column).operation.alter L = .ok L' ∧
      Describes table (Function.update slots column (some { slot with unique := true })) L' := by
  have hfree : ¬ L.Taken (uniqueName table column) := by
    rintro (hmem | hmem)
    · rw [h.uniques.mem_iff (uniqueName_injective table), Function.comp_apply, hslot] at hmem
      exact absurd hmem (by simp [hfalse])
    · exact h.indexes.notMem_of_ne (uniqueName_ne_indexName table column) hmem
  refine ⟨{ L with uniques := L.uniques.insert (uniqueName table column) column }, ?_, ?_⟩
  · simp only [TableChange.operation, Ddl.alter, h.expect_eq]
    exact (if_neg (not_not_intro (h.hasColumn hslot))).trans (if_neg hfree)
  · refine ⟨h.table_eq, h.key_eq, h.keyType_eq, h.columns_update (by rw [hslot]; rfl), ?_,
      h.indexes_update (by rw [hslot]; rfl)⟩
    rw [Function.comp_update]
    exact h.uniques.insert (uniqueName_injective table) column

theorem dropUnique (h : Describes table slots L) {slot : Slot} (hslot : slots column = some slot)
    (htrue : slot.unique = true) :
    ∃ L', (TableChange.dropUnique table column).operation.alter L = .ok L' ∧
      Describes table (Function.update slots column (some { slot with unique := false })) L' := by
  have hpresent : uniqueName table column ∈ L.uniques := by
    rw [h.uniques.mem_iff (uniqueName_injective table), Function.comp_apply, hslot]
    exact htrue
  refine ⟨{ L with uniques := L.uniques.erase (uniqueName table column) }, ?_, ?_⟩
  · simp only [TableChange.operation, Ddl.alter, h.expect_eq]
    exact if_neg (not_not_intro hpresent)
  · refine ⟨h.table_eq, h.key_eq, h.keyType_eq, h.columns_update (by rw [hslot]; rfl), ?_,
      h.indexes_update (by rw [hslot]; rfl)⟩
    rw [Function.comp_update]
    exact h.uniques.erase (uniqueName_injective table) column

theorem createIndex (h : Describes table slots L) {slot : Slot} (hslot : slots column = some slot)
    (hfalse : slot.indexed = false) :
    ∃ L', (TableChange.createIndex table column).operation.alter L = .ok L' ∧
      Describes table (Function.update slots column (some { slot with indexed := true })) L' := by
  have hfree : ¬ L.Taken (indexName table column) := by
    rintro (hmem | hmem)
    · refine h.uniques.notMem_of_ne (fun other => ?_) hmem
      exact (uniqueName_ne_indexName table other column).symm
    · rw [h.indexes.mem_iff (indexName_injective table), Function.comp_apply, hslot] at hmem
      exact absurd hmem (by simp [hfalse])
  refine ⟨{ L with indexes := L.indexes.insert (indexName table column) column }, ?_, ?_⟩
  · simp only [TableChange.operation, Ddl.alter, h.expect_eq]
    exact (if_neg (not_not_intro (h.hasColumn hslot))).trans (if_neg hfree)
  · refine ⟨h.table_eq, h.key_eq, h.keyType_eq, h.columns_update (by rw [hslot]; rfl),
      h.uniques_update (by rw [hslot]; rfl), ?_⟩
    rw [Function.comp_update]
    exact h.indexes.insert (indexName_injective table) column

theorem dropIndex (h : Describes table slots L) {slot : Slot} (hslot : slots column = some slot)
    (htrue : slot.indexed = true) :
    ∃ L', (TableChange.dropIndex table column).operation.alter L = .ok L' ∧
      Describes table (Function.update slots column (some { slot with indexed := false })) L' := by
  have hpresent : indexName table column ∈ L.indexes := by
    rw [h.indexes.mem_iff (indexName_injective table), Function.comp_apply, hslot]
    exact htrue
  refine ⟨{ L with indexes := L.indexes.erase (indexName table column) }, ?_, ?_⟩
  · exact if_neg (not_not_intro hpresent)
  · refine ⟨h.table_eq, h.key_eq, h.keyType_eq, h.columns_update (by rw [hslot]; rfl),
      h.uniques_update (by rw [hslot]; rfl), ?_⟩
    rw [Function.comp_update]
    exact h.indexes.erase (indexName_injective table) column

end Describes

/-! ## Groups of changes -/

theorem execute_append (state : Option Layout) (first second : List String) :
    execute state (first ++ second) =
      execute state first >>= fun after => execute after second := by
  induction first generalizing state with
  | nil => rfl
  | cons text rest ih =>
    rw [List.cons_append, execute, execute]
    cases hread : Ddl.ofText? text with
    | none => rfl
    | some operation =>
      cases hrun : operation.run state with
      | error fault => simp [hrun, bind, Except.bind]
      | ok L => simpa [hrun, bind, Except.bind] using ih (some L)

/-- The changes succeed where the column is as `before` says. They leave it as `after` says and
the other columns as they are. -/
def Carries (table column : String) (changes : List TableChange) (before after : Option Slot) :
    Prop :=
  ∀ slots L, slots column = before → Describes table slots L →
    ∃ L', execute (some L) (changes.map TableChange.render) = .ok (some L') ∧
      Describes table (Function.update slots column after) L'

namespace Carries

variable {table column : String} {before middle after : Option Slot}

theorem nil : Carries table column [] before before := by
  rintro slots L rfl hL
  refine ⟨L, rfl, ?_⟩
  rwa [Function.update_eq_self]

theorem append {first second : List TableChange}
    (hfirst : Carries table column first before middle)
    (hsecond : Carries table column second middle after) :
    Carries table column (first ++ second) before after := by
  intro slots L hslots hL
  obtain ⟨M, hM, hdescribesM⟩ := hfirst slots L hslots hL
  obtain ⟨N, hN, hdescribesN⟩ := hsecond _ M (Function.update_self ..) hdescribesM
  refine ⟨N, ?_, ?_⟩
  · rw [List.map_append, execute_append, hM]
    exact hN
  · rwa [Function.update_idem] at hdescribesN

theorem single {change : TableChange}
    (h : ∀ slots L, slots column = before → Describes table slots L →
      ∃ L', change.operation.alter L = .ok L' ∧
        Describes table (Function.update slots column after) L') :
    Carries table column [change] before after := by
  intro slots L hslots hL
  obtain ⟨L', hrun, hL'⟩ := h slots L hslots hL
  refine ⟨L', ?_, hL'⟩
  simp [execute, change.ofText?_render, Ddl.run, hrun, bind, Except.bind]

end Carries

namespace Migration

/-- The change that takes a flag from `old` to `new`, if one is needed. -/
def toggled (create drop : TableChange) (old new : Bool) : List TableChange :=
  if old = new then [] else if new then [create] else [drop]

theorem carries_unique (table column : String) (slot : Slot) (new : Bool) :
    Carries table column
      (toggled (.createUnique table column) (.dropUnique table column) slot.unique new)
      (some slot) (some { slot with unique := new }) := by
  obtain ⟨stored, unique, indexed⟩ := slot
  cases unique <;> cases new
  · exact Carries.nil
  · exact Carries.single fun slots L hslot hL => hL.createUnique hslot rfl
  · exact Carries.single fun slots L hslot hL => hL.dropUnique hslot rfl
  · exact Carries.nil

theorem carries_index (table column : String) (slot : Slot) (new : Bool) :
    Carries table column
      (toggled (.createIndex table column) (.dropIndex table column) slot.indexed new)
      (some slot) (some { slot with indexed := new }) := by
  obtain ⟨stored, unique, indexed⟩ := slot
  cases indexed <;> cases new
  · exact Carries.nil
  · exact Carries.single fun slots L hslot hL => hL.createIndex hslot rfl
  · exact Carries.single fun slots L hslot hL => hL.dropIndex hslot rfl
  · exact Carries.nil

theorem addColumn_eq (table : String) (c : Column) :
    addColumn table c = [.addColumn table c.name c.type] ++
      (toggled (.createUnique table c.name) (.dropUnique table c.name) false c.unique ++
        toggled (.createIndex table c.name) (.dropIndex table c.name) false c.indexed) := by
  unfold addColumn
  cases c.unique <;> cases c.indexed <;> rfl

theorem dropColumn_eq (table : String) (c : Column) :
    dropColumn table c =
      toggled (.createUnique table c.name) (.dropUnique table c.name) c.unique false ++
        toggled (.createIndex table c.name) (.dropIndex table c.name) c.indexed false ++
        [.dropColumn table c.name] := by
  unfold dropColumn
  cases c.unique <;> cases c.indexed <;> rfl

theorem carries_addColumn (table : String) {c : Column} (hid : c.name ≠ idColumn) :
    Carries table c.name (addColumn table c) none (some c.slot) := by
  rw [addColumn_eq]
  have hadd : Carries table c.name [.addColumn table c.name c.type] none
      (some ⟨storedAs c.type, false, false⟩) :=
    Carries.single fun slots L hnone hL => hL.addColumn hnone hid c.type
  exact hadd.append ((carries_unique table c.name _ c.unique).append
    (carries_index table c.name _ c.indexed))

theorem carries_dropColumn (table : String) (c : Column) :
    Carries table c.name (dropColumn table c) (some c.slot) none := by
  rw [dropColumn_eq]
  have hflags := (carries_unique table c.name c.slot false).append
    (carries_index table c.name _ false)
  exact hflags.append (Carries.single fun slots L hslot hL => hL.dropColumn hslot)

theorem carries_adjust (table : String) {old new : Column} (htype : old.type = new.type) :
    Carries table new.name (adjustUnique table old new ++ adjustIndex table old new)
      (some old.slot) (some new.slot) := by
  have hflags := (carries_unique table new.name old.slot new.unique).append
    (carries_index table new.name _ new.indexed)
  have hslot : new.slot = ⟨storedAs old.type, new.unique, new.indexed⟩ := by
    rw [htype]
    rfl
  rw [hslot]
  exact hflags

theorem carries_changeColumn (table : String) {old? : Option Column} {new : Column}
    (hname : ∀ old ∈ old?, old.name = new.name) (hid : new.name ≠ idColumn) :
    Carries table new.name (changeColumn table old? new) (old?.map Column.slot)
      (some new.slot) := by
  cases old? with
  | none => exact carries_addColumn table hid
  | some old =>
    simp only [changeColumn, Option.map_some]
    by_cases htype : old.type = new.type
    · rw [if_pos htype]
      exact carries_adjust table htype
    · rw [if_neg htype]
      have hdrop := carries_dropColumn table old
      rw [hname old rfl] at hdrop
      exact hdrop.append (carries_addColumn table hid)

/-- Groups for different columns, one after another. -/
theorem carries_all {table : String} {changes : Column → List TableChange}
    {goal slots : String → Option Slot} {L : Layout} {cs : List Column}
    (hnodup : (cs.map Column.name).Nodup)
    (hcarries : ∀ c ∈ cs, Carries table c.name (changes c) (slots c.name) (goal c.name))
    (hL : Describes table slots L) :
    ∃ L', execute (some L) ((cs.flatMap changes).map TableChange.render) = .ok (some L') ∧
      Describes table (fun name => if name ∈ cs.map Column.name then goal name else slots name)
        L' := by
  induction cs generalizing slots L with
  | nil =>
    refine ⟨L, rfl, ?_⟩
    simpa using hL
  | cons c cs ih =>
    rw [List.map_cons, List.nodup_cons] at hnodup
    obtain ⟨hc, hrest⟩ := List.forall_mem_cons.1 hcarries
    obtain ⟨M, hM, hdescribesM⟩ := hc slots L rfl hL
    -- the columns still to come have other names, so their slots are as they were
    have hkept : ∀ d ∈ cs, Function.update slots c.name (goal c.name) d.name = slots d.name := by
      intro d hd
      refine Function.update_of_ne (fun heq => hnodup.1 ?_) _ _
      exact heq ▸ List.mem_map_of_mem hd
    obtain ⟨N, hN, hdescribesN⟩ := ih hnodup.2
      (fun d hd => by rw [hkept d hd]; exact hrest d hd) hdescribesM
    refine ⟨N, ?_, ?_⟩
    · rw [List.flatMap_cons, List.map_append, execute_append, hM]
      exact hN
    · convert hdescribesN using 2 with name
      by_cases hname : name = c.name
      · subst hname
        simp [hnodup.1]
      · simp [hname]

end Migration

/-! ## Tables -/

namespace Table

/-- What the layout of a table holds of each column. -/
def slots (t : Table) (name : String) : Option Slot :=
  if name = idColumn then none else (t.column? name).map Column.slot

variable {t : Table}

theorem mem_dataColumns (h : Keyed t.columns) {c : Column} :
    c ∈ t.dataColumns ↔ c.name ≠ idColumn ∧ t.column? c.name = some c := by
  simp only [dataColumns, List.mem_filter, Dict.mem_values, decide_eq_true_eq]
  constructor
  · rintro ⟨⟨key, hfind⟩, htype⟩
    obtain ⟨rfl, hkey⟩ := h key c hfind
    exact ⟨fun hid => htype (hkey.2 hid), hfind⟩
  · rintro ⟨hid, hfind⟩
    exact ⟨⟨c.name, hfind⟩, fun htype => hid ((h c.name c hfind).2.1 htype)⟩

theorem nodup_dataColumns (h : Keyed t.columns) : (t.dataColumns.map Column.name).Nodup := by
  have hnames : t.columns.values.map Column.name = t.columns.keys := by
    rw [Dict.values, Dict.keys, Entries.keys, List.map_map]
    refine List.map_congr_left fun entry hentry => ?_
    exact (h entry.1 entry.2 (Dict.mem_entries.1 hentry)).1
  have hsub : (t.dataColumns.map Column.name).Sublist t.columns.keys := by
    rw [← hnames]
    exact List.filter_sublist.map Column.name
  exact t.columns.distinct.sublist hsub

theorem slots_of_mem (h : Keyed t.columns) {c : Column} (hc : c ∈ t.dataColumns) :
    t.slots c.name = some c.slot := by
  obtain ⟨hid, hfind⟩ := (mem_dataColumns h).1 hc
  rw [slots, if_neg hid, hfind, Option.map_some]

theorem slots_eq_some (h : Keyed t.columns) {name : String} {slot : Slot} :
    t.slots name = some slot ↔ ∃ c ∈ t.dataColumns, c.name = name ∧ c.slot = slot := by
  constructor
  · intro hslot
    unfold slots at hslot
    split at hslot
    · cases hslot
    · rename_i hid
      obtain ⟨c, hfind, hc⟩ := Option.map_eq_some_iff.1 hslot
      obtain ⟨rfl, -⟩ := h name c hfind
      exact ⟨c, (mem_dataColumns h).2 ⟨hid, hfind⟩, rfl, hc⟩
  · rintro ⟨c, hc, rfl, rfl⟩
    exact slots_of_mem h hc

theorem slots_eq_none (h : Keyed t.columns) {name : String}
    (hname : name ∉ t.dataColumns.map Column.name) : t.slots name = none := by
  rw [Option.eq_none_iff_forall_ne_some]
  intro slot hslot
  obtain ⟨c, hc, rfl, -⟩ := (slots_eq_some h).1 hslot
  exact hname (List.mem_map_of_mem hc)

/-- Looking up in a map made of one entry for each of the columns. -/
theorem lookup_toFinmap_map {β : Type} {cs : List Column} {key : Column → String}
    {value : Column → β} (hnodup : (cs.map key).Nodup) {name : String} {b : β} :
    (cs.map fun c => (⟨key c, value c⟩ : (_ : String) × β)).toFinmap.lookup name = some b ↔
      ∃ c ∈ cs, key c = name ∧ value c = b := by
  have hkeys : (cs.map fun c => (⟨key c, value c⟩ : (_ : String) × β)).NodupKeys := by
    rw [List.NodupKeys, List.keys, List.map_map]
    exact hnodup
  rw [Finmap.dlookup_list_toFinmap, ← Option.mem_def, List.mem_dlookup_iff hkeys, List.mem_map]
  simp

theorem attached_layout (h : Keyed t.columns) {nameOf : String → String}
    (hinj : nameOf.Injective) (flag : Slot → Bool) :
    Attached nameOf (Option.any flag ∘ t.slots)
      ((t.dataColumns.filter fun c => flag c.slot).map fun c =>
        (⟨nameOf c.name, c.name⟩ : (_ : String) × String)).toFinmap := by
  intro name column
  have hnodup : ((t.dataColumns.filter fun c => flag c.slot).map
      fun c => nameOf c.name).Nodup := by
    have hall := (nodup_dataColumns h).map hinj
    rw [List.map_map] at hall
    exact hall.sublist (List.filter_sublist.map _)
  rw [lookup_toFinmap_map hnodup, Function.comp_apply]
  constructor
  · rintro ⟨c, hc, rfl, rfl⟩
    obtain ⟨hmem, hflag⟩ := List.mem_filter.1 hc
    rw [slots_of_mem h hmem]
    exact ⟨rfl, hflag⟩
  · rintro ⟨rfl, hflag⟩
    cases hslot : t.slots column with
    | none =>
      rw [hslot] at hflag
      cases hflag
    | some slot =>
      rw [hslot] at hflag
      obtain ⟨c, hc, hname, rfl⟩ := (slots_eq_some h).1 hslot
      exact ⟨c, List.mem_filter.2 ⟨hc, hflag⟩, by rw [hname], hname⟩

theorem describes_layout (h : Keyed t.columns) : Describes t.name t.slots t.layout := by
  refine ⟨rfl, rfl, rfl, fun name => Option.ext fun stored => ?_, ?_, ?_⟩
  · rw [layout, lookup_toFinmap_map (nodup_dataColumns h), Option.map_eq_some_iff]
    constructor
    · rintro ⟨c, hc, rfl, rfl⟩
      exact ⟨c.slot, slots_of_mem h hc, rfl⟩
    · rintro ⟨slot, hslot, rfl⟩
      obtain ⟨c, hc, rfl, rfl⟩ := (slots_eq_some h).1 hslot
      exact ⟨c, hc, rfl, rfl⟩
  · exact attached_layout h (uniqueName_injective t.name) Slot.unique
  · exact attached_layout h (indexName_injective t.name) Slot.indexed

end Table

namespace Migration

/-- A layout that agrees with the next table on its columns, and has no others, is its layout. -/
theorem eq_layout {next : Table} (h : Keyed next.columns) {slots : String → Option Slot}
    {L : Layout}
    (hL : Describes next.name
      (fun name => if name ∈ next.dataColumns.map Column.name then next.slots name else slots name)
      L)
    (hother : ∀ name ∉ next.dataColumns.map Column.name, slots name = none) :
    L = next.layout := by
  refine hL.unique ?_
  convert Table.describes_layout h using 2 with name
  split
  · rfl
  · rename_i hname
    rw [hother name hname, Table.slots_eq_none h hname]

theorem execute_create {next : Table} (h : Keyed next.columns) :
    execute none ((create next).map TableChange.render) = .ok (some next.layout) := by
  let empty : Layout := ⟨next.name, idColumn, (storedAs .primaryKey).type, ∅, ∅, ∅⟩
  have hempty : Describes next.name (fun _ => none) empty :=
    ⟨rfl, rfl, rfl, fun _ => rfl, fun _ _ => by simp [empty], fun _ _ => by simp [empty]⟩
  have hcarries : ∀ c ∈ next.dataColumns,
      Carries next.name c.name (addColumn next.name c) none (next.slots c.name) := by
    intro c hc
    rw [Table.slots_of_mem h hc]
    exact carries_addColumn next.name ((Table.mem_dataColumns h).1 hc).1
  obtain ⟨L, hrun, hL⟩ := carries_all (Table.nodup_dataColumns h) hcarries hempty
  rw [eq_layout h hL fun _ _ => rfl] at hrun
  rw [create, List.map_cons, execute, TableChange.ofText?_render]
  exact hrun

theorem mem_removed {previous next : Table} {c : Column} :
    c ∈ removed previous next ↔ c ∈ previous.dataColumns ∧ next.column? c.name = none := by
  rw [removed, List.mem_filter, Option.isNone_iff_eq_none]

theorem names_removed_sublist {previous next : Table} :
    ((removed previous next).map Column.name).Sublist (previous.dataColumns.map Column.name) :=
  List.filter_sublist.map Column.name

theorem nodup_removed {previous next : Table} (hprevious : Keyed previous.columns) :
    ((removed previous next).map Column.name).Nodup :=
  (Table.nodup_dataColumns hprevious).sublist names_removed_sublist

theorem notMem_removed {previous next : Table} {name : String} {c : Column}
    (hfind : next.column? name = some c) : name ∉ (removed previous next).map Column.name := by
  intro hmem
  obtain ⟨old, hold, hsame⟩ := List.mem_map.1 hmem
  have hnone := (mem_removed.1 hold).2
  rw [hsame, hfind] at hnone
  cases hnone

/-- A column of the previous form stays exactly when the next form has it. -/
theorem mem_next_of_not_removed {previous next : Table} (hprevious : Keyed previous.columns)
    (hnext : Keyed next.columns) {c : Column} (hc : c ∈ previous.dataColumns)
    (hstays : c ∉ removed previous next) : c.name ∈ next.dataColumns.map Column.name := by
  have hfound : next.column? c.name ≠ none := fun hnone => hstays (mem_removed.2 ⟨hc, hnone⟩)
  obtain ⟨d, hd⟩ := Option.ne_none_iff_exists'.1 hfound
  obtain ⟨hname, -⟩ := hnext c.name d hd
  rw [← hname] at hd ⊢
  have hid : d.name ≠ idColumn := hname ▸ ((Table.mem_dataColumns hprevious).1 hc).1
  exact List.mem_map_of_mem ((Table.mem_dataColumns hnext).2 ⟨hid, hd⟩)

theorem execute_change {previous next : Table} (hprevious : Keyed previous.columns)
    (hnext : Keyed next.columns) (hname : previous.name = next.name) :
    execute (some previous.layout) ((change previous next).map TableChange.render) =
      .ok (some next.layout) := by
  have hstart := Table.describes_layout hprevious
  rw [hname] at hstart
  have hdropped : ∀ c ∈ removed previous next,
      Carries next.name c.name (dropColumn next.name c) (previous.slots c.name)
        (next.slots c.name) := by
    intro c hc
    obtain ⟨hmem, hnone⟩ := mem_removed.1 hc
    have hgone : next.slots c.name = none := by simp [Table.slots, hnone]
    rw [hgone, Table.slots_of_mem hprevious hmem]
    exact carries_dropColumn next.name c
  obtain ⟨M, hM, hdescribesM⟩ := carries_all (nodup_removed hprevious) hdropped hstart
  -- a column of the next form is not among those dropped, so it is still in its previous form
  have hchanged : ∀ c ∈ next.dataColumns,
      Carries next.name c.name (changeColumn next.name (previous.column? c.name) c)
        (if c.name ∈ (removed previous next).map Column.name then next.slots c.name
          else previous.slots c.name) (next.slots c.name) := by
    intro c hc
    obtain ⟨hid, hfind⟩ := (Table.mem_dataColumns hnext).1 hc
    have hslot : previous.slots c.name = (previous.column? c.name).map Column.slot := if_neg hid
    rw [if_neg (notMem_removed hfind), hslot, Table.slots_of_mem hnext hc]
    exact carries_changeColumn next.name (fun old hold => (hprevious c.name old hold).1) hid
  obtain ⟨N, hN, hdescribesN⟩ := carries_all (Table.nodup_dataColumns hnext) hchanged hdescribesM
  have hlayout : N = next.layout := by
    refine eq_layout hnext hdescribesN fun name hnot => ?_
    split
    · exact Table.slots_eq_none hnext hnot
    · rename_i hstays
      refine Table.slots_eq_none hprevious fun hmem => ?_
      obtain ⟨c, hc, rfl⟩ := List.mem_map.1 hmem
      exact hnot (mem_next_of_not_removed hprevious hnext hc
        fun hremoved => hstays (List.mem_map_of_mem hremoved))
  rw [change, List.map_append, execute_append, hM, ← hlayout]
  exact hN

/-- Running a plan never fails. It leads from the layout of the previous form, or from nothing,
to the layout of the next form. -/
theorem execute_statements {before after : Draft} (hbefore : before.Reachable)
    (hafter : after.Reachable) {previous next : Table} (hprevious : previous ∈ before.tables.values)
    (hnext : next ∈ after.tables.values) (hname : previous.name = next.name) :
    execute (some previous.layout) (statements (some previous) next) = .ok (some next.layout) ∧
      execute none (statements none next) = .ok (some next.layout) :=
  ⟨execute_change (hbefore.keyed hprevious) (hafter.keyed hnext) hname,
    execute_create (hafter.keyed hnext)⟩

/-- A column that goes, one that changes its type and one that changes its flags. -/
theorem execute_statements_retyped :
    let previous : Table := ⟨"users", "users", Dict.ofList [("id", .primaryKey),
      ("a", (Column.new "a" .int64).asUnique.asIndexed),
      ("b\x22", (Column.new "b\x22" .bool).asIndexed),
      ("c", (Column.new "c" .string).asUnique)], .empty⟩
    let next : Table := ⟨"users", "users", Dict.ofList [("id", .primaryKey),
      ("c", (Column.new "c" .string).asIndexed),
      ("b\x22", (Column.new "b\x22" .int64).asUnique)], .empty⟩
    let before : Draft := ⟨Dict.ofList [("users", previous)]⟩
    let after : Draft := ⟨Dict.ofList [("users", next)]⟩
    before.Reachable ∧ after.Reachable ∧
      statements (some previous) next =
        ["ALTER TABLE \x22users\x22 DROP CONSTRAINT \x22users__unique__a\x22;",
          "DROP INDEX \x22users__index__a\x22;",
          "ALTER TABLE \x22users\x22 DROP COLUMN \x22a\x22;",
          "ALTER TABLE \x22users\x22 DROP CONSTRAINT \x22users__unique__c\x22;",
          "CREATE INDEX \x22users__index__c\x22 ON \x22users\x22 (\x22c\x22);",
          "DROP INDEX \x22users__index__b\x22\x22\x22;",
          "ALTER TABLE \x22users\x22 DROP COLUMN \x22b\x22\x22\x22;",
          "ALTER TABLE \x22users\x22 ADD COLUMN \x22b\x22\x22\x22 bigint NOT NULL DEFAULT 0;",
          "ALTER TABLE \x22users\x22 ADD CONSTRAINT \x22users__unique__b\x22\x22\x22 " ++
            "UNIQUE (\x22b\x22\x22\x22);"] ∧
      execute (some previous.layout) (statements (some previous) next) = .ok (some next.layout) ∧
      execute none (statements none next) = .ok (some next.layout) := by
  intro previous next before after
  have hprevious : Draft.empty.add ⟨none, "users", Dict.ofList [
      ("a", ⟨"Int64", [], true, true, false, false⟩),
      ("b\x22", ⟨"Bool", [], false, true, false, false⟩),
      ("c", ⟨"String", [], true, false, false, false⟩)], .empty⟩ = .ok (previous, before) := rfl
  have hnext : Draft.empty.add ⟨none, "users", Dict.ofList [
      ("c", ⟨"String", [], false, true, false, false⟩),
      ("b\x22", ⟨"Int64", [], true, false, false, false⟩)], .empty⟩ = .ok (next, after) := rfl
  have hbefore : before.Reachable := .add .empty hprevious
  have hafter : after.Reachable := .add .empty hnext
  refine ⟨hbefore, hafter, by decide, ?_⟩
  exact execute_statements hbefore hafter List.mem_cons_self List.mem_cons_self rfl

end Migration

end SqlCatalog
