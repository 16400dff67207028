-- SUMMARY: Building a catalog checks links exactly: when it succeeds and what it reports.
import SqlCatalog.Proofs.WellFormed

/-!
# Links

A table links to others through its columns, and through the views that follow
these columns into a view of the other table. A catalog is built exactly when
every link leads somewhere. Otherwise the broken links are reported one by one;
a view that follows a column into a missing table is silent, since the column
itself is reported then.
-/

namespace SqlCatalog

/-- A link of a table: that of a column, or that of a view which follows a column. -/
inductive Link where
  | ofColumn (table column linkedTable : String)
  | ofView (table view column linkedTable linkedView : String)

namespace Link

/-- The table of a column is missing, or the table of a view column lacks the view. -/
def Broken (tables : Dict Table) : Link → Prop
  | .ofColumn _ _ linkedTable => linkedTable ∉ tables.keys
  | .ofView _ _ _ linkedTable linkedView =>
    ∃ target ∈ tables.find? linkedTable, linkedView ∉ target.views.keys

instance decidableBroken (tables : Dict Table) : DecidablePred (Broken tables)
  | .ofColumn _ _ linkedTable => inferInstanceAs (Decidable (linkedTable ∉ tables.keys))
  | .ofView _ _ _ linkedTable linkedView =>
    inferInstanceAs (Decidable (∃ target ∈ tables.find? linkedTable, linkedView ∉ target.views.keys))

@[simp] theorem broken_ofColumn {tables : Dict Table} {table column linkedTable : String} :
    Broken tables (.ofColumn table column linkedTable) ↔ linkedTable ∉ tables.keys :=
  Iff.rfl

@[simp] theorem broken_ofView {tables : Dict Table}
    {table view column linkedTable linkedView : String} :
    Broken tables (.ofView table view column linkedTable linkedView) ↔
      ∃ target ∈ tables.find? linkedTable, linkedView ∉ target.views.keys :=
  Iff.rfl

/-- Whether a link is broken depends on the tables as a map only. -/
theorem broken_congr {tables tables' : Dict Table}
    (h : ∀ name, tables.find? name = tables'.find? name) (link : Link) :
    link.Broken tables ↔ link.Broken tables' := by
  cases link with
  | ofColumn table column linkedTable => simp [Dict.mem_keys, h]
  | ofView table view column linkedTable linkedView => simp [h]

def error : Link → SchemaError
  | .ofColumn table column linkedTable => .danglingLinkTable table column linkedTable
  | .ofView table view column linkedTable linkedView =>
    .danglingLinkView table view column linkedTable linkedView

end Link

namespace Table

def columnLinks (t : Table) : List Link :=
  t.columns.values.filterMap fun c => c.linkedTable.map (.ofColumn t.name c.name)

def viewLinks (t : Table) : List Link :=
  t.views.values.flatMap fun v => v.columns.filterMap fun c =>
    c.linkedTable.bind fun linkedTable => c.linkedView.map (.ofView t.name v.name c.name linkedTable)

/-- The links of the columns in order, then those of the views in order. -/
def allLinks (t : Table) : List Link := t.columnLinks ++ t.viewLinks

theorem mem_columnLinks {t : Table} {link : Link} :
    link ∈ t.columnLinks ↔ ∃ c ∈ t.columns.values, ∃ linkedTable ∈ c.linkedTable,
      .ofColumn t.name c.name linkedTable = link := by
  simp [columnLinks]

theorem mem_viewLinks {t : Table} {link : Link} :
    link ∈ t.viewLinks ↔ ∃ v ∈ t.views.values, ∃ c ∈ v.columns, ∃ linkedTable ∈ c.linkedTable,
      ∃ linkedView ∈ c.linkedView, .ofView t.name v.name c.name linkedTable linkedView = link := by
  simp [viewLinks, Option.bind_eq_some_iff]

theorem danglingTables_eq (tables : Dict Table) (t : Table) :
    t.danglingTables tables = (t.columnLinks.filter (Link.Broken tables)).map Link.error := by
  unfold danglingTables columnLinks
  rw [List.filter_filterMap, List.map_filterMap]
  congr 1
  funext c
  cases c.linkedTable with
  | none => rfl
  | some linkedTable =>
    by_cases hmem : linkedTable ∈ tables.keys
    · simp [hmem, Option.filter]
    · simp [hmem, Option.filter, Link.error]

theorem danglingViews_eq (tables : Dict Table) (t : Table) :
    t.danglingViews tables = (t.viewLinks.filter (Link.Broken tables)).map Link.error := by
  unfold danglingViews viewLinks
  rw [List.filter_flatMap, List.map_flatMap]
  congr 1
  funext v
  rw [View.links, List.filterMap_filter, List.filter_filterMap, List.map_filterMap]
  congr 1
  funext c
  cases c.linkedTable with
  | none => simp
  | some linkedTable =>
    cases c.linkedView with
    | none => simp
    | some linkedView =>
      cases hfind : tables.find? linkedTable with
      | none => simp [hfind, Option.filter]
      | some target =>
        by_cases hmem : linkedView ∈ target.views.keys
        · simp [hfind, hmem, Option.filter]
        · simp [hfind, hmem, Option.filter, Link.error]

/-- A table's errors are those of its broken links. -/
theorem danglingLinks_eq (tables : Dict Table) (t : Table) :
    t.danglingLinks tables = (t.allLinks.filter (Link.Broken tables)).map Link.error := by
  rw [danglingLinks, danglingTables_eq, danglingViews_eq, allLinks, List.filter_append,
    List.map_append]

theorem danglingLinks_congr {tables tables' : Dict Table}
    (h : ∀ name, tables.find? name = tables'.find? name) (t : Table) :
    t.danglingLinks tables = t.danglingLinks tables' := by
  rw [danglingLinks_eq, danglingLinks_eq]
  congr 1
  apply List.filter_congr
  intro link _
  simp [Link.broken_congr h link]

end Table

/-! ## Links of well-formed tables -/

namespace Table.WellFormed

variable {t : Table} {v : View} {c : ViewColumn}

theorem linkedTable_of_linkedView (h : t.WellFormed) (hv : v ∈ t.views.values)
    (hc : c ∈ v.columns) {linkedView : String} (hview : linkedView ∈ c.linkedView) :
    ∃ linkedTable, linkedTable ∈ c.linkedTable := by
  have hiff := ((h.views v hv).columns c hc).both_iff
  exact Option.isSome_iff_exists.1 (hiff.2 (Option.isSome_iff_exists.2 ⟨linkedView, hview⟩))

/-- A view column that follows a link has the link of its column. -/
theorem column_of_linkedTable (h : t.WellFormed) (hv : v ∈ t.views.values) (hc : c ∈ v.columns)
    {linkedTable : String} (htable : linkedTable ∈ c.linkedTable) :
    ∃ column ∈ t.columns.values, column.name = c.name ∧ column.linkedTable = some linkedTable := by
  obtain ⟨column, hfind, -, hlinked⟩ :=
    ((h.views v hv).columns c hc).linked linkedTable htable
  exact ⟨column, Dict.mem_values.2 ⟨c.name, hfind⟩, h.columns_named c.name column hfind, hlinked⟩

end Table.WellFormed

/-! ## Building a catalog -/

namespace Draft

/-- Every link of a column leads to a registered table, and every view that follows a column leads
to a view of the registered table. -/
structure Linked (draft : Draft) : Prop where
  columns : ∀ t ∈ draft.tables.values, ∀ c ∈ t.columns.values, ∀ linkedTable ∈ c.linkedTable,
    linkedTable ∈ draft.tables.keys
  views : ∀ t ∈ draft.tables.values, ∀ v ∈ t.views.values, ∀ c ∈ v.columns,
    ∀ linkedView ∈ c.linkedView, ∃ linkedTable ∈ c.linkedTable,
      ∃ target ∈ draft.tables.find? linkedTable, linkedView ∈ target.views.keys

theorem linkErrors_eq (draft : Draft) :
    draft.linkErrors = draft.tables.values.flatMap fun t =>
      (t.allLinks.filter (Link.Broken draft.tables)).map Link.error := by
  unfold linkErrors
  congr 1
  funext t
  exact t.danglingLinks_eq draft.tables

theorem linkErrors_eq_nil {draft : Draft} :
    draft.linkErrors = [] ↔
      ∀ t ∈ draft.tables.values, ∀ link ∈ t.allLinks, ¬ link.Broken draft.tables := by
  simp [linkErrors_eq, List.flatMap_eq_nil_iff, List.filter_eq_nil_iff]

/-- The links of well-formed tables lead somewhere exactly when none is broken. A view that follows
a column into a missing table is not broken itself; then the column is. -/
theorem linkErrors_eq_nil_iff_linked {draft : Draft} (h : Table.AllWellFormed draft.tables) :
    draft.linkErrors = [] ↔ draft.Linked := by
  rw [linkErrors_eq_nil]
  constructor
  · intro hlinks
    have hcolumns : ∀ t ∈ draft.tables.values, ∀ c ∈ t.columns.values,
        ∀ linkedTable ∈ c.linkedTable, linkedTable ∈ draft.tables.keys := by
      intro t ht c hc linkedTable htable
      have hlink := hlinks t ht _ (List.mem_append_left _
        (Table.mem_columnLinks.2 ⟨c, hc, linkedTable, htable, rfl⟩))
      simpa using hlink
    refine ⟨hcolumns, ?_⟩
    intro t ht v hv c hc linkedView hview
    obtain ⟨key, hkey⟩ := Dict.mem_values.1 ht
    have hwell := (h key t hkey).2
    obtain ⟨linkedTable, htable⟩ := hwell.linkedTable_of_linkedView hv hc hview
    obtain ⟨column, hcolumn, -, hlinked⟩ := hwell.column_of_linkedTable hv hc htable
    obtain ⟨target, htarget⟩ := Dict.mem_keys.1 (hcolumns t ht column hcolumn linkedTable hlinked)
    have hlink := hlinks t ht _ (List.mem_append_right _
      (Table.mem_viewLinks.2 ⟨v, hv, c, hc, linkedTable, htable, linkedView, hview, rfl⟩))
    refine ⟨linkedTable, htable, target, htarget, ?_⟩
    by_contra hnot
    exact hlink ⟨target, htarget, hnot⟩
  · intro hlinked t ht link hlink
    rcases List.mem_append.1 hlink with hlink | hlink
    · obtain ⟨c, hc, linkedTable, htable, rfl⟩ := Table.mem_columnLinks.1 hlink
      simpa using hlinked.columns t ht c hc linkedTable htable
    · obtain ⟨v, hv, c, hc, linkedTable, htable, linkedView, hview, rfl⟩ :=
        Table.mem_viewLinks.1 hlink
      obtain ⟨linkedTable', htable', target, htarget, hmem⟩ :=
        hlinked.views t ht v hv c hc linkedView hview
      obtain rfl : linkedTable = linkedTable' := Option.mem_unique htable htable'
      rintro ⟨target', htarget', hnot⟩
      obtain rfl : target = target' := Option.mem_unique htarget htarget'
      exact hnot hmem

/-- A view that follows a column into a missing table is reported with that column. -/
theorem mem_linkErrors_of_missing {draft : Draft} (h : Table.AllWellFormed draft.tables) {t : Table}
    (ht : t ∈ draft.tables.values) {v : View} (hv : v ∈ t.views.values) {c : ViewColumn}
    (hc : c ∈ v.columns) {linkedTable : String} (htable : linkedTable ∈ c.linkedTable)
    (hmissing : linkedTable ∉ draft.tables.keys) :
    .danglingLinkTable t.name c.name linkedTable ∈ draft.linkErrors := by
  obtain ⟨key, hkey⟩ := Dict.mem_values.1 ht
  obtain ⟨column, hcolumn, hname, hlinked⟩ := (h key t hkey).2.column_of_linkedTable hv hc htable
  have hlink : .ofColumn t.name c.name linkedTable ∈ t.allLinks := by
    apply List.mem_append_left
    exact Table.mem_columnLinks.2 ⟨column, hcolumn, linkedTable, hlinked, by rw [hname]⟩
  rw [linkErrors_eq, List.mem_flatMap]
  refine ⟨t, ht, List.mem_map.2 ⟨_, List.mem_filter.2 ⟨hlink, ?_⟩, rfl⟩⟩
  simpa using hmissing

/-- Building succeeds exactly when every link leads somewhere. The catalog then holds the accepted
tables in order; otherwise the errors are those of the broken links, in the order of the tables
and of their columns and views. -/
theorem build_iff_linked (sources : List Source) :
    let draft := Draft.empty.after sources
    ((∃ c, draft.build = .ok c) ↔ draft.Linked) ∧
      (∀ c, draft.build = .ok c →
        c.tables.entries = (Draft.empty.accepted sources).map fun t => (t.name, t)) ∧
      ∀ errors, draft.build = .error errors →
        (errors = (Draft.empty.accepted sources).flatMap fun t =>
          (t.allLinks.filter (Link.Broken draft.tables)).map Link.error) ∧
        ∀ t ∈ draft.tables.values, ∀ v ∈ t.views.values, ∀ c ∈ v.columns,
          ∀ linkedTable ∈ c.linkedTable, linkedTable ∉ draft.tables.keys →
            .danglingLinkTable t.name c.name linkedTable ∈ errors := by
  intro draft
  have hwell : Table.AllWellFormed draft.tables := allWellFormed_after sources
  refine ⟨?_, ?_, ?_⟩
  · rw [← linkErrors_eq_nil_iff_linked hwell]
    simp [build_eq_ok]
  · intro c hbuild
    obtain ⟨-, rfl⟩ := build_eq_ok.1 hbuild
    exact entries_after_empty sources
  · intro errors hbuild
    obtain ⟨rfl, -⟩ := build_eq_error.1 hbuild
    refine ⟨?_, ?_⟩
    · rw [linkErrors_eq, values_after_empty]
    · intro t ht v hv c hc linkedTable htable hmissing
      exact mem_linkErrors_of_missing hwell ht hv hc htable hmissing

/-- A table that links to a missing one, and to itself through a view it has and one it lacks. -/
theorem build_iff_linked_partly :
    let sources : List Source := [.read ⟨none, "DB.orders",
      Dict.ofList [("owner", ⟨"DB.users", [], false, false, false, false⟩),
        ("parent", ⟨"DB.orders", [], false, false, false, false⟩)],
      Dict.ofList [("v", ⟨"", ["owner@brief", "parent@w", "parent@v"]⟩)]⟩]
    let draft := Draft.empty.after sources
    draft.build = .error [.danglingLinkTable "orders" "owner" "users",
      .danglingLinkView "orders" "v" "parent" "orders" "w"] ∧ ¬ draft.Linked := by
  intro sources draft
  have herrors : draft.linkErrors = [.danglingLinkTable "orders" "owner" "users",
      .danglingLinkView "orders" "v" "parent" "orders" "w"] := by
    decide +kernel
  have hbuild := build_eq_error.2 ⟨herrors, by simp⟩
  refine ⟨hbuild, ?_⟩
  intro hlinked
  obtain ⟨c, hc⟩ := (build_iff_linked sources).1.2 hlinked
  exact absurd (hbuild.symm.trans hc) (by simp)

end Draft

end SqlCatalog
