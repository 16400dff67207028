-- SUMMARY: The invariant of registered tables: names, primary key, links and views fit together.
import Mathlib.Data.List.Nodup
import SqlCatalog.Proofs.Registered

/-!
# Well-formed tables

Whatever declarations a draft was handed, and whichever of them it refused, each
of its tables is well formed: everything stands under its own name, the primary
key is the column `id` and no other, a column links to a table exactly when its
type is a link type, and views list columns of the table, follow only links of
these columns and carry the text and the identity that their columns give.
-/

namespace SqlCatalog

/-! ## The invariant -/

structure Column.WellFormed (c : Column) : Prop where
  linked_iff : c.linkedTable.isSome ↔
    c.type ∈ [ColumnType.linkedKey, .linkedKeyList, .linkedKeyMap]
  not_child : c.allows .child = false

/-- What every table may rely on in its primary key. -/
structure Column.IsKey (c : Column) : Prop where
  unique : c.unique = true
  required : c.required = true
  allows : ∀ op ∈ [Operator.eq, .isIn, .notIn], c.allows op = true
  unlinked : c.linkedTable = none

/-- A view column of a table with the given columns: it follows a link of its column or none. -/
structure ViewColumn.WellFormed (columns : Dict Column) (c : ViewColumn) : Prop where
  listed : c.name ∈ columns.keys
  both_iff : c.linkedTable.isSome ↔ c.linkedView.isSome
  linked : ∀ linkedTable ∈ c.linkedTable, ∃ column, columns.find? c.name = some column ∧
    column.type ∈ [ColumnType.linkedKey, .linkedKeyList, .linkedKeyMap] ∧
    column.linkedTable = some linkedTable

structure View.WellFormed (t : Table) (v : View) : Prop where
  nonempty : v.columns ≠ []
  columns : ∀ c ∈ v.columns, c.WellFormed t.columns
  cacheSeconds_nonneg : 0 ≤ v.cacheSeconds
  selectList_eq : v.selectList = ",".intercalate (v.columns.map ViewColumn.name)
  identity_eq : v.identity =
    View.identityOf (1 + (t.views.keys.filter fun name => name < v.name).length) v.columns

structure Table.WellFormed (t : Table) : Prop where
  name_eq : t.name = TableName.ofNamespace t.space
  name_ne : t.name ≠ ""
  name_undotted : '.' ∉ t.name.toList
  columns_named : ∀ key c, t.columns.find? key = some c → c.name = key
  views_named : ∀ key v, t.views.find? key = some v → v.name = key
  key : ∃ c, t.columns.entries.filter (fun e => e.2.type = .primaryKey) = [(Sql.idColumn, c)] ∧
    c.IsKey
  columns : ∀ c ∈ t.columns.values, c.WellFormed
  views : ∀ v ∈ t.views.values, v.WellFormed t

/-- Every table stands under its own name and is well formed. -/
def Table.AllWellFormed (tables : Dict Table) : Prop :=
  ∀ key t, tables.find? key = some t → t.name = key ∧ t.WellFormed

/-! ## Columns -/

theorem ColumnType.isLinked_iff {type : ColumnType} :
    type.isLinked = true ↔ type ∈ [ColumnType.linkedKey, .linkedKeyList, .linkedKeyMap] := by
  cases type <;> decide

theorem Column.wellFormed_primaryKey : Column.primaryKey.WellFormed :=
  ⟨by decide, rfl⟩

theorem Column.isKey_primaryKey : Column.primaryKey.IsKey :=
  ⟨rfl, rfl, by decide, rfl⟩

namespace ColumnDeclaration.Builds

variable {d : ColumnDeclaration} {name : String} {c : Column}

theorem wellFormed (h : d.Builds name c) : c.WellFormed where
  linked_iff := by
    rw [ColumnType.isSome_of_ofDeclaration? h.type_eq, ColumnType.isLinked_iff]
  not_child := h.not_child

theorem isKey (h : d.Builds Sql.idColumn c) : c.IsKey where
  unique := by simp [h.unique_eq]
  required := by simp [h.required_eq]
  allows := fun op hop => (h.allows_iff op).2 (.inr ⟨rfl, hop⟩)
  unlinked := by
    have hlinked := ColumnType.isSome_of_ofDeclaration? h.type_eq
    rw [h.key_iff.2 rfl] at hlinked
    simpa [ColumnType.isLinked] using hlinked

end ColumnDeclaration.Builds

/-! ## Views -/

namespace ViewDeclaration

theorem wellFormed_of_entry {table view : String} {columns : Dict Column} {text : String}
    {c : ViewColumn} (h : entry table view columns text = .ok c) : c.WellFormed columns := by
  obtain ⟨column, hfind, hplain | ⟨linkedTable, linkedView, hlinked, htype, htable⟩⟩ :=
    entry_eq_ok h
  · rw [hplain]
    exact {
      listed := Dict.mem_keys.2 ⟨column, hfind⟩
      both_iff := by simp [ViewColumn.plain]
      linked := by simp [ViewColumn.plain] }
  · rw [hlinked]
    refine {
      listed := Dict.mem_keys.2 ⟨column, hfind⟩
      both_iff := by simp [ViewColumn.linked]
      linked := ?_ }
    rintro _ ⟨⟩
    exact ⟨column, hfind, ColumnType.isLinked_iff.1 htype, htable⟩

theorem wellFormed_of_build {d : ViewDeclaration} {name : String} {t : Table} {v : View}
    (h : d.build t.name name t.columns t.views.keys = .ok v) : v.name = name ∧ v.WellFormed t := by
  obtain ⟨made, seconds, hmade, hne, hseconds, rfl⟩ := build_eq_ok.1 h
  refine ⟨rfl, ?_⟩
  exact {
    nonempty := hne
    columns := by
      intro c hc
      obtain ⟨text, -, hentry⟩ := entry_of_mem hmade hc
      exact wellFormed_of_entry hentry
    cacheSeconds_nonneg := by
      have hbound := Lifetime.le_of_ofText? hseconds
      unfold Lifetime.maxSeconds at hbound
      rw [Int64.le_iff_toInt_le, Int64.toInt_ofNat_of_lt (by omega)]
      exact Int.natCast_nonneg seconds
    selectList_eq := rfl
    identity_eq := rfl }

end ViewDeclaration

/-! ## Tables -/

namespace Declaration

variable {d : Declaration} {t : Table}

/-- Every column of a built table is well formed, and the primary key is what it should be. -/
theorem column_of_build (h : d.build = .ok t) {name : String} {c : Column}
    (hfind : t.columns.find? name = some c) :
    c.WellFormed ∧ (name = Sql.idColumn → c.IsKey) := by
  rcases (find?_columns h).1 hfind with ⟨-, -, rfl⟩ | ⟨declared, -, hbuild⟩
  · exact ⟨Column.wellFormed_primaryKey, fun _ => Column.isKey_primaryKey⟩
  · have hbuilds := ColumnDeclaration.builds_of_build hbuild
    refine ⟨hbuilds.wellFormed, ?_⟩
    rintro rfl
    exact hbuilds.isKey

theorem idColumn_mem_columns (h : d.build = .ok t) : Sql.idColumn ∈ t.columns.keys := by
  rw [keys_columns h, List.mem_append]
  by_cases hdeclared : Sql.idColumn ∈ d.columns.keys
  · exact .inr hdeclared
  · exact .inl (Dict.mem_keys.2 ⟨.primaryKey, find?_initialColumns.2 ⟨hdeclared, rfl, rfl⟩⟩)

/-- The column `id` is the only one with the type of a primary key. -/
theorem key_of_build (h : d.build = .ok t) : ∃ c,
    t.columns.entries.filter (fun e => e.2.type = .primaryKey) = [(Sql.idColumn, c)] ∧ c.IsKey := by
  obtain ⟨c, hfind⟩ := Dict.mem_keys.1 (idColumn_mem_columns h)
  have hkeyed := build_keyed h
  have hnodup : t.columns.entries.Nodup := List.Nodup.of_map Prod.fst t.columns.distinct
  refine ⟨c, ?_, (column_of_build h hfind).2 rfl⟩
  apply List.perm_singleton.1
  rw [List.perm_ext_iff_of_nodup (hnodup.filter _) (List.nodup_singleton _)]
  rintro ⟨name, other⟩
  simp only [List.mem_filter, Dict.mem_entries, decide_eq_true_eq, List.mem_singleton]
  constructor
  · rintro ⟨hother, htype⟩
    obtain rfl := (hkeyed name other hother).2.1 htype
    rw [hfind] at hother
    cases hother
    rfl
  · rintro ⟨⟩
    exact ⟨hfind, (hkeyed _ c hfind).2.2 rfl⟩

theorem wellFormed_of_build (h : d.build = .ok t) : t.WellFormed := by
  obtain ⟨hne, -, hname, hspace, -, -⟩ := build_eq_ok.1 h
  exact {
    name_eq := by rw [hname, hspace, tableName]
    name_ne := by rwa [hname]
    name_undotted := by
      rw [hname]
      exact TableName.dot_notMem_ofNamespace d.table
    columns_named := fun name c hfind => (build_keyed h name c hfind).1
    views_named := by
      intro name v hfind
      obtain ⟨declared, -, hbuild⟩ := (find?_views h).1 hfind
      exact (ViewDeclaration.wellFormed_of_build hbuild).1
    key := key_of_build h
    columns := by
      intro c hc
      obtain ⟨name, hfind⟩ := Dict.mem_values.1 hc
      exact (column_of_build h hfind).1
    views := by
      intro v hv
      obtain ⟨name, hfind⟩ := Dict.mem_values.1 hv
      obtain ⟨declared, -, hbuild⟩ := (find?_views h).1 hfind
      exact (ViewDeclaration.wellFormed_of_build hbuild).2 }

end Declaration

/-! ## Drafts and catalogs -/

theorem Draft.allWellFormed_after (sources : List Source) :
    Table.AllWellFormed (Draft.empty.after sources).tables := by
  intro key t hfind
  obtain ⟨rfl, d, -, hbuild⟩ := built_of_find? hfind
  exact ⟨rfl, Declaration.wellFormed_of_build hbuild⟩

/-- After any sequence of declarations, accepted or refused, the draft and its catalog hold
well-formed tables only. -/
theorem Draft.wellFormed_after (sources : List Source) :
    Table.AllWellFormed (Draft.empty.after sources).tables ∧
      ∀ c, (Draft.empty.after sources).build = .ok c → Table.AllWellFormed c.tables := by
  refine ⟨allWellFormed_after sources, ?_⟩
  intro c hbuild
  obtain ⟨-, rfl⟩ := build_eq_ok.1 hbuild
  exact allWellFormed_after sources

/-- A table that is declared twice, a text that is no declaration, and a declared primary key. -/
theorem Draft.wellFormed_after_mixed :
    let sources : List Source := [
      .toml "table = 'DB.users'\n[views.brief]\ncolumns = ['id']",
      .json "[null, \x22users\x22]",
      .json "[1]",
      .read ⟨none, "DB.shop.orders",
        Dict.ofList [("id", ⟨"PK", ["!="], false, false, true, false⟩),
          ("owner", ⟨"List<DB.users>", ["="], false, false, false, false⟩)],
        Dict.ofList [("z", ⟨"1h30m", ["owner@brief", "id"]⟩), ("a", ⟨"", ["owner"]⟩)]⟩]
    (Draft.empty.answers sources).map Except.isOk = [true, false, false, true] ∧
      (Draft.empty.after sources).tables.keys = ["users", "shop_orders"] ∧
      ∃ c, (Draft.empty.after sources).build = .ok c ∧ Table.AllWellFormed c.tables := by
  intro sources
  have hanswers : (Draft.empty.answers sources).map Except.isOk = [true, false, false, true] := by
    decide +kernel
  have hkeys : (Draft.empty.after sources).tables.keys = ["users", "shop_orders"] := by
    decide +kernel
  have hlinks : (Draft.empty.after sources).linkErrors = [] := by
    decide +kernel
  have hbuild := build_eq_ok.2 ⟨hlinks, rfl⟩
  exact ⟨hanswers, hkeys, _, hbuild, (Draft.wellFormed_after sources).2 _ hbuild⟩

end SqlCatalog
