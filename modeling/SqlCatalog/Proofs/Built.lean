-- SUMMARY: What a declaration becomes: its columns, its views and its table, part by part.
import Mathlib.Data.List.Forall2
import SqlCatalog.Proofs.Declared

/-!
# Built tables

A declaration that builds determines its table part by part. Every column and
every view is built from what was declared under the same name, in the order of
the declaration. Only the primary key may be there without having been declared.
-/

namespace SqlCatalog

/-! ## Collecting -/

theorem exists_of_forall₂ {α β : Type} {R : α → β → Prop} {as : List α} {bs : List β}
    (h : List.Forall₂ R as bs) {b : β} (hb : b ∈ bs) : ∃ a ∈ as, R a b := by
  induction h with
  | nil => cases hb
  | @cons a _ as _ hab _ ih =>
    rcases List.mem_cons.1 hb with rfl | hb
    · exact ⟨a, List.mem_cons_self, hab⟩
    · obtain ⟨a', ha', hab'⟩ := ih hb
      exact ⟨a', List.mem_cons_of_mem a ha', hab'⟩

namespace Dict

variable {α β ε : Type} {make : String → β → Except ε α}

/-- An entry that was made from a source with the same key. -/
def MadeBy (make : String → β → Except ε α) (source : String × β) (entry : String × α) : Prop :=
  entry.1 = source.1 ∧ make source.1 source.2 = .ok entry.2

theorem keys_of_made {sources : List (String × β)} {made : List (String × α)}
    (h : List.Forall₂ (MadeBy make) sources made) : Entries.keys made = Entries.keys sources := by
  induction h with
  | nil => rfl
  | cons hmade _ ih =>
    simp only [Entries.keys, List.map_cons, List.cons.injEq] at ih ⊢
    exact ⟨hmade.1, ih⟩

theorem mem_made {sources : List (String × β)} {made : List (String × α)}
    (h : List.Forall₂ (MadeBy make) sources made) {key : String} {value : α} :
    (key, value) ∈ made ↔ ∃ source, (key, source) ∈ sources ∧ make key source = .ok value := by
  constructor
  · intro hmem
    obtain ⟨⟨_, source⟩, hsource, rfl, hvalue⟩ := exists_of_forall₂ h hmem
    exact ⟨source, hsource, hvalue⟩
  · rintro ⟨source, hsource, hvalue⟩
    have hflip : List.Forall₂ (flip (MadeBy make)) made sources := List.Forall₂.flip h
    obtain ⟨⟨_, value'⟩, hmem, rfl, hvalue'⟩ := exists_of_forall₂ hflip hsource
    cases hvalue.symm.trans hvalue'
    exact hmem

/-- Collecting under new keys appends what was made of every source. -/
theorem collect_eq_ok {d all : Dict α} {sources : List (String × β)}
    (hkeys : (d.keys ++ Entries.keys sources).Nodup) :
    d.collect make sources = .ok all ↔
      ∃ made, List.Forall₂ (MadeBy make) sources made ∧ all.entries = d.entries ++ made := by
  induction sources generalizing d with
  | nil =>
    simp only [collect, List.forall₂_nil_left_iff, exists_eq_left, List.append_nil]
    constructor
    · rintro ⟨⟩
      rfl
    · intro h
      cases d
      cases all
      cases h
      rfl
  | cons source rest ih =>
    obtain ⟨key, source⟩ := source
    have hnew : key ∉ d.keys := by
      intro hmem
      exact (List.nodup_append.1 hkeys).2.2 key hmem key List.mem_cons_self rfl
    have hkeys' (value : α) : ((d.insert key value).keys ++ Entries.keys rest).Nodup := by
      have heq : (d.insert key value).keys ++ Entries.keys rest =
          d.keys ++ Entries.keys ((key, source) :: rest) := by
        simp [keys, Entries.keys, entries_insert hnew]
      rwa [heq]
    rw [collect, bind_eq_ok]
    constructor
    · rintro ⟨value, hvalue, hrest⟩
      obtain ⟨made, hmade, hall⟩ := (ih (hkeys' value)).1 hrest
      refine ⟨(key, value) :: made, .cons ⟨rfl, hvalue⟩ hmade, ?_⟩
      simpa [entries_insert hnew] using hall
    · rintro ⟨_, hmade, hall⟩
      obtain ⟨⟨_, value⟩, made, ⟨rfl, hvalue⟩, hrest, rfl⟩ := List.forall₂_cons_left_iff.1 hmade
      refine ⟨value, hvalue, (ih (hkeys' value)).2 ⟨made, hrest, ?_⟩⟩
      simpa [entries_insert hnew] using hall

theorem keys_collect {d all : Dict α} {sources : List (String × β)}
    (hkeys : (d.keys ++ Entries.keys sources).Nodup) (h : d.collect make sources = .ok all) :
    all.keys = d.keys ++ Entries.keys sources := by
  obtain ⟨made, hmade, hall⟩ := (collect_eq_ok hkeys).1 h
  rw [← keys_of_made hmade, keys, hall]
  exact List.map_append

theorem find?_collect {d all : Dict α} {sources : List (String × β)}
    (hkeys : (d.keys ++ Entries.keys sources).Nodup) (h : d.collect make sources = .ok all)
    {key : String} {value : α} :
    all.find? key = some value ↔
      d.find? key = some value ∨ ∃ source, (key, source) ∈ sources ∧ make key source = .ok value := by
  obtain ⟨made, hmade, hall⟩ := (collect_eq_ok hkeys).1 h
  rw [← mem_entries, ← mem_entries, hall, List.mem_append, mem_made hmade]

end Dict

/-! ## Columns -/

theorem ColumnType.isSome_of_ofDeclaration? {text : String} {type : ColumnType}
    {linkedTable : Option String} (h : ofDeclaration? text = some (type, linkedTable)) :
    linkedTable.isSome = type.isLinked := by
  unfold ofDeclaration? at h
  split at h
  · split at h
    · cases h
    · rename_i hplain
      cases h
      simpa using hplain
  · dsimp only at h
    split at h
    · cases h
      rfl
    · split at h
      · cases h
        rfl
      · obtain ⟨table, -, heq⟩ := Option.map_eq_some_iff.1 h
        cases heq
        rfl

namespace ColumnDeclaration

/-- The operators of a column are those its texts name, and none is the child query. -/
theorem operators_eq_ok {table column : String} {texts : List String} {ops : List Operator} :
    operators table column texts = .ok ops ↔
      texts.map Operator.ofText? = ops.map some ∧ .child ∉ ops := by
  induction texts generalizing ops with
  | nil => cases ops <;> simp [operators]
  | cons text rest ih =>
    unfold operators
    split
    · rename_i hnone
      cases ops <;> simp [hnone]
    · rename_i hchild
      cases ops <;> grind
    · rename_i op hne hop
      have hstep : (operators table column rest).map (op :: ·) = .ok ops ↔
          ∃ others, operators table column rest = .ok others ∧ op :: others = ops := by
        cases operators table column rest <;> simp [Except.map]
      simp only [hstep, ih]
      cases ops with
      | nil => simp
      | cons first others =>
        simp only [List.map_cons, hop, List.cons.injEq, Option.some.injEq, List.mem_cons, not_or]
        constructor
        · rintro ⟨_, ⟨hrest, hnot⟩, rfl, rfl⟩
          exact ⟨⟨rfl, hrest⟩, fun heq => hne heq.symm, hnot⟩
        · rintro ⟨⟨rfl, hrest⟩, -, hnot⟩
          exact ⟨others, ⟨hrest, hnot⟩, rfl, rfl⟩

/-- What a column declared under `name` becomes: the column `id` has what every primary key has,
and what its declaration adds. -/
structure Builds (d : ColumnDeclaration) (name : String) (c : Column) : Prop where
  name_eq : c.name = name
  type_eq : ColumnType.ofDeclaration? d.type = some (c.type, c.linkedTable)
  key_iff : c.type = .primaryKey ↔ name = Sql.idColumn
  unique_eq : c.unique = (d.unique || name = Sql.idColumn)
  indexed_eq : c.indexed = d.index
  orderable_eq : c.orderable = d.order
  required_eq : c.required = (d.required || name = Sql.idColumn)
  allows_iff : ∀ op, c.allows op ↔
    (∃ text ∈ d.query, Operator.ofText? text = some op) ∨
      (name = Sql.idColumn ∧ op ∈ [Operator.eq, .isIn, .notIn])
  not_child : c.allows .child = false

/-- The column before its flags and operators: the primary key, or a new column. -/
theorem base_eq_ok {d : ColumnDeclaration} {table name : String} {c : Column}
    (h : d.base table name = .ok c) :
    (name = Sql.idColumn ∧ ColumnType.ofDeclaration? d.type = some (.primaryKey, none) ∧
        c = .primaryKey) ∨
      ∃ type linkedTable, name ≠ Sql.idColumn ∧
        ColumnType.ofDeclaration? d.type = some (type, linkedTable) ∧
        c = { Column.new name type with linkedTable := linkedTable } := by
  unfold base at h
  split at h
  · cases h
  · rename_i type linkedTable htype
    split at h
    · rename_i hid
      split at h
      · rename_i hkey
        cases h
        subst hkey
        have hlinked := ColumnType.isSome_of_ofDeclaration? htype
        obtain rfl : linkedTable = none := by simpa [ColumnType.isLinked] using hlinked
        exact .inl ⟨hid, htype, rfl⟩
      · cases h
    · rename_i hid
      split at h
      · cases h
      · cases h
        exact .inr ⟨type, linkedTable, hid, htype, rfl⟩

theorem builds_of_build {d : ColumnDeclaration} {table name : String} {c : Column}
    (h : d.build table name = .ok c) : d.Builds name c := by
  have hkeyed := build_keyed h
  simp only [build, bind_eq_ok, pure, Except.pure, Except.ok.injEq] at h
  obtain ⟨column, hbase, ops, hops, rfl⟩ := h
  obtain ⟨htexts, hchild⟩ := operators_eq_ok.1 hops
  have hmem (op : Operator) : op ∈ ops ↔ ∃ text ∈ d.query, Operator.ofText? text = some op := by
    rw [← List.mem_map, htexts]
    simp
  have hallows (op : Operator) : (column.queryable.union ops).contains op ↔
      (∃ text ∈ d.query, Operator.ofText? text = some op) ∨ column.allows op := by
    rw [OperatorSet.contains_union, Bool.or_eq_true, List.contains_iff_mem, hmem, or_comm]
    rfl
  have hother : (column.queryable.union ops).contains .child = column.allows .child := by
    simp [Column.allows, hchild]
  rcases base_eq_ok hbase with ⟨hid, htype, rfl⟩ | ⟨type, linkedTable, hid, htype, rfl⟩
  · exact {
      name_eq := hkeyed.1
      type_eq := htype
      key_iff := hkeyed.2
      unique_eq := by simp [hid, Column.primaryKey, Column.asUnique, Column.asRequired]
      indexed_eq := rfl
      orderable_eq := rfl
      required_eq := by simp [hid, Column.primaryKey, Column.asRequired]
      allows_iff := by
        intro op
        rw [Column.allows, hallows, Column.allows_primaryKey, List.contains_iff_mem]
        simp [hid]
      not_child := hother }
  · have hnew (op : Operator) :
        Column.allows { Column.new name type with linkedTable := linkedTable } op = false :=
      Column.allows_new name type op
    exact {
      name_eq := rfl
      type_eq := htype
      key_iff := hkeyed.2
      unique_eq := by simp [hid, Column.new]
      indexed_eq := rfl
      orderable_eq := rfl
      required_eq := by simp [hid, Column.new]
      allows_iff := by
        intro op
        rw [Column.allows, hallows, hnew]
        simp [hid]
      not_child := hother.trans (hnew _) }

end ColumnDeclaration

/-! ## Views -/

namespace ViewDeclaration

/-- An entry is a name alone, or a name and a view with `@` between them; the name is that of a
column, and of one that links to a table where a view follows it. -/
theorem entry_eq_ok_iff {table view : String} {columns : Dict Column} {text : String}
    {c : ViewColumn} :
    entry table view columns text = .ok c ↔
      (∃ name column, (Text.splitAt '@' text.toList).map String.ofList = [name] ∧ name ≠ "" ∧
        columns.find? name = some column ∧ c = .plain name) ∨
      ∃ name linkedView column linkedTable,
        (Text.splitAt '@' text.toList).map String.ofList = [name, linkedView] ∧ name ≠ "" ∧
        linkedView ≠ "" ∧ columns.find? name = some column ∧ column.type.isLinked ∧
        column.linkedTable = some linkedTable ∧ c = .linked name linkedTable linkedView := by
  unfold entry
  dsimp only
  split
  · rename_i name hsplit
    rw [hsplit]
    by_cases hname : name = ""
    · simp [hname]
    · cases hfind : columns.find? name with
      | none => simp [hname, hfind, Except.map]
      | some column => simp [hname, hfind, Except.map, @eq_comm _ c]
  · rename_i name linkedView hsplit
    rw [hsplit]
    by_cases hempty : name = "" ∨ linkedView = ""
    · rw [if_pos hempty]
      grind
    · rw [if_neg hempty, bind_eq_ok]
      obtain ⟨hname, hview⟩ := not_or.1 hempty
      cases hfind : columns.find? name with
      | none => simp [hfind]
      | some column =>
        cases hlinked : column.linkedTable with
        | none => simp [hfind, hlinked, throw, throwThe, MonadExceptOf.throw]
        | some linkedTable =>
          by_cases htype : column.type.isLinked
          · simp [hname, hview, hfind, hlinked, htype, pure, Except.pure, @eq_comm _ c]
          · simp [hfind, hlinked, htype, throw, throwThe, MonadExceptOf.throw]
  · rename_i hone htwo
    constructor
    · intro h
      cases h
    · rintro (⟨name, -, hsplit, -⟩ | ⟨name, linkedView, -, -, hsplit, -⟩)
      · exact absurd hsplit (hone name)
      · exact absurd hsplit (htwo name linkedView)

/-- A view column names a column of the table; one that follows a link has the table that its
column links to. -/
theorem entry_eq_ok {table view : String} {columns : Dict Column} {text : String} {c : ViewColumn}
    (h : entry table view columns text = .ok c) :
    ∃ column, columns.find? c.name = some column ∧
      (c = .plain c.name ∨
        ∃ linkedTable linkedView, c = .linked c.name linkedTable linkedView ∧
          column.type.isLinked ∧ column.linkedTable = some linkedTable) := by
  rcases entry_eq_ok_iff.1 h with ⟨name, column, -, -, hfind, rfl⟩ |
    ⟨name, linkedView, column, linkedTable, -, -, -, hfind, htype, hlinked, rfl⟩
  · exact ⟨column, hfind, .inl rfl⟩
  · exact ⟨column, hfind, .inr ⟨linkedTable, linkedView, rfl, htype, hlinked⟩⟩

theorem entries_eq_ok {table view : String} {columns : Dict Column} {texts : List String}
    {made : List ViewColumn} :
    entries table view columns texts = .ok made ↔
      List.Forall₂ (fun text c => entry table view columns text = .ok c) texts made := by
  induction texts generalizing made with
  | nil =>
    rw [List.forall₂_nil_left_iff, entries, Except.ok.injEq, eq_comm]
  | cons text rest ih =>
    simp only [entries, bind_eq_ok, ih, List.forall₂_cons_left_iff]
    constructor
    · rintro ⟨c, hc, others, hothers, ⟨⟩⟩
      exact ⟨c, others, hc, hothers, rfl⟩
    · rintro ⟨c, others, hc, hothers, rfl⟩
      exact ⟨c, hc, others, hothers, rfl⟩

theorem entry_of_mem {table view : String} {columns : Dict Column} {texts : List String}
    {made : List ViewColumn} (h : entries table view columns texts = .ok made) {c : ViewColumn}
    (hc : c ∈ made) : ∃ text ∈ texts, entry table view columns text = .ok c :=
  exists_of_forall₂ (entries_eq_ok.1 h) hc

theorem build_eq_ok {d : ViewDeclaration} {table name : String} {columns : Dict Column}
    {names : List String} {v : View} :
    d.build table name columns names = .ok v ↔
      ∃ made seconds, entries table name columns d.columns = .ok made ∧ made ≠ [] ∧
        Lifetime.ofText? d.cache = some seconds ∧
        v = ⟨name, made, ",".intercalate (made.map ViewColumn.name), Int64.ofNat seconds,
          View.identityOf (View.ordinal names name) made⟩ := by
  unfold build
  rw [bind_eq_ok]
  constructor
  · rintro ⟨made, hmade, h⟩
    by_cases hempty : made = []
    · rw [if_pos hempty] at h
      cases h
    · rw [if_neg hempty] at h
      cases hseconds : Lifetime.ofText? d.cache with
      | none =>
        rw [hseconds] at h
        cases h
      | some seconds =>
        rw [hseconds] at h
        cases h
        exact ⟨made, seconds, hmade, hempty, rfl, rfl⟩
  · rintro ⟨made, seconds, hmade, hne, hseconds, rfl⟩
    refine ⟨made, hmade, ?_⟩
    rw [hseconds, if_neg hne]
    rfl

end ViewDeclaration

/-! ## Tables -/

namespace Declaration

/-- The physical name of the declared table. -/
def tableName (d : Declaration) : String := TableName.ofNamespace d.table

theorem build_eq_ok {d : Declaration} {t : Table} :
    d.build = .ok t ↔
      d.tableName ≠ "" ∧ checkVersion d.tableName d.version = .ok () ∧
        t.name = d.tableName ∧ t.space = d.table ∧
        buildColumns d.tableName d.initialColumns d.columns.entries = .ok t.columns ∧
        buildViews d.tableName t.columns d.views.keys .empty d.views.entries = .ok t.views := by
  unfold build
  dsimp only
  rw [← tableName]
  split
  · rename_i hempty
    constructor
    · intro h
      cases h
    · rintro ⟨hne, -⟩
      exact absurd hempty hne
  · rename_i hne
    rw [bind_unit_eq_ok]
    simp only [bind_eq_ok]
    constructor
    · rintro ⟨hversion, columns, hcolumns, views, hviews, ⟨⟩⟩
      exact ⟨hne, hversion, rfl, rfl, hcolumns, hviews⟩
    · rintro ⟨-, hversion, hname, hspace, hcolumns, hviews⟩
      refine ⟨hversion, t.columns, hcolumns, t.views, hviews, ?_⟩
      rw [← hname, ← hspace]
      rfl

/-! ### Columns of a built table -/

theorem find?_initialColumns {d : Declaration} {name : String} {c : Column} :
    d.initialColumns.find? name = some c ↔
      Sql.idColumn ∉ d.columns.keys ∧ name = Sql.idColumn ∧ c = .primaryKey := by
  unfold initialColumns
  split
  · rename_i hdeclared
    rw [Dict.contains_iff] at hdeclared
    simp [hdeclared]
  · rename_i hdeclared
    rw [Dict.contains_iff] at hdeclared
    rw [Dict.find?_insert]
    split
    · rename_i hid
      simp [hdeclared, hid, eq_comm]
    · rename_i hid
      simp [hid]

/-- The primary key is put first only where it is not declared. -/
theorem nodup_keys_columns (d : Declaration) :
    (d.initialColumns.keys ++ Entries.keys d.columns.entries).Nodup := by
  refine List.nodup_append.2 ⟨d.initialColumns.distinct, d.columns.distinct, ?_⟩
  rintro name hinitial _ hdeclared rfl
  obtain ⟨c, hc⟩ := Dict.mem_keys.1 hinitial
  obtain ⟨hnot, rfl, -⟩ := find?_initialColumns.1 hc
  exact hnot hdeclared

theorem keys_columns {d : Declaration} {t : Table} (h : d.build = .ok t) :
    t.columns.keys = d.initialColumns.keys ++ d.columns.keys := by
  obtain ⟨-, -, -, -, hcolumns, -⟩ := build_eq_ok.1 h
  exact Dict.keys_collect d.nodup_keys_columns hcolumns

/-- A column of a built table is declared under its name, or it is the primary key that is not
declared. -/
theorem find?_columns {d : Declaration} {t : Table} (h : d.build = .ok t) {name : String}
    {c : Column} :
    t.columns.find? name = some c ↔
      (Sql.idColumn ∉ d.columns.keys ∧ name = Sql.idColumn ∧ c = .primaryKey) ∨
        ∃ declared, d.columns.find? name = some declared ∧ declared.build t.name name = .ok c := by
  obtain ⟨-, -, hname, -, hcolumns, -⟩ := build_eq_ok.1 h
  rw [Dict.find?_collect d.nodup_keys_columns hcolumns, find?_initialColumns, hname]
  simp only [Dict.mem_entries]

/-! ### Views of a built table -/

theorem nodup_keys_views (d : Declaration) :
    ((Dict.empty : Dict View).keys ++ Entries.keys d.views.entries).Nodup :=
  d.views.distinct

theorem keys_views {d : Declaration} {t : Table} (h : d.build = .ok t) :
    t.views.keys = d.views.keys := by
  obtain ⟨-, -, -, -, -, hviews⟩ := build_eq_ok.1 h
  exact Dict.keys_collect d.nodup_keys_views hviews

theorem find?_views {d : Declaration} {t : Table} (h : d.build = .ok t) {name : String}
    {v : View} :
    t.views.find? name = some v ↔
      ∃ declared, d.views.find? name = some declared ∧
        declared.build t.name name t.columns t.views.keys = .ok v := by
  have hkeys := keys_views h
  obtain ⟨-, -, hname, -, -, hviews⟩ := build_eq_ok.1 h
  rw [Dict.find?_collect d.nodup_keys_views hviews, hname, hkeys]
  simp [Dict.mem_entries]

end Declaration

end SqlCatalog
