-- SUMMARY: Which declarations a draft accepts, and what it gains from each.
import SqlCatalog.Proofs.Identity

/-!
# Acceptance

A declaration is accepted for what it says alone, apart from its name, which has
to be new: the condition is spelled out here without building anything. What is
accepted becomes one more table, with the declared columns and views in the
order of the declaration; what is refused leaves the draft as it was.
-/

namespace SqlCatalog

/-! ## Parts of a text -/

namespace Text

theorem splitAt_eq_splitOn (sep : Char) (cs : List Char) : splitAt sep cs = cs.splitOn sep := by
  induction cs with
  | nil => simp [splitAt]
  | cons c rest ih =>
    rw [List.splitOn, List.splitOnP_cons_eq_if_modifyHead, ← List.splitOn, ← ih, splitAt]
    by_cases hsep : c = sep
    · simp [hsep]
    · cases hrest : splitAt sep rest with
      | nil => exact absurd (ih.symm.trans hrest) (List.splitOn_ne_nil _ _)
      | cons first others => simp [hsep]

/-- The parts of a text are what the separator stands between, and it stands in none of them. -/
theorem splitAt_eq_iff {sep : Char} {cs : List Char} {parts : List (List Char)} :
    splitAt sep cs = parts ↔
      parts ≠ [] ∧ (∀ part ∈ parts, sep ∉ part) ∧ [sep].intercalate parts = cs := by
  constructor
  · rintro rfl
    refine ⟨?_, fun _ => notMem_of_mem_splitAt, ?_⟩
    · rw [splitAt_eq_splitOn]
      exact List.splitOn_ne_nil _ _
    · rw [splitAt_eq_splitOn, List.intercalate_splitOn]
  · rintro ⟨hne, hfree, rfl⟩
    rw [splitAt_eq_splitOn, List.splitOn_intercalate sep hfree hne]

theorem map_ofList_eq_iff {segments : List (List Char)} {parts : List String} :
    segments.map String.ofList = parts ↔ segments = parts.map String.toList := by
  constructor
  · rintro rfl
    simp [Function.comp_def]
  · rintro rfl
    simp [Function.comp_def]

theorem splitAt_eq_one {sep : Char} {text name : String} :
    (splitAt sep text.toList).map String.ofList = [name] ↔ text = name ∧ sep ∉ name.toList := by
  rw [map_ofList_eq_iff, splitAt_eq_iff]
  simp [and_comm, eq_comm, String.ext_iff]

theorem splitAt_eq_two {text name view : String} :
    (splitAt '@' text.toList).map String.ofList = [name, view] ↔
      text = name ++ "@" ++ view ∧ '@' ∉ name.toList ∧ '@' ∉ view.toList := by
  rw [map_ofList_eq_iff, splitAt_eq_iff]
  simp [String.ext_iff, and_comm, @eq_comm _ text.toList]

end Text

/-! ## What is accepted -/

/-- A column that may be declared under `name`. -/
structure ColumnDeclaration.Acceptable (name : String) (d : ColumnDeclaration) : Prop where
  type : ∃ type linkedTable, ColumnType.ofDeclaration? d.type = some (type, linkedTable) ∧
    (type = .primaryKey ↔ name = Sql.idColumn)
  operators : ∀ text ∈ d.query, ∃ op, Operator.ofText? text = some op ∧ op ≠ .child

namespace Declaration

/-- A column is declared under the name, with the type of a link. -/
def Links (d : Declaration) (name : String) : Prop :=
  ∃ column type linkedTable, d.columns.find? name = some column ∧
    ColumnType.ofDeclaration? column.type = some (type, linkedTable) ∧ type.isLinked = true

/-- An entry that the views of a declared table may have: a column, or a linked column and a view
with `@` between them. -/
inductive Offers (d : Declaration) : String → Prop
  | plain {name : String} :
    name ≠ "" → '@' ∉ name.toList → name = Sql.idColumn ∨ name ∈ d.columns.keys → Offers d name
  | linked {name view : String} :
    name ≠ "" → '@' ∉ name.toList → view ≠ "" → '@' ∉ view.toList →
      name = Sql.idColumn ∨ name ∈ d.columns.keys → d.Links name → Offers d (name ++ "@" ++ view)

end Declaration

/-- A view that the declaration of a table may have. -/
structure ViewDeclaration.Acceptable (d : Declaration) (v : ViewDeclaration) : Prop where
  nonempty : v.columns ≠ []
  columns : ∀ text ∈ v.columns, d.Offers text
  cache : (Lifetime.ofText? v.cache).isSome

structure Draft.Accepts (draft : Draft) (d : Declaration) : Prop where
  name_ne : d.tableName ≠ ""
  name_new : d.tableName ∉ draft.tables.keys
  version : d.version = none ∨ d.version = some Declaration.currentVersion
  columns : ∀ name column, d.columns.find? name = some column → column.Acceptable name
  views : ∀ name view, d.views.find? name = some view → view.Acceptable d

/-! ## Columns -/

theorem Dict.exists_collect_iff {α β ε : Type} {make : String → β → Except ε α} {d : Dict α}
    {sources : List (String × β)} :
    (∃ all, d.collect make sources = .ok all) ↔
      ∀ source ∈ sources, ∃ value, make source.1 source.2 = .ok value := by
  induction sources generalizing d with
  | nil => simp [collect]
  | cons source rest ih =>
    obtain ⟨key, source⟩ := source
    simp only [collect, bind_eq_ok, List.forall_mem_cons]
    constructor
    · rintro ⟨all, value, hvalue, hrest⟩
      exact ⟨⟨value, hvalue⟩, ih.1 ⟨all, hrest⟩⟩
    · rintro ⟨⟨value, hvalue⟩, hrest⟩
      obtain ⟨all, hall⟩ := ih.2 hrest
      exact ⟨all, value, hvalue, hall⟩

namespace ColumnDeclaration

theorem exists_operators_iff {table column : String} {texts : List String} :
    (∃ ops, operators table column texts = .ok ops) ↔
      ∀ text ∈ texts, ∃ op, Operator.ofText? text = some op ∧ op ≠ .child := by
  simp only [operators_eq_ok]
  induction texts with
  | nil =>
    exact ⟨fun _ _ hnone => (List.not_mem_nil hnone).elim, fun _ => ⟨[], rfl, List.not_mem_nil⟩⟩
  | cons text rest ih =>
    rw [List.forall_mem_cons, ← ih]
    constructor
    · rintro ⟨_ | ⟨op, ops⟩, hops, hchild⟩
      · cases hops
      · obtain ⟨hop, hrest⟩ := List.cons.inj hops
        rw [List.mem_cons, not_or] at hchild
        exact ⟨⟨op, hop, fun heq => hchild.1 heq.symm⟩, ops, hrest, hchild.2⟩
    · rintro ⟨⟨op, hop, hne⟩, ops, hops, hchild⟩
      exact ⟨op :: ops, by simp [hop, hops], by simp [hchild, hne.symm]⟩

theorem exists_base_iff {d : ColumnDeclaration} {table name : String} :
    (∃ c, d.base table name = .ok c) ↔
      ∃ type linkedTable, ColumnType.ofDeclaration? d.type = some (type, linkedTable) ∧
        (type = .primaryKey ↔ name = Sql.idColumn) := by
  unfold base
  cases htype : ColumnType.ofDeclaration? d.type with
  | none => simp
  | some declared =>
    obtain ⟨type, linkedTable⟩ := declared
    by_cases hid : name = Sql.idColumn <;> by_cases hkey : type = .primaryKey <;> simp [hid, hkey]

theorem exists_build_iff {d : ColumnDeclaration} {table name : String} :
    (∃ c, d.build table name = .ok c) ↔ d.Acceptable name := by
  have hparts : (∃ c, d.build table name = .ok c) ↔
      (∃ c, d.base table name = .ok c) ∧ ∃ ops, operators table name d.query = .ok ops := by
    simp only [build, bind_eq_ok, pure, Except.pure, Except.ok.injEq]
    constructor
    · rintro ⟨_, c, hc, ops, hops, -⟩
      exact ⟨⟨c, hc⟩, ops, hops⟩
    · rintro ⟨⟨c, hc⟩, ops, hops⟩
      exact ⟨_, c, hc, ops, hops, rfl⟩
  rw [hparts, exists_base_iff, exists_operators_iff]
  exact ⟨fun h => ⟨h.1, h.2⟩, fun h => ⟨h.type, h.operators⟩⟩

end ColumnDeclaration

/-! ## Views -/

namespace ViewDeclaration

theorem exists_entries_iff {table view : String} {columns : Dict Column} {texts : List String} :
    (∃ made, entries table view columns texts = .ok made) ↔
      ∀ text ∈ texts, ∃ c, entry table view columns text = .ok c := by
  induction texts with
  | nil => simp [entries]
  | cons text rest ih =>
    simp only [List.forall_mem_cons, ← ih, entries, bind_eq_ok]
    constructor
    · rintro ⟨_, c, hc, others, hothers, -⟩
      exact ⟨⟨c, hc⟩, others, hothers⟩
    · rintro ⟨⟨c, hc⟩, others, hothers⟩
      exact ⟨_, c, hc, others, hothers, rfl⟩

theorem exists_build_iff {d : ViewDeclaration} {table name : String} {columns : Dict Column}
    {names : List String} :
    (∃ v, d.build table name columns names = .ok v) ↔
      d.columns ≠ [] ∧ (∀ text ∈ d.columns, ∃ c, entry table name columns text = .ok c) ∧
        (Lifetime.ofText? d.cache).isSome := by
  simp only [build_eq_ok, ← exists_entries_iff, Option.isSome_iff_exists]
  have hempty {made : List ViewColumn} (hmade : entries table name columns d.columns = .ok made) :
      made ≠ [] ↔ d.columns ≠ [] := by
    have hlength := (entries_eq_ok.1 hmade).length_eq
    simp only [ne_eq, ← List.length_eq_zero_iff, hlength]
  constructor
  · rintro ⟨_, made, seconds, hmade, hne, hseconds, -⟩
    exact ⟨(hempty hmade).1 hne, ⟨made, hmade⟩, seconds, hseconds⟩
  · rintro ⟨hne, ⟨made, hmade⟩, seconds, hseconds⟩
    exact ⟨_, made, seconds, hmade, (hempty hmade).2 hne, hseconds, rfl⟩

end ViewDeclaration

/-! ## Tables -/

namespace Declaration

section

variable {d : Declaration} {table : String} {columns : Dict Column}
  (hcolumns : buildColumns table d.initialColumns d.columns.entries = .ok columns)

include hcolumns

theorem mem_keys_of_buildColumns {name : String} :
    name ∈ columns.keys ↔ name = Sql.idColumn ∨ name ∈ d.columns.keys := by
  have hinitial : name ∈ d.initialColumns.keys ↔
      Sql.idColumn ∉ d.columns.keys ∧ name = Sql.idColumn := by
    simp [Dict.mem_keys (d := d.initialColumns), find?_initialColumns]
  rw [Dict.keys_collect d.nodup_keys_columns hcolumns, List.mem_append, hinitial]
  constructor
  · rintro (⟨-, hid⟩ | hdeclared)
    · exact .inl hid
    · exact .inr hdeclared
  · rintro (rfl | hdeclared)
    · exact (em (Sql.idColumn ∈ d.columns.keys)).symm.imp (fun hnot => ⟨hnot, rfl⟩) id
    · exact .inr hdeclared

/-- A built column links to a table where its declaration has the type of a link. -/
theorem links_iff {name : String} :
    (∃ column linkedTable, columns.find? name = some column ∧ column.type.isLinked ∧
      column.linkedTable = some linkedTable) ↔ d.Links name := by
  constructor
  · rintro ⟨column, linkedTable, hfind, htype, -⟩
    rcases (Dict.find?_collect d.nodup_keys_columns hcolumns).1 hfind with hinitial | hdeclared
    · obtain ⟨-, -, rfl⟩ := find?_initialColumns.1 hinitial
      cases htype
    · obtain ⟨declared, hmem, hbuild⟩ := hdeclared
      have hbuilds := ColumnDeclaration.builds_of_build hbuild
      exact ⟨declared, _, _, Dict.mem_entries.1 hmem, hbuilds.type_eq, htype⟩
  · rintro ⟨declared, type, linkedTable, hdeclared, htype, hlink⟩
    have hmem : (name, declared) ∈ d.columns.entries := Dict.mem_entries.2 hdeclared
    obtain ⟨column, hbuild⟩ := Dict.exists_collect_iff.1 ⟨columns, hcolumns⟩ _ hmem
    have hfind :=
      (Dict.find?_collect d.nodup_keys_columns hcolumns).2 (.inr ⟨declared, hmem, hbuild⟩)
    have hbuilds := ColumnDeclaration.builds_of_build hbuild
    obtain ⟨rfl, rfl⟩ : column.type = type ∧ column.linkedTable = linkedTable := by
      simpa [htype, eq_comm] using hbuilds.type_eq
    have hsome := ColumnType.isSome_of_ofDeclaration? htype
    rw [hlink] at hsome
    obtain ⟨linkedTable, hlinked⟩ := Option.isSome_iff_exists.1 hsome
    exact ⟨column, linkedTable, hfind, hlink, hlinked⟩

theorem exists_entry_iff {view text : String} :
    (∃ c, ViewDeclaration.entry table view columns text = .ok c) ↔ d.Offers text := by
  have hdeclared : ∀ {name : String} {column : Column}, columns.find? name = some column →
      name = Sql.idColumn ∨ name ∈ d.columns.keys :=
    fun hfind => (mem_keys_of_buildColumns hcolumns).1 (Dict.mem_keys.2 ⟨_, hfind⟩)
  simp only [ViewDeclaration.entry_eq_ok_iff, Text.splitAt_eq_one, Text.splitAt_eq_two]
  constructor
  · rintro ⟨_, hplain | hlinked⟩
    · obtain ⟨name, column, ⟨rfl, hfree⟩, hne, hfind, -⟩ := hplain
      exact .plain hne hfree (hdeclared hfind)
    · obtain ⟨name, linkedView, column, linkedTable, ⟨rfl, hfree, hfree'⟩, hne, hne', hfind, htype,
        htable, -⟩ := hlinked
      exact .linked hne hfree hne' hfree' (hdeclared hfind)
        ((links_iff hcolumns).1 ⟨column, linkedTable, hfind, htype, htable⟩)
  · intro h
    cases h with
    | plain hne hfree hname =>
      obtain ⟨column, hfind⟩ := Dict.mem_keys.1 ((mem_keys_of_buildColumns hcolumns).2 hname)
      exact ⟨_, .inl ⟨text, column, ⟨rfl, hfree⟩, hne, hfind, rfl⟩⟩
    | @linked name linkedView hne hfree hne' hfree' hname hlinks =>
      obtain ⟨column, linkedTable, hfind, htype, hlinked⟩ := (links_iff hcolumns).2 hlinks
      exact ⟨_, .inr ⟨name, linkedView, column, linkedTable, ⟨rfl, hfree, hfree'⟩, hne, hne', hfind,
        htype, hlinked, rfl⟩⟩

end

theorem checkVersion_eq_ok {table : String} {version : Option String} :
    checkVersion table version = .ok () ↔ version = none ∨ version = some currentVersion := by
  cases version with
  | none => simp [checkVersion]
  | some version => by_cases h : version = currentVersion <;> simp [checkVersion, h]

theorem exists_buildColumns_iff {d : Declaration} {table : String} :
    (∃ columns, buildColumns table d.initialColumns d.columns.entries = .ok columns) ↔
      ∀ name column, d.columns.find? name = some column → column.Acceptable name := by
  simp only [buildColumns, Dict.exists_collect_iff, ColumnDeclaration.exists_build_iff,
    Prod.forall, Dict.mem_entries]

theorem exists_buildViews_iff {d : Declaration} {table : String} {columns : Dict Column}
    (hcolumns : buildColumns table d.initialColumns d.columns.entries = .ok columns)
    {names : List String} :
    (∃ views, buildViews table columns names .empty d.views.entries = .ok views) ↔
      ∀ name view, d.views.find? name = some view → view.Acceptable d := by
  have hview {name : String} {view : ViewDeclaration} :
      (∃ v, view.build table name columns names = .ok v) ↔ view.Acceptable d := by
    simp only [ViewDeclaration.exists_build_iff, exists_entry_iff hcolumns]
    exact ⟨fun ⟨hne, hlists, hcache⟩ => ⟨hne, hlists, hcache⟩,
      fun h => ⟨h.nonempty, h.columns, h.cache⟩⟩
  simp only [buildViews, Dict.exists_collect_iff, hview, Prod.forall, Dict.mem_entries]

theorem exists_build_iff {d : Declaration} :
    (∃ t, d.build = .ok t) ↔
      d.tableName ≠ "" ∧ (d.version = none ∨ d.version = some currentVersion) ∧
        (∀ name column, d.columns.find? name = some column → column.Acceptable name) ∧
        ∀ name view, d.views.find? name = some view → view.Acceptable d := by
  simp only [build_eq_ok, checkVersion_eq_ok]
  constructor
  · rintro ⟨t, hne, hversion, -, -, hcolumns, hviews⟩
    exact ⟨hne, hversion, exists_buildColumns_iff.1 ⟨_, hcolumns⟩,
      (exists_buildViews_iff hcolumns).1 ⟨_, hviews⟩⟩
  · rintro ⟨hne, hversion, hcolumns, hviews⟩
    obtain ⟨columns, hcolumns⟩ := exists_buildColumns_iff.2 hcolumns
    obtain ⟨views, hviews⟩ := (exists_buildViews_iff hcolumns).2 hviews
    exact ⟨⟨d.tableName, d.table, columns, views⟩, hne, hversion, rfl, rfl, hcolumns, hviews⟩

end Declaration

/-! ## What an accepted declaration becomes -/

/-- The entry of a view declaration that a view column was made from. -/
def ViewColumn.entryText (c : ViewColumn) : String :=
  match c.linkedView with
  | none => c.name
  | some view => c.name ++ "@" ++ view

/-- What a view declared under `name` becomes. -/
structure ViewDeclaration.Builds (d : ViewDeclaration) (name : String) (v : View) : Prop where
  name_eq : v.name = name
  columns_eq : v.columns.map ViewColumn.entryText = d.columns
  cache_eq : ∃ seconds, Lifetime.ofText? d.cache = some seconds ∧
    v.cacheSeconds = Int64.ofNat seconds

/-- The table of a declaration: its columns in the order of the declaration, after the primary key
where that is not declared, and its views in the order of the declaration. -/
structure Declaration.Yields (d : Declaration) (t : Table) : Prop where
  name_eq : t.name = d.tableName
  space_eq : t.space = d.table
  columns : ∃ declared,
    t.columns.entries =
      (if Sql.idColumn ∈ d.columns.keys then [] else [(Sql.idColumn, .primaryKey)]) ++ declared ∧
    List.Forall₂ (fun source entry => entry.1 = source.1 ∧ source.2.Builds source.1 entry.2)
      d.columns.entries declared
  views : List.Forall₂ (fun source entry => entry.1 = source.1 ∧ source.2.Builds source.1 entry.2)
    d.views.entries t.views.entries

namespace ViewDeclaration

theorem entryText_of_entry {table view : String} {columns : Dict Column} {text : String}
    {c : ViewColumn} (h : entry table view columns text = .ok c) : c.entryText = text := by
  rcases entry_eq_ok_iff.1 h with ⟨name, -, hsplit, -, -, rfl⟩ |
    ⟨name, linkedView, -, linkedTable, hsplit, -, -, -, -, -, rfl⟩
  · exact (Text.splitAt_eq_one.1 hsplit).1.symm
  · exact (Text.splitAt_eq_two.1 hsplit).1.symm

theorem builds_of_build {d : ViewDeclaration} {table name : String} {columns : Dict Column}
    {names : List String} {v : View} (h : d.build table name columns names = .ok v) :
    d.Builds name v := by
  obtain ⟨made, seconds, hmade, -, hseconds, rfl⟩ := build_eq_ok.1 h
  refine ⟨rfl, ?_, seconds, hseconds, rfl⟩
  have htexts : List.Forall₂ (fun c text => ViewColumn.entryText c = text) made d.columns :=
    (entries_eq_ok.1 hmade).flip.imp fun c text hc => entryText_of_entry hc
  rwa [← List.forall₂_eq_eq_eq, List.forall₂_map_left_iff]

end ViewDeclaration

theorem Declaration.entries_initialColumns (d : Declaration) :
    d.initialColumns.entries =
      if Sql.idColumn ∈ d.columns.keys then [] else [(Sql.idColumn, .primaryKey)] := by
  unfold initialColumns
  simp only [Dict.contains_iff]
  split <;> rfl

theorem Declaration.yields_of_build {d : Declaration} {t : Table} (h : d.build = .ok t) :
    d.Yields t := by
  obtain ⟨-, -, hname, hspace, hcolumns, hviews⟩ := build_eq_ok.1 h
  obtain ⟨declared, hdeclared, hentries⟩ := (Dict.collect_eq_ok d.nodup_keys_columns).1 hcolumns
  obtain ⟨made, hmade, hall⟩ := (Dict.collect_eq_ok d.nodup_keys_views).1 hviews
  refine ⟨hname, hspace, ⟨declared, ?_, ?_⟩, ?_⟩
  · rw [hentries, entries_initialColumns]
  · exact hdeclared.imp fun source entry hmade =>
      ⟨hmade.1, ColumnDeclaration.builds_of_build hmade.2⟩
  · rw [hall]
    exact hmade.imp fun source entry hmade => ⟨hmade.1, ViewDeclaration.builds_of_build hmade.2⟩

/-! ## Drafts -/

namespace Draft

/-- A declaration is added when it builds and its table has a new name. -/
theorem add_eq_ok_iff {draft grown : Draft} {d : Declaration} {t : Table} :
    draft.add d = .ok (t, grown) ↔
      d.build = .ok t ∧ t.name ∉ draft.tables.keys ∧ grown = ⟨draft.tables.insert t.name t⟩ := by
  constructor
  · intro h
    obtain ⟨hbuild, hgrown⟩ := add_eq_ok h
    refine ⟨hbuild, fun hmem => ?_, hgrown⟩
    rw [add_of_mem hbuild hmem] at h
    cases h
  · rintro ⟨hbuild, hnew, rfl⟩
    exact add_of_notMem hbuild hnew

theorem exists_add_iff {draft : Draft} {d : Declaration} :
    (∃ t grown, draft.add d = .ok (t, grown)) ↔ draft.Accepts d := by
  have hname {t : Table} (hbuild : d.build = .ok t) : t.name = d.tableName :=
    (Declaration.yields_of_build hbuild).name_eq
  simp only [add_eq_ok_iff]
  constructor
  · rintro ⟨t, _, hbuild, hnew, -⟩
    obtain ⟨hne, hversion, hcolumns, hviews⟩ := Declaration.exists_build_iff.1 ⟨t, hbuild⟩
    exact ⟨hne, hname hbuild ▸ hnew, hversion, hcolumns, hviews⟩
  · intro h
    obtain ⟨t, hbuild⟩ :=
      Declaration.exists_build_iff.2 ⟨h.name_ne, h.version, h.columns, h.views⟩
    exact ⟨t, _, hbuild, hname hbuild ▸ h.name_new, rfl⟩

/-- A declaration is accepted exactly when the draft has no table of its name and everything in it
is acceptable. It then becomes the last table of the draft, and no other changes; a declaration that
is refused changes nothing. -/
theorem add_iff_accepts (draft : Draft) (d : Declaration) :
    ((∃ t grown, draft.add d = .ok (t, grown)) ↔ draft.Accepts d) ∧
      (∀ t grown, draft.add d = .ok (t, grown) →
        d.Yields t ∧ draft.next (.read d) = grown ∧
          grown.tables.entries = draft.tables.entries ++ [(t.name, t)]) ∧
      ∀ error, draft.add d = .error error → draft.next (.read d) = draft := by
  refine ⟨exists_add_iff, ?_, ?_⟩
  · intro t grown h
    obtain ⟨hbuild, hnew, hgrown⟩ := add_eq_ok_iff.1 h
    refine ⟨Declaration.yields_of_build hbuild, (step_of_ok (s := .read d) h).2, ?_⟩
    rw [hgrown]
    exact Dict.entries_insert hnew t
  · intro error h
    exact (step_of_error (s := .read d) h).2

/-- A table that links to one already there is accepted; declaring that one again is refused. -/
theorem add_iff_accepts_linked :
    let users : Declaration := ⟨none, "users", .empty, Dict.ofList [("brief", ⟨"", ["id"]⟩)]⟩
    let orders : Declaration := ⟨some "rt.db.v1", "DB.shop.orders",
      Dict.ofList [("owner", ⟨"List<DB.users>", [" in ", "<>"], false, true, false, false⟩)],
      Dict.ofList [("v", ⟨"1h30m", ["owner@brief", "id", "owner"]⟩)]⟩
    let draft := Draft.empty.after [.read users]
    (draft.Accepts orders ∧ ∃ t, orders.Yields t ∧
      (draft.next (.read orders)).tables.entries = draft.tables.entries ++ [(t.name, t)]) ∧
    ¬ draft.Accepts users ∧ draft.add users = .error (.duplicateTable "users") ∧
      draft.next (.read users) = draft := by
  intro users orders draft
  obtain ⟨haccepts, hadded, -⟩ := add_iff_accepts draft orders
  obtain ⟨⟨t, grown⟩, hok⟩ := exists_of_isOk (x := draft.add orders) (by decide +kernel)
  obtain ⟨hyields, hnext, hentries⟩ := hadded t grown hok
  obtain ⟨haccepts', -, hrefused⟩ := add_iff_accepts draft users
  have herror : draft.add users = .error (.duplicateTable "users") :=
    refusal?_eq_some.1 (by decide +kernel)
  refine ⟨⟨haccepts.1 ⟨t, grown, hok⟩, t, hyields, hnext ▸ hentries⟩, ?_, herror, hrefused _ herror⟩
  intro h
  obtain ⟨_, _, hok'⟩ := haccepts'.2 h
  cases herror.symm.trans hok'

end Draft

end SqlCatalog
