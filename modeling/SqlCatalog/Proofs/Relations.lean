-- SUMMARY: The relations that creating a catalog makes, and when two of them get the same name.
import Mathlib.Data.List.Nodup
import SqlCatalog.Command.Run
import SqlCatalog.Proofs.Migration
import SqlCatalog.Proofs.WellFormed

/-!
# Names of relations

A database keeps tables, indexes and the indexes behind uniqueness constraints
under one set of names. The names that creating a catalog takes are read off the
statements themselves: the metadata table, and for each table its own name and
that name with an ending for each index and constraint.

Within one table no name is taken twice. Two tables can take the same name only
where the name of one continues that of the other, and then exactly where an
ending of the shorter one is spelled by the continuation and an ending of the
longer one. Nothing refuses such tables, nor a table named as the metadata.
-/

namespace SqlCatalog

/-! ## Relations of statements -/

namespace Sql

/-- The name of the relation that a statement makes, if it makes one. -/
def relation? (statement : String) : Option String :=
  match lex statement with
  | .word "CREATE" :: .word "TABLE" :: .word "IF" :: .word "NOT" :: .word "EXISTS" ::
      .identifier table :: _ => some table
  | .word "CREATE" :: .word "INDEX" :: .identifier index :: _ => some index
  | .word "ALTER" :: .word "TABLE" :: .identifier _ :: .word "ADD" :: .word "CONSTRAINT" ::
      .identifier constraint :: _ => some constraint
  | _ => none

def TableChange.relation? : TableChange → Option String
  | .createTable table => some table
  | .createIndex table column => some (indexName table column)
  | .createUnique table column => some (uniqueName table column)
  | _ => none

theorem relation?_render (change : TableChange) : relation? change.render = change.relation? := by
  rw [relation?, change.closed_render.lex]
  cases change <;> rfl

theorem relation?_createMetadata :
    relation? DatabaseCommand.createMetadata.render = some metaTable := by
  decide +kernel

end Sql

/-- The names that the statements take which create the catalog from nothing. -/
def Catalog.relations (c : Catalog) : List String :=
  ((Command.tablePlans none c none).flatMap Command.TablePlan.statements).filterMap Sql.relation?

/-! ## Relations of a table -/

/-- What follows the name of the table in the names of the column's constraint and index. -/
def Column.endings (c : Column) : List String :=
  (if c.unique then ["__unique__" ++ c.name] else []) ++
    (if c.indexed then ["__index__" ++ c.name] else [])

namespace Table

/-- What follows the name of the table in the names of its relations; nothing in its own. -/
def endings (t : Table) : List String := "" :: t.dataColumns.flatMap Column.endings

def relations (t : Table) : List String := t.endings.map (t.name ++ ·)

theorem relations_addColumn (table : String) (c : Column) :
    (Migration.addColumn table c).filterMap Sql.TableChange.relation? =
      c.endings.map (table ++ ·) := by
  cases hunique : c.unique <;> cases hindexed : c.indexed <;>
    simp [Migration.addColumn, Column.endings, List.filterMap_cons, Sql.TableChange.relation?,
      Sql.uniqueName, Sql.indexName, hunique, hindexed, String.append_assoc]

theorem relations_statements (t : Table) :
    (Migration.statements none t).filterMap Sql.relation? = t.relations := by
  have hrender : Sql.relation? ∘ Sql.TableChange.render = Sql.TableChange.relation? :=
    funext Sql.relation?_render
  rw [Migration.statements, List.filterMap_map, hrender, Migration.plan, Migration.create,
    relations, endings, List.map_cons, String.append_empty]
  change _ :: List.filterMap _ _ = _
  rw [List.filterMap_flatMap, List.map_flatMap]
  simp only [relations_addColumn]

end Table

theorem Catalog.relations_eq (c : Catalog) :
    c.relations = Sql.metaTable :: c.tables.values.flatMap Table.relations := by
  have hstatements (t : Table) : (Migration.statements none t).isEmpty = false := rfl
  have hplans : Command.tablePlans none c none =
      ⟨"(meta)", [Sql.DatabaseCommand.createMetadata.render]⟩ ::
        c.tables.values.map fun t => ⟨t.name, Migration.statements none t⟩ := by
    simp [Command.tablePlans, List.filter_map, Function.comp_def, hstatements]
  rw [relations, hplans, List.flatMap_cons, List.filterMap_append, List.filterMap_flatMap,
    List.flatMap_map]
  simp [Sql.relation?_createMetadata, Table.relations_statements]

/-! ## Within one table -/

theorem Column.mem_endings {c : Column} {a : String} :
    a ∈ c.endings ↔
      (c.unique = true ∧ a = "__unique__" ++ c.name) ∨
        (c.indexed = true ∧ a = "__index__" ++ c.name) := by
  cases hunique : c.unique <;> cases hindexed : c.indexed <;>
    simp [endings, hunique, hindexed]

theorem Column.unique_ne_index (name name' : String) :
    "__unique__" ++ name ≠ "__index__" ++ name' := by
  intro h
  simp [String.ext_iff] at h

namespace Table

variable {t t' : Table}

theorem mem_endings {a : String} :
    a ∈ t.endings ↔ a = "" ∨ ∃ c ∈ t.dataColumns, a ∈ c.endings := by
  rw [endings, List.mem_cons, List.mem_flatMap]

/-- The endings tell the columns of a table apart, and constraints from indexes. -/
theorem nodup_endings (h : Keyed t.columns) : t.endings.Nodup := by
  have hempty : "" ∉ t.dataColumns.flatMap Column.endings := by
    intro hmem
    obtain ⟨c, -, hc⟩ := List.mem_flatMap.1 hmem
    rcases Column.mem_endings.1 hc with ⟨-, heq⟩ | ⟨-, heq⟩
    · simp [String.ext_iff] at heq
    · simp [String.ext_iff] at heq
  refine List.nodup_cons.2 ⟨hempty, List.nodup_flatMap.2 ⟨?_, ?_⟩⟩
  · intro c _
    cases hunique : c.unique <;> cases hindexed : c.indexed <;>
      simp [Column.endings, hunique, hindexed]
  · refine (List.pairwise_map.1 (nodup_dataColumns h)).imp ?_
    intro c c' hne a hc hc'
    rcases Column.mem_endings.1 hc with ⟨-, rfl⟩ | ⟨-, rfl⟩
    · rcases Column.mem_endings.1 hc' with ⟨-, heq⟩ | ⟨-, heq⟩
      · exact hne ((String.append_right_inj _).1 heq)
      · exact Column.unique_ne_index _ _ heq
    · rcases Column.mem_endings.1 hc' with ⟨-, heq⟩ | ⟨-, heq⟩
      · exact Column.unique_ne_index _ _ heq.symm
      · exact hne ((String.append_right_inj _).1 heq)

theorem nodup_relations (h : Keyed t.columns) : t.relations.Nodup :=
  (nodup_endings h).map fun _ _ heq => (String.append_right_inj t.name).1 heq

end Table

/-! ## Between two tables -/

/-- Two ways to spell a text as a name and its ending: one of the names continues the other. -/
theorem append_eq_append_iff {a b a' b' : String} :
    a ++ b = a' ++ b' ↔
      (∃ s, a' = a ++ s ∧ b = s ++ b') ∨ ∃ s, a = a' ++ s ∧ b' = s ++ b := by
  constructor
  · intro h
    have hchars := congrArg String.toList h
    rw [String.toList_append, String.toList_append, List.append_eq_append_iff] at hchars
    rcases hchars with ⟨cs, hname, hending⟩ | ⟨cs, hname, hending⟩
    · exact .inl ⟨String.ofList cs, by simp [String.ext_iff, hname, hending]⟩
    · exact .inr ⟨String.ofList cs, by simp [String.ext_iff, hname, hending]⟩
  · rintro (⟨s, rfl, rfl⟩ | ⟨s, rfl, rfl⟩)
    · rw [String.append_assoc]
    · rw [String.append_assoc]

namespace Table

variable {t t' : Table}

/-- The name of `t'` continues that of `t`, and together with one of its own endings the
continuation spells an ending of `t`. -/
def Clash (t t' : Table) : Prop :=
  ∃ s, s ≠ "" ∧ t'.name = t.name ++ s ∧ ∃ a ∈ t.endings, ∃ b ∈ t'.endings, a = s ++ b

theorem Clash.name_ne (h : t.Clash t') : t.name ≠ t'.name := by
  obtain ⟨s, hs, hname, -⟩ := h
  intro heq
  have hchars := congrArg String.toList hname
  rw [heq, String.toList_append, List.self_eq_append_right] at hchars
  exact hs (String.toList_inj.1 hchars)

theorem Clash.not_disjoint (h : t.Clash t') : ¬ t.relations.Disjoint t'.relations := by
  obtain ⟨s, -, hname, a, ha, b, hb, rfl⟩ := h
  intro hdisjoint
  refine hdisjoint (List.mem_map_of_mem ha) (List.mem_map.2 ⟨b, hb, ?_⟩)
  rw [hname, String.append_assoc]

theorem disjoint_relations_iff (hne : t.name ≠ t'.name) :
    t.relations.Disjoint t'.relations ↔ ¬ t.Clash t' ∧ ¬ t'.Clash t := by
  constructor
  · intro hdisjoint
    exact ⟨fun hclash => hclash.not_disjoint hdisjoint,
      fun hclash => hclash.not_disjoint hdisjoint.symm⟩
  · rintro ⟨hleft, hright⟩ name hmem hmem'
    obtain ⟨a, ha, rfl⟩ := List.mem_map.1 hmem
    obtain ⟨b, hb, heq⟩ := List.mem_map.1 hmem'
    have hproper {x y s : String} (hxy : x ≠ y) (hname : x = y ++ s) : s ≠ "" := by
      rintro rfl
      exact hxy (by rw [hname, String.append_empty])
    rcases append_eq_append_iff.1 heq with ⟨s, hname, hending⟩ | ⟨s, hname, hending⟩
    · exact hright ⟨s, hproper hne hname, hname, b, hb, a, ha, hending⟩
    · exact hleft ⟨s, hproper hne.symm hname, hname, a, ha, b, hb, hending⟩

end Table

/-! ## The metadata table -/

/-- No index or constraint is named as the metadata table is. -/
theorem Table.metaTable_mem_relations {t : Table} :
    Sql.metaTable ∈ t.relations ↔ t.name = Sql.metaTable := by
  have hnever (mark : String) (hmark : ¬ mark.toList <:+: Sql.metaTable.toList) (name : String) :
      t.name ++ (mark ++ name) ≠ Sql.metaTable := by
    intro heq
    apply hmark
    rw [← heq]
    exact ⟨t.name.toList, name.toList, by simp⟩
  rw [relations, List.mem_map]
  constructor
  · rintro ⟨a, ha, heq⟩
    rcases mem_endings.1 ha with rfl | ⟨c, -, hc⟩
    · rwa [String.append_empty] at heq
    · rcases Column.mem_endings.1 hc with ⟨-, rfl⟩ | ⟨-, rfl⟩
      · exact absurd heq (hnever "__unique__" (by decide) c.name)
      · exact absurd heq (hnever "__index__" (by decide) c.name)
  · intro hname
    exact ⟨"", mem_endings.2 (.inl rfl), by rw [String.append_empty, hname]⟩

/-! ## Names without marks -/

/-- A mark whose own underscores do not stand at its end: where it and two underscores are spelled
by a continuation and an ending, the continuation starts with the mark. -/
theorem isPrefix_mark {mark s b c : List Char} (hs : s ≠ [])
    (hmark : ∀ n < mark.length, n ≠ 0 → ¬ ['_', '_'] <+: (mark ++ ['_', '_']).drop n)
    (hb : b = [] ∨ ['_', '_'] <+: b) (h : mark ++ ['_', '_'] ++ c = s ++ b) : mark <+: s := by
  have hall : mark <+: s ++ b := ⟨['_', '_'] ++ c, by rw [← h, List.append_assoc]⟩
  rcases Nat.lt_or_ge s.length mark.length with hshort | hlong
  · have hle : s.length ≤ (mark ++ ['_', '_']).length := by
      rw [List.length_append]
      omega
    have hrest : b = (mark ++ ['_', '_']).drop s.length ++ c := by
      rw [← List.drop_append_of_le_length hle, h, List.drop_left]
    have hlength : ['_', '_'].length ≤ ((mark ++ ['_', '_']).drop s.length).length := by
      rw [List.length_drop, List.length_append]
      omega
    rcases hb with rfl | hb
    · have hnil := congrArg List.length hrest
      rw [List.length_nil, List.length_append] at hnil
      simp only [List.length_cons, List.length_nil] at hlength
      omega
    · have hpart := List.prefix_of_prefix_length_le hb ⟨c, hrest.symm⟩ hlength
      exact absurd hpart (hmark s.length hshort (by simpa using hs))
  · exact List.prefix_of_prefix_length_le hall (List.prefix_append s b) hlong

namespace Table

theorem marked_of_mem_endings {t : Table} {b : String} (h : b ∈ t.endings) :
    b.toList = [] ∨ ['_', '_'] <+: b.toList := by
  rcases mem_endings.1 h with rfl | ⟨c, -, hc⟩
  · exact .inl rfl
  · rcases Column.mem_endings.1 hc with ⟨-, rfl⟩ | ⟨-, rfl⟩
    · exact .inr ⟨"unique__".toList ++ c.name.toList, by simp⟩
    · exact .inr ⟨"index__".toList ++ c.name.toList, by simp⟩

/-- A name that clashes with a shorter one continues it with the mark of an index or constraint. -/
theorem Clash.marked {t t' : Table} (h : t.Clash t') :
    (t.name ++ "__index").toList <+: t'.name.toList ∨
      (t.name ++ "__unique").toList <+: t'.name.toList := by
  obtain ⟨s, hs, hname, a, ha, b, hb, heq⟩ := h
  have hne : s.toList ≠ [] := fun hnil => hs (String.toList_inj.1 hnil)
  simp only [hname, String.toList_append, List.prefix_append_right_inj]
  rcases mem_endings.1 ha with rfl | ⟨c, -, hc⟩
  · have hchars := congrArg String.toList heq
    simp [hs] at hchars
  · rcases Column.mem_endings.1 hc with ⟨-, rfl⟩ | ⟨-, rfl⟩
    · have hchars : "__unique".toList ++ ['_', '_'] ++ c.name.toList = s.toList ++ b.toList := by
        rw [← String.toList_append, ← heq]
        simp
      exact .inr (isPrefix_mark hne (by decide) (marked_of_mem_endings hb) hchars)
    · have hchars : "__index".toList ++ ['_', '_'] ++ c.name.toList = s.toList ++ b.toList := by
        rw [← String.toList_append, ← heq]
        simp
      exact .inl (isPrefix_mark hne (by decide) (marked_of_mem_endings hb) hchars)

end Table

/-! ## All relations -/

/-- Of tables under their own names, those that clash are the only ones whose relations do. -/
theorem Catalog.nodup_relations {c : Catalog} (hkeyed : ∀ t ∈ c.tables.values, Keyed t.columns)
    (hkeys : c.tables.keys = c.tables.values.map Table.name) :
    c.relations.Nodup ↔
      Sql.metaTable ∉ c.tables.keys ∧
        ∀ t ∈ c.tables.values, ∀ t' ∈ c.tables.values, ¬ t.Clash t' := by
  have hnames : c.tables.values.Pairwise fun t t' => t.name ≠ t'.name := by
    rw [← List.pairwise_map, ← hkeys]
    exact c.tables.distinct
  have hmeta : Sql.metaTable ∉ c.tables.values.flatMap Table.relations ↔
      Sql.metaTable ∉ c.tables.keys := by
    simp only [hkeys, List.mem_flatMap, List.mem_map, Table.metaTable_mem_relations]
  rw [relations_eq, List.nodup_cons, List.nodup_flatMap, hmeta]
  refine and_congr_right fun _ => ?_
  constructor
  · rintro ⟨-, hdisjoint⟩ t ht t' ht' hclash
    have : Std.Symm (Function.onFun List.Disjoint Table.relations) := ⟨fun _ _ h => h.symm⟩
    have hne : t ≠ t' := fun heq => hclash.name_ne (congrArg Table.name heq)
    exact hclash.not_disjoint (hdisjoint.forall ht ht' hne)
  · intro hclash
    refine ⟨fun t ht => Table.nodup_relations (hkeyed t ht), ?_⟩
    refine hnames.imp_of_mem ?_
    intro t t' ht ht' hne
    exact (Table.disjoint_relations_iff hne).2 ⟨hclash t ht t' ht', hclash t' ht' t ht⟩

/-- The names that creating a catalog takes are distinct exactly when no table is named as the
metadata table and no two tables clash. In particular they are where no name of a table starts with
that of another one followed by `__index` or `__unique`. -/
theorem Draft.nodup_relations_iff {sources : List Source} {c : Catalog}
    (hbuild : (Draft.empty.after sources).build = .ok c) :
    (c.relations.Nodup ↔
        Sql.metaTable ∉ c.tables.keys ∧
          ∀ t ∈ c.tables.values, ∀ t' ∈ c.tables.values, ¬ t.Clash t') ∧
      (Sql.metaTable ∉ c.tables.keys →
        (∀ t ∈ c.tables.values, ∀ t' ∈ c.tables.values,
          ¬ (t.name ++ "__index").toList <+: t'.name.toList ∧
            ¬ (t.name ++ "__unique").toList <+: t'.name.toList) →
        c.relations.Nodup) := by
  obtain ⟨-, rfl⟩ := build_eq_ok.1 hbuild
  have hkeyed : ∀ t ∈ (Draft.empty.after sources).tables.values, Keyed t.columns := by
    intro t ht
    obtain ⟨key, hfind⟩ := Dict.mem_values.1 ht
    obtain ⟨-, d, -, hbuilt⟩ := built_of_find? hfind
    exact Declaration.build_keyed hbuilt
  have hkeys : (Draft.empty.after sources).tables.keys =
      (Draft.empty.after sources).tables.values.map Table.name := by
    rw [values_after_empty, Dict.keys, Entries.keys, entries_after_empty, List.map_map]
    rfl
  have hexact := Catalog.nodup_relations (c := ⟨(Draft.empty.after sources).tables⟩) hkeyed hkeys
  refine ⟨hexact, ?_⟩
  intro hmeta hmarks
  refine hexact.2 ⟨hmeta, ?_⟩
  intro t ht t' ht' hclash
  rcases hclash.marked with hindex | hunique
  · exact (hmarks t ht t' ht').1 hindex
  · exact (hmarks t ht t' ht').2 hunique

/-- Columns and tables with marks in their names, none of which continues the name of a table. -/
theorem Draft.nodup_relations_iff_marked :
    let sources : List Source := [
      .read ⟨none, "DB.shop", Dict.ofList [
        ("a", ⟨"Int64", [], true, true, false, false⟩),
        ("a__index__b", ⟨"Int64", [], false, true, false, false⟩)], .empty⟩,
      .read ⟨none, "DB.shop.orders", Dict.ofList [
        ("__unique__", ⟨"Bool", [], true, true, false, false⟩)], .empty⟩,
      .read ⟨none, "__index__shop", Dict.ofList [
        ("id", ⟨"PK", [], true, true, false, false⟩)], .empty⟩]
    ∃ c, (Draft.empty.after sources).build = .ok c ∧
      c.tables.keys = ["shop", "shop_orders", "__index__shop"] ∧ c.relations.Nodup := by
  intro sources
  have hlinks : (Draft.empty.after sources).linkErrors = [] := by decide +kernel
  have hkeys : (Draft.empty.after sources).tables.keys =
      ["shop", "shop_orders", "__index__shop"] := by
    decide +kernel
  have hmeta : Sql.metaTable ∉ (Draft.empty.after sources).tables.keys := by
    rw [hkeys]
    decide
  have hmarks : ∀ t ∈ (Draft.empty.after sources).tables.values,
      ∀ t' ∈ (Draft.empty.after sources).tables.values,
        ¬ (t.name ++ "__index").toList <+: t'.name.toList ∧
          ¬ (t.name ++ "__unique").toList <+: t'.name.toList := by
    decide +kernel
  have hbuild := build_eq_ok.2 ⟨hlinks, rfl⟩
  exact ⟨_, hbuild, hkeys, (nodup_relations_iff hbuild).2 hmeta hmarks⟩

/-- An indexed column, and a table named as its index, which has an indexed column too. -/
theorem Draft.relations_clash :
    let sources : List Source := [
      .read ⟨none, "a", Dict.ofList [
        ("b", ⟨"Int64", [], false, true, false, false⟩),
        ("b__index__c", ⟨"Int64", [], false, true, false, false⟩)], .empty⟩,
      .read ⟨none, "a__index__b", Dict.ofList [
        ("c", ⟨"Int64", [], false, true, false, false⟩)], .empty⟩]
    ∃ c, (Draft.empty.after sources).build = .ok c ∧
      c.relations = ["__capidb_meta__", "a", "a__index__b", "a__index__b__index__c", "a__index__b",
        "a__index__b__index__c"] ∧ ¬ c.relations.Nodup := by
  intro sources
  have hlinks : (Draft.empty.after sources).linkErrors = [] := by decide +kernel
  have hrelations : Catalog.relations ⟨(Draft.empty.after sources).tables⟩ =
      ["__capidb_meta__", "a", "a__index__b", "a__index__b__index__c", "a__index__b",
        "a__index__b__index__c"] := by
    rw [Catalog.relations_eq]
    decide +kernel
  refine ⟨_, build_eq_ok.2 ⟨hlinks, rfl⟩, hrelations, ?_⟩
  rw [hrelations]
  decide

end SqlCatalog
