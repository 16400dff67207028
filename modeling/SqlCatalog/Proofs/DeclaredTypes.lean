-- SUMMARY: Which texts are column types, and that links and declarations name tables alike.
import SqlCatalog.Proofs.Acceptance

/-!
# Types in declarations

A type is written as a tag, or through the path to the table it links to. The
grammar is given here on its own, by what each form is put together from. A path
leads to the table that is registered when the same path is declared, and every
registered table, under whatever namespace it was declared, is reached by its
name alone.
-/

namespace SqlCatalog

/-! ## Link paths -/

/-- The segments of a path to a table: at least one, none empty and none with a dot in it. -/
structure LinkPath where
  segments : List String
  nonempty : segments ≠ []
  named : ∀ s ∈ segments, s ≠ "" ∧ '.' ∉ s.toList

namespace LinkPath

def text (p : LinkPath) : String := "DB." ++ ".".intercalate p.segments

/-- The name of the table that the path leads to. -/
def table (p : LinkPath) : String := "_".intercalate p.segments

def single (name : String) (hne : name ≠ "") (hfree : '.' ∉ name.toList) : LinkPath :=
  ⟨[name], by simp, by simp [hne, hfree]⟩

theorem toList_text (p : LinkPath) :
    p.text.toList = TableName.root ++ ['.'].intercalate (p.segments.map String.toList) := by
  rw [text, String.toList_append, String.toList_intercalate]
  rfl

end LinkPath

/-- A text that declares a column type, with the table it links to. -/
inductive ColumnType.Declares : String → ColumnType → Option String → Prop
  | tag {t : ColumnType} : t.isLinked = false → Declares t.tag t none
  | key (p : LinkPath) : Declares p.text .linkedKey (some p.table)
  | list (p : LinkPath) : Declares ("List<" ++ p.text ++ ">") .linkedKeyList (some p.table)
  | map (p : LinkPath) : Declares ("Map<" ++ p.text ++ ">") .linkedKeyMap (some p.table)

/-! ## Table names of paths -/

namespace TableName

theorem map_underscored {cs : List Char} (h : '.' ∉ cs) : cs.map underscored = cs := by
  have hkept : ∀ c ∈ cs, underscored c = id c := by
    intro c hc
    apply if_neg
    rintro rfl
    exact h hc
  rw [List.map_congr_left hkept, List.map_id]

theorem map_underscored_intercalate {parts : List (List Char)} (h : ∀ part ∈ parts, '.' ∉ part) :
    (['.'].intercalate parts).map underscored = ['_'].intercalate parts := by
  induction parts with
  | nil => rfl
  | cons part rest ih =>
    obtain ⟨hpart, hrest⟩ := List.forall_mem_cons.1 h
    cases rest with
    | nil => simpa using map_underscored hpart
    | cons next rest =>
      rw [List.intercalate_cons_cons, List.intercalate_cons_cons, List.map_append, List.map_append,
        map_underscored hpart, ih hrest]
      rfl

theorem map_underscored_segments (p : LinkPath) :
    String.ofList ((['.'].intercalate (p.segments.map String.toList)).map underscored) =
      p.table := by
  rw [map_underscored_intercalate (by simpa using fun s hs => (p.named s hs).2), LinkPath.table,
    ← String.toList_inj, String.toList_ofList, String.toList_intercalate]
  rfl

/-- The path of a link leads to the table of its namespace. -/
theorem ofNamespace_text (p : LinkPath) : ofNamespace p.text = p.table := by
  have hroot := List.isPrefixOf?_eq_some_iff_append_eq.2 p.toList_text.symm
  rw [← map_underscored_segments, ofNamespace, hroot]
  rfl

/-- The path whose segments stand between the dots of a text. -/
theorem exists_path_of_split {segments : List Char}
    (h : ∀ part ∈ Text.splitAt '.' segments, part ≠ []) :
    ∃ p : LinkPath, ['.'].intercalate (p.segments.map String.toList) = segments := by
  obtain ⟨hne, hfree, hjoin⟩ := Text.splitAt_eq_iff.1 (rfl : Text.splitAt '.' segments = _)
  refine ⟨⟨(Text.splitAt '.' segments).map String.ofList, by simpa using hne, ?_⟩, ?_⟩
  · intro s hs
    obtain ⟨part, hpart, rfl⟩ := List.mem_map.1 hs
    simpa [hfree part hpart] using h part hpart
  · simpa [Function.comp_def] using hjoin

theorem splitAt_segments (p : LinkPath) :
    Text.splitAt '.' (['.'].intercalate (p.segments.map String.toList)) =
      p.segments.map String.toList := by
  refine Text.splitAt_eq_iff.2 ⟨by simpa using p.nonempty, ?_, rfl⟩
  simpa using fun s hs => (p.named s hs).2

/-- A link is read exactly when it is the text of a path, as the table the path leads to. -/
theorem ofLink?_eq_some {path : List Char} {table : String} :
    ofLink? path = some table ↔ ∃ p : LinkPath, path = p.text.toList ∧ table = p.table := by
  constructor
  · intro h
    unfold ofLink? at h
    split at h
    · cases h
    · rename_i segments hstrip
      split at h
      · rename_i hall
        obtain ⟨p, hsegments⟩ := exists_path_of_split (by simpa using hall)
        refine ⟨p, ?_, ?_⟩
        · rw [p.toList_text, hsegments]
          exact (List.isPrefixOf?_eq_some_iff_append_eq.1 hstrip).symm
        · rw [← map_underscored_segments, hsegments]
          exact (Option.some.inj h).symm
      · cases h
  · rintro ⟨p, rfl, rfl⟩
    have hall : (Text.splitAt '.' (['.'].intercalate (p.segments.map String.toList))).all
        (fun s => s ≠ []) = true := by
      rw [splitAt_segments]
      simpa using fun s hs => (p.named s hs).1
    have hroot := List.isPrefixOf?_eq_some_iff_append_eq.2 p.toList_text.symm
    rw [ofLink?, hroot, ← map_underscored_segments]
    exact if_pos hall

end TableName

/-! ## Types -/

namespace ColumnType

theorem ofTag?_eq_some {text : String} {t : ColumnType} : ofTag? text = some t ↔ text = t.tag := by
  constructor
  · intro h
    have hfound := List.find?_some h
    exact (of_decide_eq_true hfound).symm
  · rintro rfl
    cases t <;> rfl

/-- No tag starts as a link does. -/
theorem ofTag?_link (opening : String) (hopening : opening ∈ ["", "List<", "Map<"]) (p : LinkPath)
    (closing : String) : ofTag? (opening ++ p.text ++ closing) = none := by
  have hfronts : ∀ t ∈ all, ∀ front ∈ ["", "List<", "Map<"],
      ¬ (front.toList ++ TableName.root) <+: t.tag.toList := by
    decide
  cases htag : ofTag? (opening ++ p.text ++ closing) with
  | none => rfl
  | some t =>
    refine absurd ?_ (hfronts t (mem_all t) opening hopening)
    rw [← ofTag?_eq_some.1 htag, String.toList_append, String.toList_append, p.toList_text,
      ← List.append_assoc, List.append_assoc]
    exact List.prefix_append _ _

theorem linkInside?_eq_some {opening : String} {text : List Char} {table : String} :
    linkInside? opening text = some table ↔
      ∃ p : LinkPath, text = (opening ++ p.text ++ ">").toList ∧ table = p.table := by
  simp only [linkInside?, Option.bind_eq_some_iff, List.isPrefixOf?_eq_some_iff_append_eq,
    List.isSuffixOf?_eq_some_iff_append_eq, TableName.ofLink?_eq_some]
  constructor
  · rintro ⟨_, ⟨_, rfl, rfl⟩, p, rfl, rfl⟩
    exact ⟨p, by simp, rfl⟩
  · rintro ⟨p, rfl, rfl⟩
    exact ⟨p.text.toList, ⟨_, by simp, rfl⟩, p, rfl, rfl⟩

theorem declares_of_ofDeclaration? {text : String} {type : ColumnType} {table : Option String}
    (h : ofDeclaration? text = some (type, table)) : Declares text type table := by
  unfold ofDeclaration? at h
  split at h
  · rename_i t htag
    split at h
    · cases h
    · rename_i hlinked
      cases h
      rw [ofTag?_eq_some.1 htag]
      exact .tag (by simpa using hlinked)
  · dsimp only at h
    split at h
    · rename_i hlink
      obtain ⟨p, htext, rfl⟩ := TableName.ofLink?_eq_some.1 hlink
      cases h
      rw [String.toList_inj.1 htext]
      exact .key p
    · split at h
      · rename_i hlist
        obtain ⟨p, htext, rfl⟩ := linkInside?_eq_some.1 hlist
        cases h
        rw [String.toList_inj.1 htext]
        exact .list p
      · obtain ⟨linked, hmap, hpair⟩ := Option.map_eq_some_iff.1 h
        obtain ⟨p, htext, rfl⟩ := linkInside?_eq_some.1 hmap
        cases hpair
        rw [String.toList_inj.1 htext]
        exact .map p

theorem ofDeclaration?_of_declares {text : String} {type : ColumnType} {table : Option String}
    (h : Declares text type table) : ofDeclaration? text = some (type, table) := by
  cases h with
  | tag hlinked => simp [ofDeclaration?, ofTag?_eq_some.2 rfl, hlinked]
  | key p =>
    have htag : ofTag? p.text = none := by simpa using ofTag?_link "" (by simp) p ""
    have hlink := TableName.ofLink?_eq_some.2 ⟨p, rfl, rfl⟩
    simp [ofDeclaration?, htag, hlink]
  | list p =>
    have htag := ofTag?_link "List<" (by simp) p ">"
    have hlink : TableName.ofLink? ("List<" ++ p.text ++ ">").toList = none := by
      simp [TableName.ofLink?, TableName.root, List.isPrefixOf?]
    have hlist : linkInside? "List<" ("List<" ++ p.text ++ ">").toList = some p.table :=
      linkInside?_eq_some.2 ⟨p, rfl, rfl⟩
    simp only [ofDeclaration?, htag, hlink, hlist]
  | map p =>
    have htag := ofTag?_link "Map<" (by simp) p ">"
    have hlink : TableName.ofLink? ("Map<" ++ p.text ++ ">").toList = none := by
      simp [TableName.ofLink?, TableName.root, List.isPrefixOf?]
    have hlist : linkInside? "List<" ("Map<" ++ p.text ++ ">").toList = none := by
      simp [linkInside?, List.isPrefixOf?]
    have hmap : linkInside? "Map<" ("Map<" ++ p.text ++ ">").toList = some p.table :=
      linkInside?_eq_some.2 ⟨p, rfl, rfl⟩
    simp only [ofDeclaration?, htag, hlink, hlist, hmap, Option.map_some]

theorem ofDeclaration?_eq_some {text : String} {type : ColumnType} {table : Option String} :
    ofDeclaration? text = some (type, table) ↔ Declares text type table :=
  ⟨declares_of_ofDeclaration?, ofDeclaration?_of_declares⟩

end ColumnType

/-! ## Registered tables -/

theorem LinkPath.table_ne (p : LinkPath) : p.table ≠ "" := by
  obtain ⟨first, rest, hsegments⟩ := List.exists_cons_of_ne_nil p.nonempty
  have hfirst : first ≠ "" := (p.named first (by simp [hsegments])).1
  cases rest with
  | nil => simpa [table, hsegments] using hfirst
  | cons next rest => simp [table, hsegments, String.intercalate_cons_cons]

/-- The name of a built table is a path of one segment, and leads to the table. -/
theorem Declaration.declares_name {d : Declaration} {t : Table} (h : d.build = .ok t) :
    ColumnType.Declares ("DB." ++ t.name) .linkedKey (some t.name) := by
  obtain ⟨hne, -, hname, -⟩ := Declaration.build_eq_ok.1 h
  have hfree : '.' ∉ t.name.toList := by
    rw [hname]
    exact TableName.dot_notMem_ofNamespace d.table
  have hpath := ColumnType.Declares.key (.single t.name (hname ▸ hne) hfree)
  simpa [LinkPath.text, LinkPath.table, LinkPath.single] using hpath

/-- A declaration of the path alone, without columns or views of its own. -/
def LinkPath.bare (p : LinkPath) : Declaration := ⟨none, p.text, .empty, .empty⟩

theorem Draft.accepts_bare {draft : Draft} {p : LinkPath} (hnew : p.table ∉ draft.tables.keys) :
    draft.Accepts p.bare := by
  have hname : p.bare.tableName = p.table := TableName.ofNamespace_text p
  exact {
    name_ne := by
      rw [hname]
      exact p.table_ne
    name_new := by rwa [hname]
    version := .inl rfl
    columns := by
      intro name column hfind
      cases hfind
    views := by
      intro name view hfind
      cases hfind }

/-- A text is read as a column type exactly when it declares one. A declaration under the path of a
link registers the table that the path leads to in each form of a link, and a bare one does so
wherever the name is free. Every registered table is the one that its name links to. -/
theorem ColumnType.links_meet_declarations :
    (∀ text type table,
      ofDeclaration? text = some (type, table) ↔ Declares text type table) ∧
    (∀ (p : LinkPath) (d : Declaration) (draft grown : Draft) (t : Table), d.table = p.text →
      draft.add d = .ok (t, grown) →
        grown.tables.entries = draft.tables.entries ++ [(t.name, t)] ∧
        ofDeclaration? p.text = some (.linkedKey, some t.name) ∧
        ofDeclaration? ("List<" ++ p.text ++ ">") = some (.linkedKeyList, some t.name) ∧
        ofDeclaration? ("Map<" ++ p.text ++ ">") = some (.linkedKeyMap, some t.name)) ∧
    (∀ (p : LinkPath) (draft : Draft), p.table ∉ draft.tables.keys →
      ∃ t grown, draft.add p.bare = .ok (t, grown)) ∧
    ∀ sources name t, (Draft.empty.after sources).tables.find? name = some t →
      ofDeclaration? ("DB." ++ name) = some (.linkedKey, some name) := by
  refine ⟨fun _ _ _ => ofDeclaration?_eq_some, ?_, ?_, ?_⟩
  · intro p d draft grown t hpath hadd
    obtain ⟨hbuild, hnew, rfl⟩ := Draft.add_eq_ok_iff.1 hadd
    have hname : t.name = p.table := by
      rw [(Declaration.yields_of_build hbuild).name_eq, Declaration.tableName, hpath,
        TableName.ofNamespace_text]
    simp only [hname, ofDeclaration?_eq_some]
    exact ⟨hname ▸ Dict.entries_insert hnew t, .key p, .list p, .map p⟩
  · intro p draft hnew
    exact Draft.exists_add_iff.2 (Draft.accepts_bare hnew)
  · intro sources name t hfind
    obtain ⟨rfl, d, -, hbuild⟩ := Draft.built_of_find? hfind
    exact ofDeclaration?_eq_some.2 (Declaration.declares_name hbuild)

/-- A segment with a bracket in it, and a namespace that is no path. -/
theorem ColumnType.links_meet_declarations_brackets :
    let p : LinkPath := ⟨["shop", "a>"], by simp, by simp⟩
    let sources : List Source := [.read ⟨none, "shop..orders", .empty, .empty⟩]
    (∃ t grown, Draft.empty.add p.bare = .ok (t, grown) ∧ t.name = "shop_a>" ∧
      ofDeclaration? "List<DB.shop.a>>" = some (.linkedKeyList, some t.name)) ∧
    "shop__orders" ∈ (Draft.empty.after sources).tables.keys ∧
      ofDeclaration? "DB.shop__orders" = some (.linkedKey, some "shop__orders") ∧
      ofDeclaration? "DB.shop..orders" = none := by
  intro p sources
  obtain ⟨-, hdeclared, hbare, hregistered⟩ := links_meet_declarations
  refine ⟨?_, ?_⟩
  · obtain ⟨t, grown, hadd⟩ := hbare p .empty List.not_mem_nil
    obtain ⟨-, -, hlist, -⟩ := hdeclared p p.bare .empty grown t rfl hadd
    have hname : ofDeclaration? "List<DB.shop.a>>" = some (.linkedKeyList, some "shop_a>") := by
      decide +kernel
    have hsame := hlist.symm.trans hname
    simp only [Option.some.injEq, Prod.mk.injEq, true_and] at hsame
    exact ⟨t, grown, hadd, hsame, hlist⟩
  · have hkeys : "shop__orders" ∈ (Draft.empty.after sources).tables.keys := by decide +kernel
    obtain ⟨t, hfind⟩ := Dict.mem_keys.1 hkeys
    exact ⟨hkeys, hregistered sources _ t hfind, by decide +kernel⟩

end SqlCatalog
