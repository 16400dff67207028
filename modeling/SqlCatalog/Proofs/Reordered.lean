-- SUMMARY: The order in which tables are declared makes no difference to what is loaded.
import SqlCatalog.Proofs.Links

/-!
# Reordered declarations

Declarations of different tables may come in any order. Each one is accepted or
refused on its own account, the accepted ones become the same tables, and the
links between them are checked against the same set of tables; only the order in
which tables and errors are listed follows the order of the declarations.
-/

namespace SqlCatalog

theorem Dict.find?_of_perm {α : Type} {d d' : Dict α} (h : d.entries.Perm d'.entries)
    (key : String) : d.find? key = d'.find? key := by
  apply Option.ext
  intro value
  rw [← mem_entries, ← mem_entries]
  exact h.mem_iff

namespace Draft

/-! ## Declarations of different tables -/

theorem mem_keys_next {draft : Draft} {d : Declaration} {name : String}
    (h : name ∈ (draft.next (.read d)).tables.keys) :
    name ∈ draft.tables.keys ∨ name = d.tableName := by
  rcases draft.step_cases (.read d) with ⟨error, -, hnext⟩ | ⟨_, t, ⟨⟩, hbuild, -, hentries⟩
  · rw [hnext] at h
    exact .inl h
  · obtain ⟨-, -, hname, -⟩ := Declaration.build_eq_ok.1 hbuild
    simpa [Dict.keys, Entries.keys, hentries, hname] using h

/-- A declaration that shares its name with none before it is answered with what it builds. -/
theorem answers_read {draft : Draft} {ds : List Declaration}
    (hnames : (ds.map Declaration.tableName).Nodup)
    (hnew : ∀ d ∈ ds, d.tableName ∉ draft.tables.keys) :
    draft.answers (ds.map .read) = ds.map Declaration.build := by
  induction ds generalizing draft with
  | nil => rfl
  | cons d rest ih =>
    rw [List.map_cons, List.nodup_cons] at hnames
    obtain ⟨hfirst, hrest⟩ := hnames
    have hnew' : ∀ d' ∈ rest, d'.tableName ∉ (draft.next (.read d)).tables.keys := by
      intro d' hd' hmem
      rcases mem_keys_next hmem with hold | hsame
      · exact hnew d' (List.mem_cons_of_mem d hd') hold
      · exact hfirst (hsame ▸ List.mem_map_of_mem hd')
    rw [List.map_cons, answers, answer_read (hnew d List.mem_cons_self), ih hrest hnew',
      List.map_cons]

theorem answers_read_empty {ds : List Declaration} (hnames : (ds.map Declaration.tableName).Nodup) :
    Draft.empty.answers (ds.map .read) = ds.map Declaration.build := by
  apply answers_read hnames
  intro d _ hmem
  cases hmem

theorem mem_zip_answers {ds : List Declaration} (hnames : (ds.map Declaration.tableName).Nodup)
    {d : Declaration} {answer : Except SchemaError Table} :
    (d, answer) ∈ ds.zip (Draft.empty.answers (ds.map .read)) ↔ d ∈ ds ∧ answer = d.build := by
  rw [answers_read_empty hnames, ← List.map_prod_left_eq_zip, List.mem_map]
  constructor
  · rintro ⟨d, hd, ⟨⟩⟩
    exact ⟨hd, rfl⟩
  · rintro ⟨hd, rfl⟩
    exact ⟨d, hd, rfl⟩

theorem mem_accepted_read {ds : List Declaration} (hnames : (ds.map Declaration.tableName).Nodup)
    {t : Table} : t ∈ Draft.empty.accepted (ds.map .read) ↔ ∃ d ∈ ds, d.build = .ok t := by
  have hok (d : Declaration) : d.build.toOption = some t ↔ d.build = .ok t := by
    cases d.build <;> simp [Except.toOption]
  simp only [accepted, answers_read_empty hnames, List.filterMap_map, List.mem_filterMap,
    Function.comp_apply, hok]

/-- Under the name of a declaration a draft holds the table that it was answered with, or nothing
where it was refused. -/
theorem find?_after_read {ds : List Declaration} (hnames : (ds.map Declaration.tableName).Nodup)
    {d : Declaration} (hd : d ∈ ds) :
    (Draft.empty.after (ds.map .read)).tables.find? d.tableName = d.build.toOption := by
  apply Option.ext
  intro t
  rw [← Dict.mem_entries, entries_after_empty, List.mem_map]
  constructor
  · rintro ⟨t', ht', heq⟩
    obtain ⟨hname, rfl⟩ := Prod.mk.inj heq
    obtain ⟨d', hd', hbuild⟩ := (mem_accepted_read hnames).1 ht'
    obtain ⟨-, -, hname', -⟩ := Declaration.build_eq_ok.1 hbuild
    obtain rfl := List.inj_on_of_nodup_map hnames hd' hd (hname'.symm.trans hname)
    rw [hbuild]
    rfl
  · intro h
    cases hbuild : d.build with
    | error error =>
      rw [hbuild] at h
      cases h
    | ok t' =>
      rw [hbuild] at h
      cases h
      obtain ⟨-, -, hname, -⟩ := Declaration.build_eq_ok.1 hbuild
      exact ⟨t, (mem_accepted_read hnames).2 ⟨d, hd, hbuild⟩, by rw [hname]⟩

/-! ## Two orders -/

section

variable {ds ds' : List Declaration} (hperm : ds.Perm ds')
  (hnames : (ds.map Declaration.tableName).Nodup)

include hperm hnames

theorem answers_perm : (ds.zip (Draft.empty.answers (ds.map .read))).Perm
    (ds'.zip (Draft.empty.answers (ds'.map .read))) := by
  have hnames' := (hperm.map Declaration.tableName).nodup_iff.1 hnames
  rw [answers_read_empty hnames, answers_read_empty hnames', ← List.map_prod_left_eq_zip,
    ← List.map_prod_left_eq_zip]
  exact hperm.map _

theorem accepted_perm :
    (Draft.empty.accepted (ds.map .read)).Perm (Draft.empty.accepted (ds'.map .read)) := by
  have hnames' := (hperm.map Declaration.tableName).nodup_iff.1 hnames
  rw [accepted, accepted, answers_read_empty hnames, answers_read_empty hnames']
  exact (hperm.map _).filterMap _

theorem find?_after_perm (name : String) :
    (Draft.empty.after (ds.map .read)).tables.find? name =
      (Draft.empty.after (ds'.map .read)).tables.find? name := by
  apply Dict.find?_of_perm
  rw [entries_after_empty, entries_after_empty]
  exact (accepted_perm hperm hnames).map _

/-- Both orders check the same links against the same tables. -/
theorem linkErrors_perm : (Draft.empty.after (ds.map .read)).linkErrors.Perm
    (Draft.empty.after (ds'.map .read)).linkErrors := by
  have hsame : Table.danglingLinks (Draft.empty.after (ds.map .read)).tables =
      Table.danglingLinks (Draft.empty.after (ds'.map .read)).tables := by
    funext t
    exact t.danglingLinks_congr (find?_after_perm hperm hnames)
  rw [linkErrors, linkErrors, hsame, values_after_empty, values_after_empty]
  exact (accepted_perm hperm hnames).flatMap_right _

/-- Both orders find no broken link, or the same ones. -/
theorem build_perm :
    let left := Draft.empty.after (ds.map .read)
    let right := Draft.empty.after (ds'.map .read)
    (∃ c c', left.build = .ok c ∧ right.build = .ok c' ∧ ∀ name, c.table? name = c'.table? name) ∨
      ∃ errors errors', left.build = .error errors ∧ right.build = .error errors' ∧
        errors.Perm errors' := by
  intro left right
  have herrors := linkErrors_perm hperm hnames
  by_cases hnone : left.linkErrors = []
  · have hnone' : right.linkErrors = [] := by
      rw [hnone] at herrors
      exact List.nil_perm.1 herrors
    exact .inl ⟨⟨left.tables⟩, ⟨right.tables⟩, build_eq_ok.2 ⟨hnone, rfl⟩,
      build_eq_ok.2 ⟨hnone', rfl⟩, find?_after_perm hperm hnames⟩
  · have hsome : right.linkErrors ≠ [] := by
      intro hnone'
      rw [hnone'] at herrors
      exact hnone (List.perm_nil.1 herrors)
    exact .inr ⟨left.linkErrors, right.linkErrors, build_eq_error.2 ⟨rfl, hnone⟩,
      build_eq_error.2 ⟨rfl, hsome⟩, herrors⟩

end

/-- Declarations of different tables, taken in two orders, get the same answers and become the same
tables: both drafts hold the table a declaration was answered with under its name, and nothing
there where it was refused. Either both orders give a catalog, and the two are equal as maps, or
both give the same errors up to their order. -/
theorem loading_perm {ds ds' : List Declaration} (hperm : ds.Perm ds')
    (hnames : (ds.map Declaration.tableName).Nodup) :
    let left := Draft.empty.after (ds.map .read)
    let right := Draft.empty.after (ds'.map .read)
    (ds.zip (Draft.empty.answers (ds.map .read))).Perm
        (ds'.zip (Draft.empty.answers (ds'.map .read))) ∧
      (∀ name, left.tables.find? name = right.tables.find? name) ∧
      (∀ d answer, (d, answer) ∈ ds.zip (Draft.empty.answers (ds.map .read)) →
        left.tables.find? d.tableName = answer.toOption ∧
          right.tables.find? d.tableName = answer.toOption) ∧
      ((∃ c c', left.build = .ok c ∧ right.build = .ok c' ∧
          ∀ name, c.table? name = c'.table? name) ∨
        ∃ errors errors', left.build = .error errors ∧ right.build = .error errors' ∧
          errors.Perm errors') := by
  intro left right
  have hfind := find?_after_perm hperm hnames
  refine ⟨answers_perm hperm hnames, hfind, ?_, build_perm hperm hnames⟩
  intro d answer hanswer
  obtain ⟨hd, rfl⟩ := (mem_zip_answers hnames).1 hanswer
  rw [← hfind d.tableName]
  exact ⟨find?_after_read hnames hd, find?_after_read hnames hd⟩

/-- A table is declared before and after the one it links to, beside a refused declaration. -/
theorem loading_perm_forward :
    let orders : Declaration := ⟨none, "DB.orders",
      Dict.ofList [("owner", ⟨"DB.users", ["="], false, false, false, false⟩)],
      Dict.ofList [("v", ⟨"", ["id", "owner@brief"]⟩)]⟩
    let refused : Declaration := ⟨none, "DB.bad",
      Dict.ofList [("a", ⟨"Int32", [], false, false, false, false⟩)], .empty⟩
    let users : Declaration := ⟨none, "DB.users", .empty, Dict.ofList [("brief", ⟨"1m", ["id"]⟩)]⟩
    let ds := [orders, refused, users]
    let ds' := [users, orders, refused]
    let left := Draft.empty.after (ds.map .read)
    let right := Draft.empty.after (ds'.map .read)
    ds.Perm ds' ∧ (ds.map Declaration.tableName).Nodup ∧
      (∃ t, (orders, .ok t) ∈ ds.zip (Draft.empty.answers (ds.map .read)) ∧
        left.tables.find? "orders" = some t ∧ right.tables.find? "orders" = some t) ∧
      (left.tables.find? "bad" = none ∧ right.tables.find? "bad" = none) ∧
      ∃ c c', left.build = .ok c ∧ right.build = .ok c' ∧
        ∀ name, c.table? name = c'.table? name := by
  intro orders refused users ds ds' left right
  have hperm : ds.Perm ds' :=
    (List.perm_append_comm : ([orders, refused] ++ [users]).Perm ([users] ++ [orders, refused]))
  have hnames : (ds.map Declaration.tableName).Nodup := by decide +kernel
  have hlinks : left.linkErrors = [] := by decide +kernel
  obtain ⟨t, hbuild⟩ := exists_of_isOk (x := orders.build) (by decide +kernel)
  have hrefused : refused.build = .error (.invalidColumnType "bad" "a" "Int32") := by
    decide +kernel
  have haccepted : (orders, .ok t) ∈ ds.zip (Draft.empty.answers (ds.map .read)) :=
    (mem_zip_answers hnames).2 ⟨List.mem_cons_self, hbuild.symm⟩
  have herror : (refused, .error (.invalidColumnType "bad" "a" "Int32")) ∈
      ds.zip (Draft.empty.answers (ds.map .read)) :=
    (mem_zip_answers hnames).2 ⟨List.mem_cons_of_mem _ List.mem_cons_self, hrefused.symm⟩
  obtain ⟨-, -, hanswered, hbuilds⟩ := loading_perm hperm hnames
  have horders : orders.tableName = "orders" := by decide +kernel
  have hbad : refused.tableName = "bad" := by decide +kernel
  refine ⟨hperm, hnames, ⟨t, haccepted, ?_⟩, ?_, ?_⟩
  · rw [← horders]
    exact hanswered orders (.ok t) haccepted
  · rw [← hbad]
    exact hanswered refused _ herror
  · rcases hbuilds with hboth | ⟨errors, _, hfailed, -⟩
    · exact hboth
    · obtain ⟨rfl, hsome⟩ := build_eq_error.1 hfailed
      exact absurd hlinks hsome

end Draft

end SqlCatalog
