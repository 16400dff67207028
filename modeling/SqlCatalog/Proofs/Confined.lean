-- SUMMARY: A permitted SELECT touches only what was declared, in the ways that were declared.
import SqlCatalog.Proofs.Unambiguous
import SqlCatalog.Proofs.Validated
import SqlCatalog.Proofs.WellFormed

/-!
# Confined statements

What a query may do is settled by declarations. A SELECT statement that was made
from a view and a permitted query of a built catalog lists and orders by columns
that its table was declared with, and compares columns only by operators that
were declared for them. Under a child predicate it is the declaration of the
table named there that counts, at every depth. The columns, the table and the
compared columns are all the names that the text of the statement holds.
-/

namespace SqlCatalog

/-! ## Comparisons of a query -/

/-- A comparison with the table that its column is meant to be of. -/
structure Use where
  table : String
  column : String
  operator : Operator

mutual

/-- The comparisons of a query on a table, at any depth, from left to right. -/
def Query.uses (table : String) : Query → List Use
  | ⟨predicates, _⟩ => Predicate.usesAll table predicates

def Predicate.usesAll (table : String) : List Predicate → List Use
  | [] => []
  | p :: ps => p.uses table ++ Predicate.usesAll table ps

def Predicate.uses (table : String) : Predicate → List Use
  | ⟨operator, column, _, _, child⟩ =>
    match operator with
    | .child => Predicate.childUses column child
    | _ => [⟨table, column, operator⟩]

def Predicate.childUses (table : String) : Option Query → List Use
  | none => []
  | some q => q.uses table

end

theorem Query.mem_uses {table : String} {q : Query} {u : Use} :
    u ∈ q.uses table ↔ ∃ p ∈ q.predicates, u ∈ p.uses table := by
  obtain ⟨predicates, orders⟩ := q
  rw [uses]
  induction predicates with
  | nil => simp [Predicate.usesAll]
  | cons p ps ih => simp [Predicate.usesAll, ih]

namespace Predicate

theorem uses_of_child {p : Predicate} (h : p.operator = .child) (table : String) :
    p.uses table = childUses p.column p.child := by
  obtain ⟨operator, column, value, connective, kid⟩ := p
  cases h
  rfl

theorem uses_of_ne_child {p : Predicate} (h : p.operator ≠ .child) (table : String) :
    p.uses table = [⟨table, p.column, p.operator⟩] := by
  obtain ⟨operator, column, value, connective, kid⟩ := p
  cases operator with
  | child => exact absurd rfl h
  | isIn | notIn | eq | ne | gt | lt | ge | le | like => rfl

end Predicate

/-! ## What permission says -/

theorem Catalog.lookup_eq_ok {c : Catalog} {table : String} {t : Table} :
    c.lookup table = .ok t ↔ c.table? table = some t := by
  unfold lookup
  split <;> simp_all

theorem Catalog.resolveView_eq_ok {c : Catalog} {table view : String} {t : Table} {v : View} :
    c.resolveView table view = .ok (t, v) ↔ c.table? table = some t ∧ t.view? view = some v := by
  unfold resolveView
  simp only [bind_eq_ok, lookup_eq_ok]
  constructor
  · rintro ⟨t', ht, h⟩
    split at h
    · rename_i hv
      cases h
      exact ⟨ht, hv⟩
    · cases h
  · rintro ⟨ht, hv⟩
    refine ⟨t, ht, ?_⟩
    rw [hv]
    rfl

namespace Table

variable {t : Table}

theorem lookupColumn_eq_ok {name : String} {column : Column} :
    t.lookupColumn name = .ok column ↔ t.columns.find? name = some column := by
  unfold lookupColumn column?
  split <;> simp_all

theorem allows_of_checkComparison {p : Predicate} (h : t.checkComparison p = .ok ()) :
    ∃ column, t.columns.find? p.column = some column ∧ column.allows p.operator := by
  unfold checkComparison at h
  split at h
  · cases h
  · obtain ⟨column, hcolumn, hrest⟩ := bind_eq_ok.1 h
    split at hrest
    · rename_i hallows
      exact ⟨column, lookupColumn_eq_ok.1 hcolumn, hallows⟩
    · cases hrest

theorem orderable_of_checkOrders {keys : List SortKey} (h : t.checkOrders keys = .ok ()) :
    ∀ key ∈ keys, ∃ column, t.columns.find? key.column = some column ∧ column.orderable := by
  induction keys with
  | nil => simp
  | cons key rest ih =>
    obtain ⟨column, hcolumn, hrest⟩ := bind_eq_ok.1 h
    split at hrest
    · rename_i horderable
      exact List.forall_mem_cons.2 ⟨⟨column, lookupColumn_eq_ok.1 hcolumn, horderable⟩, ih hrest⟩
    · cases hrest

end Table

/-- The catalog has the table and the column, and the column allows the operator. -/
def Use.Allowed (c : Catalog) (u : Use) : Prop :=
  ∃ t, c.table? u.table = some t ∧
    ∃ column, t.columns.find? u.column = some column ∧ column.allows u.operator

namespace Query

variable {c : Catalog} {child : Option (Table → Query → Except QueryError Unit)}

/-- The comparisons of a permitted level are allowed if those of its child queries are. -/
theorem allowed_of_checkPredicates
    (hchild : ∀ check ∈ child, ∀ table t q, c.table? table = some t → check t q = .ok () →
      ∀ u ∈ q.uses table, u.Allowed c)
    {table : String} {t : Table} {q : Query} (ht : c.table? table = some t)
    (h : checkPredicates c child t q.predicates = .ok ()) :
    ∀ u ∈ q.uses table, u.Allowed c := by
  intro u hu
  obtain ⟨p, hmem, hu⟩ := mem_uses.1 hu
  have hp := checkPredicates_eq_ok.1 h p hmem
  by_cases hop : p.operator = .child
  · -- The child query is on the table that the predicate names as its column.
    rw [if_pos hop] at hp
    obtain ⟨check, hcheck, t', hlookup, q, hq, -, hok⟩ := checkRelated_eq_ok hp
    rw [Predicate.uses_of_child hop, hq] at hu
    exact hchild check hcheck p.column t' q (Catalog.lookup_eq_ok.1 hlookup) hok u hu
  · rw [if_neg hop] at hp
    rw [Predicate.uses_of_ne_child hop] at hu
    obtain rfl := List.mem_singleton.1 hu
    exact ⟨t, ht, Table.allows_of_checkComparison hp⟩

theorem allowed_of_checkLevels {levels : Nat} {table : String} {t : Table} {q : Query}
    (ht : c.table? table = some t) (h : checkLevels c levels t q = .ok ()) :
    ∀ u ∈ q.uses table, u.Allowed c := by
  induction levels generalizing table t q with
  | zero =>
    obtain ⟨hpredicates, -⟩ := bind_unit_eq_ok.1 h
    exact allowed_of_checkPredicates (by simp) ht hpredicates
  | succ levels ih =>
    obtain ⟨hpredicates, -⟩ := bind_unit_eq_ok.1 h
    refine allowed_of_checkPredicates ?_ ht hpredicates
    rintro check ⟨⟩ table' t' q' ht' hok
    exact ih ht' hok

theorem orderable_of_checkLevels {levels : Nat} {t : Table} {q : Query}
    (h : checkLevels c levels t q = .ok ()) :
    ∀ key ∈ q.orders, ∃ column, t.columns.find? key.column = some column ∧ column.orderable := by
  cases levels <;> exact Table.orderable_of_checkOrders (bind_unit_eq_ok.1 h).2

end Query

/-! ## What was declared -/

namespace Declaration

variable {d : Declaration} {t : Table} {name : String} {column : Column}

/-- The table has the column: it was declared, or it is the primary key. -/
def Lists (d : Declaration) (column : String) : Prop :=
  column = Sql.idColumn ∨ column ∈ d.columns.keys

def Orders (d : Declaration) (column : String) : Prop :=
  ∃ declared, d.columns.find? column = some declared ∧ declared.order = true

/-- One of the texts that are declared for the column means the operator. The primary key may be
compared for equality and membership in any case. -/
def Permits (d : Declaration) (column : String) (operator : Operator) : Prop :=
  (∃ declared, d.columns.find? column = some declared ∧
      ∃ text ∈ declared.query, Operator.ofText? text = some operator) ∨
    column = Sql.idColumn ∧ operator ∈ [Operator.eq, .isIn, .notIn]

theorem lists_of_mem_keys (h : d.build = .ok t) (hmem : name ∈ t.columns.keys) : d.Lists name := by
  obtain ⟨column, hfind⟩ := Dict.mem_keys.1 hmem
  rcases (find?_columns h).1 hfind with ⟨-, hid, -⟩ | ⟨declared, hdeclared, -⟩
  · exact .inl hid
  · exact .inr (Dict.mem_keys.2 ⟨declared, hdeclared⟩)

theorem orders_of_orderable (h : d.build = .ok t) (hfind : t.columns.find? name = some column)
    (horderable : column.orderable) : d.Orders name := by
  rcases (find?_columns h).1 hfind with ⟨-, -, rfl⟩ | ⟨declared, hdeclared, hbuild⟩
  · -- The primary key is not orderable unless it is declared so.
    cases horderable
  · rw [(ColumnDeclaration.builds_of_build hbuild).orderable_eq] at horderable
    exact ⟨declared, hdeclared, horderable⟩

theorem permits_of_allows (h : d.build = .ok t) (hfind : t.columns.find? name = some column)
    {operator : Operator} (hallows : column.allows operator) : d.Permits name operator := by
  rcases (find?_columns h).1 hfind with ⟨-, hid, rfl⟩ | ⟨declared, hdeclared, hbuild⟩
  · exact .inr ⟨hid, by simpa using hallows⟩
  · have hbuilds := ColumnDeclaration.builds_of_build hbuild
    rcases (hbuilds.allows_iff operator).1 hallows with htext | hkey
    · exact .inl ⟨declared, hdeclared, htext⟩
    · exact .inr hkey

end Declaration

/-! ## Names in the text -/

open Sql

/-- The quoted names in a text, in order. -/
def Sql.identifiers (text : String) : List String := (lex text).filterMap Token.name?

theorem Sql.names_placeholderList (positions : List Nat) :
    (placeholderList positions).filterMap Token.name? = [] := by
  apply List.filterMap_eq_nil_iff.2
  intro token hmem
  rcases mem_separated hmem with rfl | ⟨item, hitem, hmem⟩
  · rfl
  · obtain ⟨position, -, rfl⟩ := List.mem_map.1 hitem
    obtain rfl := List.mem_singleton.1 hmem
    rfl

namespace Skeleton

theorem names_leadTokens (lead : Option Connective) :
    (leadTokens lead).filterMap Token.name? = [] := by
  cases lead <;> rfl

theorem names_symbol (operator : Operator) :
    (lex operator.symbol).filterMap Token.name? = [] := by
  cases operator <;> rfl

theorem names_operandTokens (operator : Operator) (position : Nat) :
    (operandTokens operator position).filterMap Token.name? = [] := by
  unfold operandTokens
  split <;> rfl

theorem names_comparison (lead : Option Connective) (operator : Operator) (column : String)
    (position : Nat) :
    ((comparison lead operator column).tokens position).filterMap Token.name? = [column] := by
  simp [tokens, names_leadTokens, names_symbol, names_operandTokens, Token.name?]

theorem names_membership (lead : Option Connective) (operator : Operator) (column : String)
    (count position : Nat) :
    ((membership lead operator column count).tokens position).filterMap Token.name? =
      [column] := by
  simp [tokens, List.filterMap_cons, names_leadTokens, names_symbol, names_placeholderList,
    Token.name?]

theorem names_group (lead : Option Connective) (parts : List Skeleton) (position : Nat) :
    ((group lead parts).tokens position).filterMap Token.name? =
      (tokensAll position parts).filterMap Token.name? := by
  simp [tokens, List.filterMap_cons, names_leadTokens, Token.name?]

end Skeleton

namespace Predicate

open Skeleton

mutual

theorem names_query (q : Query) (table : String) (position : Nat) :
    (tokensAll position q.skeleton).filterMap Token.name? = (q.uses table).map Use.column := by
  cases q with
  | mk predicates orders =>
    cases predicates with
    | nil => rfl
    | cons p ps =>
      simp only [Query.skeleton, tokensAll, Query.uses, usesAll, List.filterMap_append,
        List.map_append]
      rw [names_skeleton p none table, names_rest ps table]

theorem names_rest (ps : List Predicate) (table : String) (position : Nat) :
    (tokensAll position (skeletonRest ps)).filterMap Token.name? =
      (usesAll table ps).map Use.column := by
  cases ps with
  | nil => rfl
  | cons p ps =>
    simp only [skeletonRest, tokensAll, usesAll, List.filterMap_append, List.map_append]
    rw [names_skeleton p (some p.connective) table, names_rest ps table]

theorem names_skeleton (p : Predicate) (lead : Option Connective) (table : String)
    (position : Nat) :
    ((p.skeleton lead).tokens position).filterMap Token.name? =
      (p.uses table).map Use.column := by
  obtain ⟨operator, column, value, connective, kid⟩ := p
  cases operator with
  | child =>
    rw [skeleton, names_group]
    exact names_child kid column position
  | isIn | notIn => exact names_membership lead _ column value.items.length position
  | eq | ne | gt | lt | ge | le | like => exact names_comparison lead _ column position

theorem names_child (kid : Option Query) (table : String) (position : Nat) :
    (tokensAll position (childSkeleton kid)).filterMap Token.name? =
      (childUses table kid).map Use.column := by
  cases kid with
  | none => rfl
  | some q => exact names_query q table position

end

end Predicate

namespace Statement

theorem names_whereTokens (q : Query) (table : String) :
    (whereTokens q.skeleton).filterMap Token.name? = (q.uses table).map Use.column := by
  rw [← Predicate.names_query q table 1]
  cases q.skeleton with
  | nil => rfl
  | cons s rest => simp [whereTokens, Skeleton.levelTokens, List.filterMap_cons, Token.name?]

theorem names_columns (columns : List String) :
    (separated (columns.map fun name => [.identifier name])).filterMap Token.name? = columns := by
  rw [filterMap_separated rfl fun _ => rfl]
  exact List.map_id columns

theorem names_orderTokens (orders : List SortKey) :
    (orderTokens orders).filterMap Token.name? = orders.map SortKey.column := by
  cases orders with
  | nil => rfl
  | cons key rest => exact filterMap_separated rfl (fun _ => rfl) (key :: rest)

/-- The names in a SELECT statement: what it lists, its table, what it compares and what it orders
by. -/
theorem identifiers_of_select {table : String} {v : View} {q : Query} {s : Statement}
    (h : select table v q = .ok s) :
    identifiers s.sql = v.columnNames ++
      table :: ((q.uses table).map Use.column ++ q.orders.map SortKey.column) := by
  obtain ⟨-, rfl⟩ := select_eq_ok.1 h
  rw [identifiers, (closed_selectText table v.columnNames q).lex, selectTokens]
  simp [List.filterMap_cons, Token.name?, names_columns, names_whereTokens q table,
    names_orderTokens]

end Statement

/-! ## Confinement -/

theorem Draft.declaration_of_table? {sources : List Source} {c : Catalog}
    (hbuild : (Draft.empty.after sources).build = .ok c) {table : String} {t : Table}
    (ht : c.table? table = some t) :
    ∃ d ∈ Draft.empty.declared sources, d.tableName = table ∧ d.build = .ok t := by
  obtain ⟨-, rfl⟩ := build_eq_ok.1 hbuild
  obtain ⟨rfl, d, hd, hbuilt⟩ := built_of_find? ht
  obtain ⟨-, -, hname, -⟩ := Declaration.build_eq_ok.1 hbuilt
  exact ⟨d, hd, hname.symm, hbuilt⟩

/-- A SELECT statement made of a view and a permitted query of a built catalog lists at least one
column. It lists and orders by columns that the accepted declaration of its table has, and compares
columns as the declarations of their tables permit; its text holds no other names. -/
theorem Draft.select_confined {sources : List Source} {c : Catalog} {table view : String}
    {t : Table} {v : View} {q : Query} {s : Statement}
    (hbuild : (Draft.empty.after sources).build = .ok c)
    (hview : c.resolveView table view = .ok (t, v)) (hcheck : Query.check c table q = .ok ())
    (hselect : Statement.select table v q = .ok s) :
    let ds := Draft.empty.declared sources
    (ds.map Declaration.tableName).Nodup ∧ t.name = table ∧
      identifiers s.sql = v.columnNames ++
        table :: ((q.uses table).map Use.column ++ q.orders.map SortKey.column) ∧
      (∃ d ∈ ds, d.tableName = table ∧ v.columnNames ≠ [] ∧
        (∀ column ∈ v.columnNames, d.Lists column) ∧ ∀ key ∈ q.orders, d.Orders key.column) ∧
      ∀ u ∈ q.uses table, ∃ d ∈ ds, d.tableName = u.table ∧ d.Permits u.column u.operator := by
  intro ds
  obtain ⟨ht, hv⟩ := Catalog.resolveView_eq_ok.1 hview
  obtain ⟨t', ht', hlevels⟩ := bind_eq_ok.1 hcheck
  obtain rfl : t = t' := Option.some.inj (ht.symm.trans (Catalog.lookup_eq_ok.1 ht'))
  obtain ⟨d, hd, hname, hbuilt⟩ := declaration_of_table? hbuild ht
  have hwf := (Declaration.wellFormed_of_build hbuilt).views v (Dict.mem_values.2 ⟨view, hv⟩)
  obtain ⟨-, -, htable, -⟩ := Declaration.build_eq_ok.1 hbuilt
  refine ⟨nodup_declared sources, htable.trans hname, Statement.identifiers_of_select hselect,
    ⟨d, hd, hname, ?_, ?_, ?_⟩, ?_⟩
  · simpa [View.columnNames] using hwf.nonempty
  · intro column hcolumn
    obtain ⟨listed, hlisted, rfl⟩ := List.mem_map.1 hcolumn
    exact Declaration.lists_of_mem_keys hbuilt (hwf.columns listed hlisted).listed
  · intro key hkey
    obtain ⟨column, hfind, horderable⟩ := Query.orderable_of_checkLevels hlevels key hkey
    exact Declaration.orders_of_orderable hbuilt hfind horderable
  · intro u hu
    obtain ⟨t', ht', column, hfind, hallows⟩ := Query.allowed_of_checkLevels ht hlevels u hu
    obtain ⟨d', hd', hname', hbuilt'⟩ := declaration_of_table? hbuild ht'
    exact ⟨d', hd', hname', Declaration.permits_of_allows hbuilt' hfind hallows⟩

/-- A query that compares columns of two tables, beside a second declaration of one of them that
would permit more. -/
theorem Draft.select_confined_nested :
    let users : Declaration := ⟨none, "DB.users",
      Dict.ofList [("name", ⟨"String", ["=", "LIKE"], false, false, true, false⟩)],
      Dict.ofList [("brief", ⟨"1h", ["id", "name"]⟩)]⟩
    let orders : Declaration := ⟨none, "DB.orders",
      Dict.ofList [("owner", ⟨"DB.users", ["="], false, false, false, false⟩)], .empty⟩
    let again : Declaration := ⟨none, "DB.orders",
      Dict.ofList [("owner", ⟨"DB.users", ["=", "!="], false, false, false, false⟩)], .empty⟩
    let sources : List Source := [.read users, .read orders, .read again]
    let inner : Query := ⟨[⟨.eq, "owner", .string "a", .and, none⟩,
      ⟨.isIn, "id", .array [.null], .or, none⟩], []⟩
    let q : Query := ⟨[⟨.like, "name", .string "b", .and, none⟩,
      ⟨.child, "orders", .null, .and, some inner⟩], [⟨"name", true⟩]⟩
    ∃ c t v s, (Draft.empty.after sources).build = .ok c ∧
      c.resolveView "users" "brief" = .ok (t, v) ∧ Query.check c "users" q = .ok () ∧
      Statement.select "users" v q = .ok s ∧
      identifiers s.sql = v.columnNames ++ ["users", "name", "owner", "id", "name"] ∧
      ∀ u ∈ q.uses "users", ∃ d ∈ Draft.empty.declared sources,
        d.tableName = u.table ∧ d.Permits u.column u.operator := by
  intro users orders again sources inner q
  have hlinks : (Draft.empty.after sources).linkErrors = [] := by decide +kernel
  have hbuild := build_eq_ok.2 ⟨hlinks, rfl⟩
  have hsome : (Catalog.view? ⟨(Draft.empty.after sources).tables⟩ "users" "brief").isSome := by
    decide +kernel
  have hcheck : Query.check ⟨(Draft.empty.after sources).tables⟩ "users" q = .ok () := by
    decide +kernel
  obtain ⟨v, hv⟩ := Option.isSome_iff_exists.1 hsome
  obtain ⟨t, ht, hv⟩ := Option.bind_eq_some_iff.1 hv
  have hview := Catalog.resolveView_eq_ok.2 ⟨ht, hv⟩
  have hcompiles : q.Shaped Query.maxNesting ∧ q.Listed := ⟨by decide, by decide⟩
  have hselect : Statement.select "users" v q = .ok _ := Statement.select_eq_ok.2 ⟨hcompiles, rfl⟩
  have h := Draft.select_confined hbuild hview hcheck hselect
  exact ⟨_, t, v, _, hbuild, hview, hcheck, hselect, h.2.2.1, h.2.2.2.2⟩

end SqlCatalog
