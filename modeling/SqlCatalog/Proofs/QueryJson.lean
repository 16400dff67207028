-- SUMMARY: Written queries are read back: what reading gives for the text of any query.
import SqlCatalog.Proofs.JsonReader
import SqlCatalog.Query.Json

/-!
# Queries read back from their text

A query of any shape is the answer to reading its own text, if its values hold
no floating-point numbers and the text does not nest deeper than texts are read.
What a predicate leaves out when it is written, a null value or a missing child,
is what reading puts where nothing is found.
-/

namespace SqlCatalog

open Json

/-! ## Values of a query -/

mutual

/-- The values of a query's predicates, at any depth. -/
def Query.values : Query → List Value
  | ⟨predicates, _⟩ => Predicate.valuesAll predicates

def Predicate.valuesAll : List Predicate → List Value
  | [] => []
  | p :: ps => p.values ++ Predicate.valuesAll ps

def Predicate.values : Predicate → List Value
  | ⟨_, _, value, _, child⟩ => value :: Predicate.childValues child

def Predicate.childValues : Option Query → List Value
  | none => []
  | some q => q.values

end

theorem Predicate.values_subset_valuesAll {p : Predicate} {ps : List Predicate} (hp : p ∈ ps) :
    p.values ⊆ Predicate.valuesAll ps := by
  induction ps with
  | nil => cases hp
  | cons first ps ih =>
    rw [valuesAll]
    rcases List.mem_cons.1 hp with rfl | hrest
    · exact List.subset_append_left _ _
    · exact List.subset_append_of_subset_right _ (ih hrest)

theorem Query.values_subset_of_mem {q : Query} {p : Predicate} (hp : p ∈ q.predicates) :
    p.values ⊆ q.values := by
  cases q with
  | mk predicates orders => exact Predicate.values_subset_valuesAll hp

theorem Predicate.value_mem_values (p : Predicate) : p.value ∈ p.values := by
  cases p with
  | mk operator column value connective child => exact List.mem_cons_self

theorem Predicate.values_subset_of_child {p : Predicate} {q : Query} (hq : p.child = some q) :
    q.values ⊆ p.values := by
  cases p with
  | mk operator column value connective child =>
    obtain rfl : child = some q := hq
    exact List.subset_cons_self _ _

/-! ## Numbers of a written query -/

theorem SortKey.numbers_toJson (orders : List SortKey) :
    Value.itemNumbers (orders.map SortKey.toJson) = [] := by
  induction orders with
  | nil => rfl
  | cons o orders ih =>
    simpa [Value.itemNumbers, SortKey.toJson, Value.numbers, Value.memberNumbers]

theorem Json.Value.memberNumbers_append (ms ms' : List (String × Value)) :
    Value.memberNumbers (ms ++ ms') = Value.memberNumbers ms ++ Value.memberNumbers ms' := by
  induction ms with
  | nil => rfl
  | cons m ms ih => simp [Value.memberNumbers, ih]

mutual

/-- The numbers in a query's JSON are the numbers in its values. -/
theorem Query.numbers_toJson (q : Query) : q.toJson.numbers = q.values.flatMap Value.numbers := by
  match q with
  | ⟨predicates, orders⟩ =>
    simp [Query.toJson, Query.values, Value.numbers, Value.memberNumbers,
      Predicate.numbers_allToJson predicates, SortKey.numbers_toJson]

theorem Predicate.numbers_allToJson (ps : List Predicate) :
    Value.itemNumbers (Predicate.allToJson ps) =
      (Predicate.valuesAll ps).flatMap Value.numbers := by
  match ps with
  | [] => rfl
  | p :: ps =>
    simp [Predicate.allToJson, Predicate.valuesAll, Value.itemNumbers, Predicate.numbers_toJson p,
      Predicate.numbers_allToJson ps]

theorem Predicate.numbers_toJson (p : Predicate) :
    p.toJson.numbers = p.values.flatMap Value.numbers := by
  match p with
  | ⟨operator, column, value, connective, child⟩ =>
    have hvalue : Value.memberNumbers (if value.isNull then [] else [("value", value)]) =
        value.numbers := by
      cases value <;> simp [Value.isNull, Value.memberNumbers, Value.numbers]
    simp [Predicate.toJson, Predicate.values, Value.numbers, Value.memberNumbers_append,
      Value.memberNumbers, hvalue, Predicate.numbers_childToJson child]

theorem Predicate.numbers_childToJson (child : Option Query) :
    Value.memberNumbers (Predicate.childToJson child) =
      (Predicate.childValues child).flatMap Value.numbers := by
  match child with
  | none => rfl
  | some q =>
    simp [Predicate.childToJson, Predicate.childValues, Value.memberNumbers, Query.numbers_toJson q]

end

/-! ## Nesting of a written query -/

theorem Predicate.allToJson_eq_map (ps : List Predicate) :
    Predicate.allToJson ps = ps.map Predicate.toJson := by
  induction ps with
  | nil => rfl
  | cons p ps ih => rw [allToJson, ih, List.map_cons]

theorem Query.toJson_eq (q : Query) :
    q.toJson = .object [("where", .array (q.predicates.map Predicate.toJson)),
      ("order", .array (q.orders.map SortKey.toJson))] := by
  cases q with
  | mk predicates orders => rw [Query.toJson, Predicate.allToJson_eq_map]

theorem Query.nesting_where_lt (q : Query) :
    (Value.array (q.predicates.map Predicate.toJson)).nesting < q.toJson.nesting := by
  rw [Query.toJson_eq]
  exact Value.nesting_member_lt List.mem_cons_self

theorem Query.nesting_order_lt (q : Query) :
    (Value.array (q.orders.map SortKey.toJson)).nesting < q.toJson.nesting := by
  rw [Query.toJson_eq]
  exact Value.nesting_member_lt (List.mem_cons_of_mem _ List.mem_cons_self)

theorem Query.two_le_nesting (q : Query) : 2 ≤ q.toJson.nesting := by
  have hlt := q.nesting_where_lt
  rw [Value.nesting] at hlt
  omega

theorem SortKey.nesting_toJson (o : SortKey) : o.toJson.nesting = 1 := by
  simp [SortKey.toJson, Value.nesting, Value.memberNesting]

/-- The members that a predicate is written with. -/
def Predicate.writtenMembers (p : Predicate) : List (String × Value) :=
  [("op", .string p.operator.symbol), ("column", .string p.column)] ++
    (if p.value.isNull then [] else [("value", p.value)]) ++
    [("concat", .string p.connective.symbol)] ++ Predicate.childToJson p.child

theorem Predicate.toJson_eq (p : Predicate) : p.toJson = .object p.writtenMembers := by
  cases p with
  | mk operator column value connective child => rfl

theorem Predicate.nesting_pos (p : Predicate) : 0 < p.toJson.nesting := by
  rw [Predicate.toJson_eq, Value.nesting]
  omega

theorem Predicate.nesting_value_lt (p : Predicate) : p.value.nesting < p.toJson.nesting := by
  cases hnull : p.value.isNull with
  | true =>
    have hzero : p.value.nesting = 0 := by
      cases hvalue : p.value <;> simp_all [Value.isNull, Value.nesting]
    rw [hzero]
    exact p.nesting_pos
  | false =>
    rw [Predicate.toJson_eq]
    have hmem : ("value", p.value) ∈ p.writtenMembers := by simp [writtenMembers, hnull]
    exact Value.nesting_member_lt hmem

theorem Predicate.nesting_child_lt {p : Predicate} {q : Query} (hq : p.child = some q) :
    q.toJson.nesting < p.toJson.nesting := by
  rw [Predicate.toJson_eq]
  have hmem : ("query", q.toJson) ∈ p.writtenMembers := by simp [writtenMembers, childToJson, hq]
  exact Value.nesting_member_lt hmem

/-! ## Reading back -/

theorem Operator.find?_symbols (op : Operator) :
    Entries.find? op.symbol Operator.symbols = some op := by
  cases op <;> decide

theorem Connective.find?_symbols (c : Connective) :
    Entries.find? c.symbol Connective.symbols = some c := by
  cases c <;> decide

theorem SortKey.read_toJson (o : SortKey) (budget : Nat) :
    SortKey.read (budget + 1) o.toJson.document = some o := by
  rw [SortKey.read, SortKey.toJson,
    Reader.record_object (by simp [Entries.keys]) (by simp [Entries.keys])]
  simp only [Reader.Fields.required_ofMembers, Reader.Fields.orElse_ofMembers]
  simp [Entries.find?, Value.document, Reader.string, Reader.bool]

theorem Predicate.find?_writtenMembers (p : Predicate) :
    Entries.find? "op" p.writtenMembers = some (.string p.operator.symbol) ∧
    Entries.find? "column" p.writtenMembers = some (.string p.column) ∧
    Entries.find? "value" p.writtenMembers = (if p.value.isNull then none else some p.value) ∧
    Entries.find? "concat" p.writtenMembers = some (.string p.connective.symbol) ∧
    Entries.find? "query" p.writtenMembers = p.child.map Query.toJson := by
  cases hnull : p.value.isNull <;> cases hchild : p.child <;>
    simp [writtenMembers, childToJson, Entries.find?, hnull, hchild]

theorem Predicate.nodup_keys_writtenMembers (p : Predicate) :
    (Entries.keys p.writtenMembers).Nodup := by
  cases hnull : p.value.isNull <;> cases hchild : p.child <;>
    simp [writtenMembers, childToJson, Entries.keys, hnull, hchild]

theorem Predicate.keys_writtenMembers_subset (p : Predicate) :
    Entries.keys p.writtenMembers ⊆ fieldNames := by
  cases hnull : p.value.isNull <;> cases hchild : p.child <;>
    simp [writtenMembers, childToJson, Entries.keys, fieldNames, hnull, hchild]

/-- A predicate is read back if its child query is. -/
theorem Predicate.readWith_toJson {child : Document → Option Query} {budget : Nat} {p : Predicate}
    (hchild : ∀ q, p.child = some q → child q.toJson.document = some q)
    (hvalue : p.value.WellFormed) (hnest : p.value.nesting ≤ budget) :
    Predicate.readWith child (budget + 1) p.toJson.document = some p := by
  obtain ⟨hop, hcolumn, hfound, hconcat, hquery⟩ := p.find?_writtenMembers
  -- Where nothing was written, the default is what was left out.
  have hreadValue : ((Entries.find? "value" p.writtenMembers).map fun v =>
      Value.read budget v.document).getD (some .null) = some p.value := by
    rw [hfound]
    split
    · rename_i hnull
      cases hp : p.value <;> simp_all [Value.isNull]
    · exact Value.read_document hvalue hnest
  have hreadChild : ((Entries.find? "query" p.writtenMembers).map fun v =>
      Reader.optional (fun _ => child) budget v.document).getD (some none) = some p.child := by
    rw [hquery]
    cases hp : p.child with
    | none => rfl
    | some q =>
      have hread := hchild q hp
      rw [Query.toJson_eq, Value.document] at hread
      simp [Query.toJson_eq, Value.document, Reader.optional, hread]
  rw [Predicate.toJson_eq, Predicate.readWith,
    Reader.record_object p.nodup_keys_writtenMembers p.keys_writtenMembers_subset]
  simp only [Reader.Fields.required_ofMembers, Reader.Fields.orElse_ofMembers, hreadValue,
    hreadChild, hop, hcolumn, hconcat, Option.bind_some, Option.map_some, Option.getD_some,
    Reader.keyword_string, Operator.find?_symbols, Connective.find?_symbols]
  cases p with
  | mk operator column value connective child => rfl

/-- A query is read back if its predicates and orderings are. -/
theorem Query.readWith_toJson {child : Document → Option Query} {budget : Nat} {q : Query}
    (hpredicates : ∀ p ∈ q.predicates,
      Predicate.readWith child budget p.toJson.document = some p)
    (horders : ∀ o ∈ q.orders, SortKey.read budget o.toJson.document = some o) :
    Query.readWith child (budget + 2) q.toJson.document = some q := by
  have hwhere := Reader.list_document hpredicates
  have horder := Reader.list_document horders
  rw [Query.toJson_eq, Query.readWith,
    Reader.record_object (by simp [Entries.keys]) (by simp [Entries.keys])]
  have hfields : Entries.find? "order" [("where", Value.array (q.predicates.map Predicate.toJson)),
      ("order", Value.array (q.orders.map SortKey.toJson))] =
      some (Value.array (q.orders.map SortKey.toJson)) := by
    simp [Entries.find?]
  simp only [Reader.Fields.orElse_ofMembers, hfields, Option.map_some, Option.getD_some, horder]
  simp only [Entries.find?, if_true, Option.map_some, Option.getD_some, hwhere]
  cases q with
  | mk predicates orders => rfl

/-- Reading goes on in a child query with three brackets fewer, where that many are left. -/
theorem Query.exists_read_eq (budget : Nat) :
    ∃ child, Query.read budget = Query.readWith child budget ∧
      ∀ left, budget = left + 3 → child = Query.read left := by
  match budget with
  | 0 | 1 | 2 => exact ⟨fun _ => none, rfl, by omega⟩
  | left + 3 => exact ⟨Query.read left, rfl, fun left' h => by rw [Nat.add_right_cancel h]⟩

/-- Reading gives back any query whose text nests within the budget. -/
theorem Query.read_toJson {budget : Nat} {q : Query} (hvalues : ∀ v ∈ q.values, v.WellFormed)
    (hnest : q.toJson.nesting ≤ budget) : Query.read budget q.toJson.document = some q := by
  induction budget using Nat.strongRecOn generalizing q with
  | ind budget ih =>
    obtain ⟨child, hread, hchild⟩ := Query.exists_read_eq budget
    have hwhere := q.nesting_where_lt
    have horder := q.nesting_order_lt
    obtain ⟨inner, rfl⟩ : ∃ inner, budget = inner + 2 :=
      ⟨budget - 2, by have := q.two_le_nesting; omega⟩
    rw [hread]
    apply Query.readWith_toJson
    · intro p hp
      have hlt := Value.nesting_item_lt (List.mem_map_of_mem (f := Predicate.toJson) hp)
      have hvalue := p.nesting_value_lt
      obtain ⟨left, rfl⟩ : ∃ left, inner = left + 1 := ⟨inner - 1, by omega⟩
      apply Predicate.readWith_toJson
      · intro c hc
        have hclt := Predicate.nesting_child_lt hc
        rw [hchild left rfl]
        apply ih left (by omega)
        · intro v hv
          exact hvalues v (Query.values_subset_of_mem hp (Predicate.values_subset_of_child hc hv))
        · omega
      · exact hvalues _ (Query.values_subset_of_mem hp p.value_mem_values)
      · omega
    · intro o ho
      have hlt := Value.nesting_item_lt (List.mem_map_of_mem (f := SortKey.toJson) ho)
      rw [o.nesting_toJson] at hlt
      obtain ⟨left, rfl⟩ : ∃ left, inner = left + 1 := ⟨inner - 1, by omega⟩
      exact o.read_toJson left

/-- A query is the answer to reading its text, if its values have no floating-point numbers in them,
no object in them repeats a key, and the text nests no deeper than texts are read. -/
theorem Query.ofJson?_toJson (q : Query)
    (hvalues : ∀ v ∈ q.values, v.WellFormed ∧ ∀ n ∈ v.numbers, n.isInt = true)
    (hnest : q.toJson.nesting ≤ 127) : Query.ofJson? q.toJson.render = some q := by
  have hint : ∀ n ∈ q.toJson.numbers, n.isInt = true := by
    intro n hn
    rw [Query.numbers_toJson, List.mem_flatMap] at hn
    obtain ⟨v, hv, hn⟩ := hn
    exact (hvalues v hv).2 n hn
  rw [Query.ofJson?, Document.ofJson?_render hint, Option.bind_some]
  exact Query.read_toJson (fun v hv => (hvalues v hv).1) hnest

/-- A query that no table accepts: escaped and unescaped characters in names and values, the least
and the greatest number, an object in a list, a value beside a child query and an empty child. -/
theorem Query.ofJson?_toJson_mixed :
    let inner : Query := ⟨[⟨.child, "", .string "\x1f\t/é", .or, some .empty⟩], [⟨"\x22", false⟩]⟩
    let q : Query := ⟨[⟨.like, "a\\b", .null, .or, none⟩,
      ⟨.isIn, "\n", .array [.number (.int (-9223372036854775808) (by decide)),
        .object [("k", .null), ("K", .array [.number (.int 18446744073709551615 (by decide))])]],
        .and, some inner⟩], [⟨"c", true⟩, ⟨"c", false⟩]⟩
    q.values.length = 3 ∧ q.toJson.nesting = 8 ∧ Query.ofJson? q.toJson.render = some q := by
  intro inner q
  exact ⟨by decide, by decide, Query.ofJson?_toJson q (by decide) (by decide)⟩

end SqlCatalog
