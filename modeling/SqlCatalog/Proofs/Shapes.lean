-- SUMMARY: Checking and compiling find faults of shape in the same queries.
import SqlCatalog.Proofs.Validated

/-!
# Faults of shape

A query has a fault of shape when a child query is missing, stands where none
belongs, is empty or nests too deep. Checking a query against a catalog and
compiling it both look for such faults, in different orders and between other
faults, so they need not report the same one. What they agree on is the set of
well-shaped queries: on these neither reports a fault of shape, and no other
query passes either of them.
-/

namespace SqlCatalog

/-- Whether an error is about the child queries of a query. -/
def QueryError.isShape : QueryError → Bool
  | .missingChild _ => true
  | .unexpectedChild _ _ => true
  | .emptyChild _ => true
  | .nestingTooDeep => true
  | _ => false

/-- The computation does not fail with a fault of shape. -/
def ShapeFree {α : Type} (x : Except QueryError α) : Prop :=
  ∀ error, x = .error error → error.isShape = false

namespace ShapeFree

variable {α β : Type}

theorem ok (a : α) : ShapeFree (.ok a) := FailsOnly.ok a

theorem error {e : QueryError} (h : e.isShape = false) : ShapeFree (.error e : Except _ α) :=
  FailsOnly.error h

theorem bind {x : Except QueryError α} {f : α → Except QueryError β} (hx : ShapeFree x)
    (hf : ∀ a, ShapeFree (f a)) : ShapeFree (x >>= f) :=
  FailsOnly.bind hx hf

end ShapeFree

/-! ## Compiling -/

namespace Predicate

theorem shapeFree_members (p : Predicate) : ShapeFree p.members := by
  unfold members
  split
  · split
    · exact .error rfl
    · split
      · exact .error rfl
      · exact .ok _
  · exact .error rfl

variable {child : Nat → Query → Except QueryError Compiled} {Inner : Query → Prop}
  (hchild : ∀ position q, Inner q → ShapeFree (child position q))

include hchild

theorem shapeFree_compile {p : Predicate} (hp : p.Shaped Inner) (position : Nat) :
    ShapeFree (p.compile child position) := by
  obtain ⟨operator, column, value, connective, kid⟩ := p
  by_cases hrelated : operator = .child
  · subst hrelated
    rw [Shaped, if_pos rfl] at hp
    obtain ⟨q, rfl, hne, hinner⟩ := hp
    rw [compile_related hne]
    exact hchild position q hinner
  · rw [Shaped, if_neg hrelated] at hp
    obtain rfl : kid = none := hp
    cases operator with
    | child => exact absurd rfl hrelated
    | isIn | notIn => exact (shapeFree_members _).bind fun items => .ok _
    | eq | ne | gt | lt | ge | le | like => exact .ok _

theorem shapeFree_compileRest {ps : List Predicate} (hps : ∀ p ∈ ps, p.Shaped Inner)
    (position : Nat) : ShapeFree (compileRest child position ps) := by
  induction ps generalizing position with
  | nil => exact .ok _
  | cons p ps ih =>
    obtain ⟨hp, hrest⟩ := List.forall_mem_cons.1 hps
    refine (shapeFree_compile hchild hp position).bind fun first => ?_
    exact (ih hrest first.next).bind fun rest => .ok _

end Predicate

namespace Query

theorem shapeFree_compileWith {child : Nat → Query → Except QueryError Compiled}
    {Inner : Query → Prop} (hchild : ∀ position q, Inner q → ShapeFree (child position q))
    {q : Query} (hq : ∀ p ∈ q.predicates, p.Shaped Inner) (position : Nat) :
    ShapeFree (compileWith child position q) := by
  obtain ⟨predicates, orders⟩ := q
  cases predicates with
  | nil => exact .ok _
  | cons p ps =>
    obtain ⟨hp, hrest⟩ := List.forall_mem_cons.1 hq
    refine (Predicate.shapeFree_compile hchild hp position).bind fun first => ?_
    exact (Predicate.shapeFree_compileRest hchild hrest first.next).bind fun rest => .ok _

theorem shapeFree_compileLevels {levels : Nat} {q : Query} (hq : q.Shaped levels)
    (position : Nat) : ShapeFree (compileLevels levels position q) := by
  induction levels generalizing q position with
  | zero => exact shapeFree_compileWith (fun _ _ hinner => hinner.elim) hq position
  | succ levels ih =>
    refine shapeFree_compileWith ?_ hq position
    intro position q hinner
    exact ih hinner position

end Query

/-! ## Checking -/

theorem Catalog.shapeFree_lookup (c : Catalog) (table : String) : ShapeFree (c.lookup table) := by
  unfold lookup
  split
  · exact .ok _
  · exact .error rfl

namespace Table

theorem shapeFree_lookupColumn (t : Table) (column : String) :
    ShapeFree (t.lookupColumn column) := by
  unfold lookupColumn
  split
  · exact .ok _
  · exact .error rfl

theorem shapeFree_checkComparison (t : Table) {p : Predicate} (h : p.child = none) :
    ShapeFree (t.checkComparison p) := by
  unfold checkComparison
  rw [if_neg (by simp [h])]
  refine (t.shapeFree_lookupColumn p.column).bind fun column => ?_
  split
  · exact .ok _
  · exact .error rfl

theorem shapeFree_checkOrders (t : Table) (keys : List SortKey) :
    ShapeFree (t.checkOrders keys) := by
  induction keys with
  | nil => exact .ok _
  | cons key keys ih =>
    refine (t.shapeFree_lookupColumn key.column).bind fun column => ?_
    split
    · exact ih
    · exact .error rfl

end Table

namespace Query

section

variable {c : Catalog} {child : Option (Table → Query → Except QueryError Unit)}
  {Inner : Query → Prop} (hnone : child = none → ∀ q, ¬ Inner q)
  (hchild : ∀ check ∈ child, ∀ t q, Inner q → ShapeFree (check t q))

include hnone hchild

theorem shapeFree_checkRelated {p : Predicate} {q : Query} (hq : p.child = some q)
    (hne : q.predicates ≠ []) (hinner : Inner q) : ShapeFree (checkRelated c child p) := by
  cases child with
  | none => exact absurd hinner (hnone rfl q)
  | some check =>
    have hnot : q.isEmpty = false := by simpa [isEmpty] using hne
    refine (c.shapeFree_lookup p.column).bind fun t => ?_
    simp only [hq, hnot]
    exact hchild check rfl t q hinner

theorem shapeFree_checkPredicates {ps : List Predicate} (hps : ∀ p ∈ ps, p.Shaped Inner)
    (t : Table) : ShapeFree (checkPredicates c child t ps) := by
  induction ps with
  | nil => exact .ok _
  | cons p ps ih =>
    obtain ⟨hp, hrest⟩ := List.forall_mem_cons.1 hps
    rw [checkPredicates]
    unfold Predicate.Shaped at hp
    split at hp
    · rename_i hrelated
      rw [if_pos hrelated]
      obtain ⟨q, hq, hne, hinner⟩ := hp
      exact (shapeFree_checkRelated hnone hchild hq hne hinner).bind fun _ => ih hrest
    · rename_i hrelated
      rw [if_neg hrelated]
      exact (t.shapeFree_checkComparison hp).bind fun _ => ih hrest

end

theorem shapeFree_checkLevels {c : Catalog} {levels : Nat} {q : Query} (hq : q.Shaped levels)
    (t : Table) : ShapeFree (checkLevels c levels t q) := by
  induction levels generalizing q t with
  | zero =>
    refine (shapeFree_checkPredicates (fun _ _ => id) (by simp) hq t).bind fun _ => ?_
    exact t.shapeFree_checkOrders q.orders
  | succ levels ih =>
    refine (shapeFree_checkPredicates (by simp) ?_ hq t).bind fun _ => ?_
    · rintro check ⟨⟩ t q hinner
      exact ih hinner t
    · exact t.shapeFree_checkOrders q.orders

/-! ## Agreement -/

/-- A query that compiling refuses for a fault of shape is refused on every table of every catalog,
and a query that is refused for a fault of shape anywhere does not compile. -/
theorem shape_faults_agree {q : Query} {start : Nat} (hstart : 1 ≤ start) :
    ((∃ error, q.compileWhere start = .error error ∧ error.isShape = true) →
        ∀ (c : Catalog) table, ∃ error, check c table q = .error error) ∧
      ((∃ (c : Catalog) (table : String) (error : QueryError),
          check c table q = .error error ∧ error.isShape = true) →
        ∃ error, q.compileWhere start = .error error) := by
  have hwhere : q.compileWhere start = compileLevels maxNesting start q := if_neg (by omega)
  rw [hwhere]
  -- What one of the two accepts is well shaped, and then the other has no fault of shape to report.
  constructor
  · rintro ⟨error, hcompile, hshape⟩ c table
    apply exists_error_of_not_ok
    intro _ hcheck
    obtain ⟨t, -, hlevels⟩ := bind_eq_ok.1 hcheck
    have hshaped := shaped_of_checkLevels hlevels
    have hfree := shapeFree_compileLevels hshaped start error hcompile
    rw [hshape] at hfree
    cases hfree
  · rintro ⟨c, table, error, hcheck, hshape⟩
    apply exists_error_of_not_ok
    intro compiled hcompile
    obtain ⟨⟨hshaped, -⟩, -⟩ := (compileLevels_eq_ok _ _ _ _).1 hcompile
    have hshapeFree : ShapeFree (check c table q) :=
      (c.shapeFree_lookup table).bind fun t => shapeFree_checkLevels hshaped t
    have hfree := hshapeFree error hcheck
    rw [hshape] at hfree
    cases hfree

/-- A missing child query, reported by checking alone since compiling stops before it at a value,
and one that is refused wherever it is checked. -/
theorem shape_faults_agree_missing :
    let users : Table := ⟨"users", "users", Dict.ofList [("id", .primaryKey)], .empty⟩
    let c : Catalog := ⟨Dict.ofList [("users", users)]⟩
    let missing : Predicate := ⟨.child, "users", .null, .or, none⟩
    let q : Query := ⟨[⟨.isIn, "id", .null, .and, none⟩, missing], []⟩
    let q' : Query := ⟨[missing], []⟩
    (check c "users" q = .error (.missingChild "users") ∧
        ∃ error, q.compileWhere 2 = .error error) ∧
      q'.compileWhere 2 = .error (.missingChild "users") ∧
        ∀ (c : Catalog) table, ∃ error, check c table q' = .error error := by
  intro users c missing q q'
  have hcheck : check c "users" q = .error (.missingChild "users") := rfl
  have hcompile : q'.compileWhere 2 = .error (.missingChild "users") := rfl
  have hstart : 1 ≤ 2 := by decide
  exact ⟨⟨hcheck, (shape_faults_agree hstart).2 ⟨c, "users", _, hcheck, rfl⟩⟩, hcompile,
    (shape_faults_agree hstart).1 ⟨_, hcompile, rfl⟩⟩

end Query

end SqlCatalog
