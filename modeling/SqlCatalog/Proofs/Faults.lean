-- SUMMARY: Compiling succeeds when no predicate has a fault, and otherwise reports the first one.
import SqlCatalog.Proofs.Compiled

/-!
# Faults

Each predicate of a query has at most one fault of its own, which depends on the
predicate and on how many child queries it stands inside, and on nothing else in
the query. Compiling walks over the predicates depth first and from left to
right. It succeeds exactly when none of them has a fault, and otherwise reports
the fault of the first one that has, wherever the placeholders start.
-/

namespace SqlCatalog

/-! ## Faults of one predicate -/

namespace Predicate

/-- What is wrong with the value of a membership test. -/
def memberFault (p : Predicate) : Option QueryError :=
  match p.value with
  | .array [] => some (.emptyInList p.column p.operator)
  | .array items =>
    (items.find? fun item => !item.isScalar).map fun item =>
      .nonScalarInElement p.column p.operator item.kind
  | other => some (.invalidInValue p.column p.operator other.kind)

/-- What is wrong with the child query of a child predicate. -/
def relatedFault (depth : Nat) (p : Predicate) : Option QueryError :=
  match p.child with
  | none => some (.missingChild p.column)
  | some q =>
    if q.predicates = [] then some (.emptyChild p.column)
    else if depth = Query.maxNesting then some .nestingTooDeep
    else none

/-- What is wrong with a predicate that stands inside `depth` child queries, whatever may be
wrong in its own child query. -/
def fault (depth : Nat) (p : Predicate) : Option QueryError :=
  if p.operator ≠ .child ∧ p.child.isSome then some (.unexpectedChild p.column p.operator)
  else match p.operator with
    | .isIn | .notIn => p.memberFault
    | .child => p.relatedFault depth
    | _ => none

end Predicate

/-! ## All predicates of a query -/

/-- A predicate inside `depth` child queries. -/
structure Visit where
  depth : Nat
  predicate : Predicate

/-- Predicates that nest too deep have no faults of their own: one above them has. -/
def Visit.fault (v : Visit) : Option QueryError :=
  if v.depth ≤ Query.maxNesting then v.predicate.fault v.depth else none

mutual

/-- The predicates of a query, each before those of its child query and from left to right. What
stands below a faulty predicate comes after it, so that it is never the first. -/
def Query.visits (depth : Nat) : Query → List Visit
  | ⟨predicates, _⟩ => Predicate.visitsAll depth predicates

def Predicate.visitsAll (depth : Nat) : List Predicate → List Visit
  | [] => []
  | p :: ps => p.visits depth ++ Predicate.visitsAll depth ps

def Predicate.visits (depth : Nat) : Predicate → List Visit
  | ⟨operator, column, value, connective, child⟩ =>
    ⟨depth, ⟨operator, column, value, connective, child⟩⟩ :: Predicate.childVisits depth child

def Predicate.childVisits (depth : Nat) : Option Query → List Visit
  | none => []
  | some q => q.visits (depth + 1)

end

def firstFault (vs : List Visit) : Option QueryError := vs.findSome? Visit.fault

@[simp] theorem firstFault_nil : firstFault [] = none := rfl

@[simp] theorem firstFault_append (vs vs' : List Visit) :
    firstFault (vs ++ vs') = (firstFault vs).or (firstFault vs') :=
  List.findSome?_append

/-- A predicate's own fault comes before those of its child query. -/
theorem Predicate.firstFault_visits (p : Predicate) {depth : Nat} (h : depth ≤ Query.maxNesting) :
    firstFault (p.visits depth) =
      (p.fault depth).or (firstFault (Predicate.childVisits depth p.child)) := by
  cases p with
  | mk operator column value connective child =>
    rw [Predicate.visits, firstFault, List.findSome?_cons, Visit.fault, if_pos h]
    cases fault depth ⟨operator, column, value, connective, child⟩ <;> rfl

/-! ## Compiling -/

/-- Below a predicate at `depth`, child queries are refused for their first fault; at the greatest
depth each of them is one too many. -/
def RefusesBelow (depth : Nat) (child : Nat → Query → Except QueryError Compiled) : Prop :=
  ∀ position q, refusal? (child position q) =
    if depth = Query.maxNesting then some .nestingTooDeep else firstFault (q.visits (depth + 1))

namespace Predicate

theorem refusal?_members (p : Predicate) : refusal? p.members = p.memberFault := by
  unfold members memberFault
  cases p.value with
  | array items =>
    cases items with
    | nil => rfl
    | cons item items =>
      simp only [List.isEmpty_cons, Bool.false_eq_true, if_false]
      cases (item :: items).find? (fun v => !v.isScalar) with
      | none => rfl
      | some bad => rfl
  | null => rfl
  | bool b => rfl
  | number n => rfl
  | string text => rfl
  | object members => rfl

/-- A child query with predicates is at fault only where it is one too many. -/
theorem fault_related {q : Query} (h : q.predicates ≠ []) (depth : Nat) (column : String)
    (value : Json.Value) (connective : Connective) :
    fault depth ⟨.child, column, value, connective, some q⟩ =
      if depth = Query.maxNesting then some .nestingTooDeep else none := by
  simp [fault, relatedFault, h]

variable {child : Nat → Query → Except QueryError Compiled} {depth : Nat}

/-- Compiling a predicate refuses its own fault or the first one below it. -/
theorem refusal?_compile (hdepth : depth ≤ Query.maxNesting)
    (hchild : RefusesBelow depth child) (p : Predicate) (position : Nat) :
    refusal? (p.compile child position) = firstFault (p.visits depth) := by
  rw [p.firstFault_visits hdepth]
  obtain ⟨operator, column, value, connective, kid⟩ := p
  by_cases hrelated : operator = .child
  · subst hrelated
    cases kid with
    | none => rfl
    | some q =>
      -- Without a fault of its own, the predicate stands for its child query.
      by_cases hempty : q.predicates = []
      · simp [compile, fault, relatedFault, Query.isEmpty, hempty, refusal?]
      · rw [compile_related hempty, hchild position q, fault_related hempty]
        split <;> rfl
  · cases kid with
    | some q =>
      have hfault : fault depth ⟨operator, column, value, connective, some q⟩ =
          some (.unexpectedChild column operator) := by
        simp [fault, hrelated]
      rw [hfault]
      cases operator with
      | child => exact absurd rfl hrelated
      | eq | ne | gt | lt | ge | le | like | isIn | notIn => rfl
    | none =>
      cases operator with
      | child => exact absurd rfl hrelated
      | isIn | notIn =>
        refine (refusal?_bind_pure _ _).trans ((refusal?_members _).trans ?_)
        exact (Option.or_none (o := memberFault _)).symm
      | eq | ne | gt | lt | ge | le | like => rfl

theorem refusal?_compileRest (hdepth : depth ≤ Query.maxNesting)
    (hchild : RefusesBelow depth child) (ps : List Predicate) (position : Nat) :
    refusal? (compileRest child position ps) = firstFault (visitsAll depth ps) := by
  induction ps generalizing position with
  | nil => rfl
  | cons p ps ih =>
    rw [visitsAll, firstFault_append, ← refusal?_compile hdepth hchild p position]
    apply refusal?_bind
    intro first
    rw [← ih first.next]
    exact refusal?_bind_pure _ _

end Predicate

namespace Query

theorem refusal?_compileWith {child : Nat → Query → Except QueryError Compiled} {depth : Nat}
    (hdepth : depth ≤ maxNesting) (hchild : RefusesBelow depth child) (q : Query) (position : Nat) :
    refusal? (compileWith child position q) = firstFault (q.visits depth) := by
  obtain ⟨predicates, orders⟩ := q
  cases predicates with
  | nil => rfl
  | cons p ps =>
    rw [visits, Predicate.visitsAll, firstFault_append,
      ← Predicate.refusal?_compile hdepth hchild p position]
    apply refusal?_bind
    intro first
    rw [← Predicate.refusal?_compileRest hdepth hchild ps first.next]
    exact refusal?_bind_pure _ _

/-- The levels that are left and the depth that was reached add up to the greatest nesting. -/
theorem refusal?_compileLevels {levels depth : Nat} (h : depth + levels = maxNesting)
    (q : Query) (position : Nat) :
    refusal? (compileLevels levels position q) = firstFault (q.visits depth) := by
  -- One level less is one deeper; at level zero the depth is the greatest and nothing may follow.
  induction levels generalizing depth q position with
  | zero =>
    have hdeep : depth = maxNesting := by omega
    apply refusal?_compileWith (by omega)
    intro position q
    rw [if_pos hdeep]
    rfl
  | succ levels ih =>
    have hleft : depth ≠ maxNesting := by omega
    apply refusal?_compileWith (by omega)
    intro position q
    rw [if_neg hleft]
    exact ih (by omega) q position

theorem refusal?_compileWhere {start : Nat} (h : 1 ≤ start) (q : Query) :
    refusal? (q.compileWhere start) = firstFault (q.visits 0) := by
  rw [compileWhere, if_neg (by omega)]
  exact refusal?_compileLevels (Nat.zero_add maxNesting) q start

/-- Placeholders cannot start at zero. From any other position, compiling succeeds exactly when no
predicate has a fault; it fails with the fault of the first predicate that has one. -/
theorem compileWhere_first_fault (q : Query) :
    q.compileWhere 0 = .error .zeroStartPosition ∧
      ∀ start, 1 ≤ start →
        ((∃ compiled, q.compileWhere start = .ok compiled) ↔ ∀ v ∈ q.visits 0, v.fault = none) ∧
        ∀ error, q.compileWhere start = .error error ↔
          ∃ before v after, q.visits 0 = before ++ v :: after ∧
            v.fault = some error ∧ ∀ u ∈ before, u.fault = none := by
  refine ⟨rfl, ?_⟩
  intro start hstart
  have hfirst := refusal?_compileWhere hstart q
  constructor
  · rw [← refusal?_eq_none, hfirst]
    exact List.findSome?_eq_none_iff
  · intro error
    rw [← refusal?_eq_some, hfirst]
    exact List.findSome?_eq_some_iff

/-- A membership test in a child query comes before a later predicate with a stray child query. -/
theorem compileWhere_first_fault_nested :
    let stray : Predicate := ⟨.eq, "a", .null, .and, some .empty⟩
    let inner : Query := ⟨[⟨.notIn, "b", .array [.null, .object [], .array []], .and, none⟩], []⟩
    let q : Query := ⟨[⟨.like, "c", .null, .and, none⟩, .related "t" inner, stray], []⟩
    q.compileWhere 7 = .error (.nonScalarInElement "b" .notIn "an object") := by
  intro stray inner q
  refine (((compileWhere_first_fault q).2 7 (by decide)).2 _).2 ?_
  exact ⟨[_, _], _, [_], rfl, rfl, by decide⟩

-- Sixteen child queries may stand inside each other, and not one more.
example :
    let leaf : Query := ⟨[.compare .eq "a" .null], []⟩
    let nested (n : Nat) : Query := Nat.repeat (fun q => ⟨[.related "t" q], []⟩) n leaf
    firstFault ((nested 16).visits 0) = none ∧
      firstFault ((nested 17).visits 0) = some .nestingTooDeep := by
  decide

end Query

end SqlCatalog
