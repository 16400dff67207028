-- SUMMARY: Checking accepts exactly the permitted queries and reports the first violation.
import SqlCatalog.Proofs.Compiled
import SqlCatalog.Query.Permission

/-!
# Permitted queries, exactly

What a table permits is a condition on the query as a whole: each predicate is
a comparison that its column allows, or a child query that is permitted on the
table it names, and orderings name orderable columns. The same condition can be
spread out as a list of requirements, in the order in which they are looked at.
Checking a query walks over that list. It succeeds exactly when all of them are
met, which is when the query is permitted, and otherwise reports the first that
is not.
-/

namespace SqlCatalog

/-! ## What is permitted -/

mutual

/-- The query may be asked of the table, `depth` child queries down. -/
def Query.Permitted (c : Catalog) (t : Table) (depth : Nat) : Query → Prop
  | ⟨predicates, orders⟩ =>
    Predicate.PermittedAll c t depth predicates ∧
      ∀ key ∈ orders, ∃ column, t.column? key.column = some column ∧ column.orderable = true

def Predicate.PermittedAll (c : Catalog) (t : Table) (depth : Nat) : List Predicate → Prop
  | [] => True
  | p :: ps => p.Permitted c t depth ∧ Predicate.PermittedAll c t depth ps

def Predicate.Permitted (c : Catalog) (t : Table) (depth : Nat) : Predicate → Prop
  | ⟨operator, name, _, _, child⟩ =>
    if operator = .child then
      depth < Query.maxNesting ∧
        ∃ related, c.table? name = some related ∧
          Predicate.ChildPermitted c related (depth + 1) child
    else
      child = none ∧
        ∃ column, t.column? name = some column ∧ operator ∈ column.queryable.members

def Predicate.ChildPermitted (c : Catalog) (t : Table) (depth : Nat) : Option Query → Prop
  | none => False
  | some q => q.predicates ≠ [] ∧ q.Permitted c t depth

end

/-! ## Requirements in order -/

/-- Something a query has to meet, and the error that says it does not. -/
structure Requirement where
  met : Bool
  error : QueryError

def Requirement.violation (r : Requirement) : Option QueryError :=
  if r.met then none else some r.error

def firstViolation (rs : List Requirement) : Option QueryError := rs.findSome? Requirement.violation

/-- What a comparison has to meet. -/
def Predicate.comparisonRequirements (t : Table) (p : Predicate) : List Requirement :=
  [⟨p.child.isNone, .unexpectedChild p.column p.operator⟩,
    ⟨(t.column? p.column).isSome, .unknownColumn t.name p.column⟩,
    ⟨(t.column? p.column).any fun column => column.allows p.operator,
      .operatorNotAllowed t.name p.column p.operator⟩]

/-- What a child predicate has to meet before its child query is looked into. -/
def Predicate.relatedRequirements (c : Catalog) (depth : Nat) (p : Predicate) : List Requirement :=
  [⟨depth < Query.maxNesting, .nestingTooDeep⟩,
    ⟨(c.table? p.column).isSome, .unknownTable p.column⟩,
    ⟨p.child.isSome, .missingChild p.column⟩,
    ⟨p.child.any fun q => !q.isEmpty, .emptyChild p.column⟩]

def SortKey.requirements (t : Table) (key : SortKey) : List Requirement :=
  [⟨(t.column? key.column).isSome, .unknownColumn t.name key.column⟩,
    ⟨(t.column? key.column).any Column.orderable, .notOrderable t.name key.column⟩]

mutual

/-- Everything a query has to meet, depth first: its predicates, each with what is below it, and
then its orderings. -/
def Query.requirements (c : Catalog) (t : Table) (depth : Nat) : Query → List Requirement
  | ⟨predicates, orders⟩ =>
    Predicate.requirementsAll c t depth predicates ++ orders.flatMap (SortKey.requirements t)

def Predicate.requirementsAll (c : Catalog) (t : Table) (depth : Nat) :
    List Predicate → List Requirement
  | [] => []
  | p :: ps => p.requirements c t depth ++ Predicate.requirementsAll c t depth ps

def Predicate.requirements (c : Catalog) (t : Table) (depth : Nat) :
    Predicate → List Requirement
  | ⟨operator, name, value, connective, child⟩ =>
    if operator = .child then
      Predicate.relatedRequirements c depth ⟨operator, name, value, connective, child⟩ ++
        Predicate.childRequirements c (c.table? name) (depth + 1) child
    else Predicate.comparisonRequirements t ⟨operator, name, value, connective, child⟩

/-- Without a table there is nothing to hold the child query against; that the table is missing
was a requirement already. -/
def Predicate.childRequirements (c : Catalog) (t? : Option Table) (depth : Nat) :
    Option Query → List Requirement
  | none => []
  | some q =>
    match t? with
    | none => []
    | some t => q.requirements c t depth

end

/-- Everything a query on the table of the given name has to meet. -/
def Query.requirementsOn (c : Catalog) (table : String) (q : Query) : List Requirement :=
  ⟨(c.table? table).isSome, .unknownTable table⟩ ::
    Predicate.childRequirements c (c.table? table) 0 (some q)

/-! ## Meeting all requirements -/

@[simp] theorem firstViolation_nil : firstViolation [] = none := rfl

@[simp] theorem firstViolation_cons (met : Bool) (error : QueryError) (rs : List Requirement) :
    firstViolation (⟨met, error⟩ :: rs) = if met then firstViolation rs else some error := by
  cases met <;> rfl

theorem firstViolation_append (rs rs' : List Requirement) :
    firstViolation (rs ++ rs') = (firstViolation rs).or (firstViolation rs') :=
  List.findSome?_append

theorem Requirement.violation_eq_none {r : Requirement} : r.violation = none ↔ r.met = true := by
  unfold violation
  split <;> simp_all

theorem Requirement.violation_eq_some {r : Requirement} {error : QueryError} :
    r.violation = some error ↔ r.met = false ∧ r.error = error := by
  unfold violation
  split <;> simp_all

theorem firstViolation_eq_none {rs : List Requirement} :
    firstViolation rs = none ↔ ∀ r ∈ rs, r.met = true := by
  simp only [firstViolation, List.findSome?_eq_none_iff, Requirement.violation_eq_none]

theorem firstViolation_eq_some {rs : List Requirement} {error : QueryError} :
    firstViolation rs = some error ↔
      ∃ before r after, rs = before ++ r :: after ∧ (r.met = false ∧ r.error = error) ∧
        ∀ x ∈ before, x.met = true := by
  simp only [firstViolation, List.findSome?_eq_some_iff, Requirement.violation_eq_none,
    Requirement.violation_eq_some]

theorem SortKey.met_requirements {t : Table} {key : SortKey} :
    (∀ r ∈ key.requirements t, r.met = true) ↔
      ∃ column, t.column? key.column = some column ∧ column.orderable = true := by
  cases h : t.column? key.column with
  | none => simp [requirements, h]
  | some column => simp [requirements, h]

theorem Predicate.met_comparisonRequirements {t : Table} {p : Predicate} :
    (∀ r ∈ p.comparisonRequirements t, r.met = true) ↔
      p.child = none ∧
        ∃ column, t.column? p.column = some column ∧ p.operator ∈ column.queryable.members := by
  cases h : t.column? p.column with
  | none => simp [comparisonRequirements, h]
  | some column =>
    simp [comparisonRequirements, h, Column.allows, OperatorSet.contains]

mutual

theorem Query.met_requirements (c : Catalog) (t : Table) (depth : Nat) (q : Query) :
    (∀ r ∈ q.requirements c t depth, r.met = true) ↔ q.Permitted c t depth := by
  cases q with
  | mk predicates orders =>
    simp only [Query.requirements, Query.Permitted, List.forall_mem_append,
      List.forall_mem_flatMap, SortKey.met_requirements]
    rw [Predicate.met_requirementsAll c t depth predicates]

theorem Predicate.met_requirementsAll (c : Catalog) (t : Table) (depth : Nat)
    (ps : List Predicate) :
    (∀ r ∈ Predicate.requirementsAll c t depth ps, r.met = true) ↔
      Predicate.PermittedAll c t depth ps := by
  cases ps with
  | nil => simp [Predicate.requirementsAll, Predicate.PermittedAll]
  | cons p ps =>
    simp only [Predicate.requirementsAll, Predicate.PermittedAll, List.forall_mem_append]
    rw [Predicate.met_requirements c t depth p, Predicate.met_requirementsAll c t depth ps]

theorem Predicate.met_requirements (c : Catalog) (t : Table) (depth : Nat) (p : Predicate) :
    (∀ r ∈ p.requirements c t depth, r.met = true) ↔ p.Permitted c t depth := by
  cases p with
  | mk operator name value connective child =>
    by_cases hrelated : operator = .child
    · simp only [Predicate.requirements, Predicate.Permitted, if_pos hrelated,
        List.forall_mem_append]
      cases htable : c.table? name with
      | none => simp [Predicate.relatedRequirements, htable]
      | some related =>
        have hchild := Predicate.met_childRequirements c related (depth + 1) child
        simp only [Option.some.injEq, exists_eq_left', ← hchild]
        cases child <;> simp [Predicate.relatedRequirements, htable, and_assoc]
    · simp only [Predicate.requirements, Predicate.Permitted, if_neg hrelated]
      exact Predicate.met_comparisonRequirements

theorem Predicate.met_childRequirements (c : Catalog) (t : Table) (depth : Nat)
    (child : Option Query) :
    (child.any fun q => !q.isEmpty) = true ∧
        (∀ r ∈ Predicate.childRequirements c (some t) depth child, r.met = true) ↔
      Predicate.ChildPermitted c t depth child := by
  cases child with
  | none => simp [Predicate.ChildPermitted]
  | some q =>
    simp only [Predicate.childRequirements, Predicate.ChildPermitted]
    rw [Query.met_requirements c t depth q]
    simp [Query.isEmpty]

end

/-! ## Checking -/

namespace Table

theorem refusal?_checkComparison (t : Table) (p : Predicate) :
    refusal? (t.checkComparison p) = firstViolation (p.comparisonRequirements t) := by
  unfold checkComparison lookupColumn Predicate.comparisonRequirements
  cases hkid : p.child with
  | some q => simp
  | none =>
    cases hcolumn : t.column? p.column with
    | none => simp
    | some column => cases hallows : column.allows p.operator <;> simp [hallows]

theorem refusal?_checkOrders (t : Table) (keys : List SortKey) :
    refusal? (t.checkOrders keys) = firstViolation (keys.flatMap (SortKey.requirements t)) := by
  induction keys with
  | nil => rfl
  | cons key keys ih =>
    rw [List.flatMap_cons, firstViolation_append, ← ih, checkOrders, lookupColumn,
      SortKey.requirements]
    cases hcolumn : t.column? key.column with
    | none => simp
    | some column => cases horderable : column.orderable <;> simp [horderable]

end Table

/-- One level down, child queries are refused for their first violation; at the greatest depth there
is no level below. -/
def ChecksBelow (c : Catalog) (depth : Nat) :
    Option (Table → Query → Except QueryError Unit) → Prop
  | none => depth = Query.maxNesting
  | some check => depth < Query.maxNesting ∧
      ∀ t q, refusal? (check t q) = firstViolation (q.requirements c t (depth + 1))

namespace Query

variable {c : Catalog} {depth : Nat} {child : Option (Table → Query → Except QueryError Unit)}

theorem refusal?_checkRelated (hchild : ChecksBelow c depth child) (t : Table) {p : Predicate}
    (hp : p.operator = .child) :
    refusal? (checkRelated c child p) = firstViolation (p.requirements c t depth) := by
  obtain ⟨operator, name, value, connective, kid⟩ := p
  obtain rfl : operator = .child := hp
  rw [Predicate.requirements, if_pos rfl]
  cases child with
  | none =>
    obtain rfl : depth = maxNesting := hchild
    simp [checkRelated, Predicate.relatedRequirements]
  | some check =>
    obtain ⟨hdepth, hcheck⟩ := hchild
    unfold checkRelated Catalog.lookup Predicate.relatedRequirements
    cases htable : c.table? name with
    | none => simp [hdepth]
    | some related =>
      cases kid with
      | none => simp [hdepth]
      | some q =>
        cases hempty : q.isEmpty <;>
          simp [hdepth, hempty, hcheck, Predicate.childRequirements]

theorem refusal?_checkPredicates (hchild : ChecksBelow c depth child) (t : Table)
    (ps : List Predicate) :
    refusal? (checkPredicates c child t ps) =
      firstViolation (Predicate.requirementsAll c t depth ps) := by
  induction ps with
  | nil => rfl
  | cons p ps ih =>
    rw [Predicate.requirementsAll, firstViolation_append, checkPredicates]
    split
    · rename_i hp
      rw [← refusal?_checkRelated hchild t hp]
      exact refusal?_bind fun _ => ih
    · rename_i hp
      have hown : p.requirements c t depth = p.comparisonRequirements t := by
        cases p
        exact if_neg hp
      rw [hown, ← t.refusal?_checkComparison]
      exact refusal?_bind fun _ => ih

theorem refusal?_checkLevel (hchild : ChecksBelow c depth child) (t : Table) (q : Query) :
    refusal? (checkLevel c child t q) = firstViolation (q.requirements c t depth) := by
  obtain ⟨predicates, orders⟩ := q
  rw [requirements, firstViolation_append, ← refusal?_checkPredicates hchild,
    ← t.refusal?_checkOrders]
  exact refusal?_bind fun _ => rfl

/-- The levels that are left and the depth that was reached add up to the greatest nesting. -/
theorem refusal?_checkLevels {levels : Nat} (h : depth + levels = maxNesting) (t : Table)
    (q : Query) :
    refusal? (checkLevels c levels t q) = firstViolation (q.requirements c t depth) := by
  induction levels generalizing depth t q with
  | zero =>
    have hbelow : ChecksBelow c depth none := h
    exact refusal?_checkLevel hbelow t q
  | succ levels ih =>
    have hbelow : ChecksBelow c depth (some (checkLevels c levels)) :=
      ⟨by omega, fun t q => ih (by omega) t q⟩
    exact refusal?_checkLevel hbelow t q

theorem refusal?_check (c : Catalog) (table : String) (q : Query) :
    refusal? (check c table q) = firstViolation (q.requirementsOn c table) := by
  unfold check Catalog.lookup requirementsOn
  cases htable : c.table? table with
  | none => simp
  | some t => simp [refusal?_checkLevels (Nat.zero_add maxNesting), Predicate.childRequirements]

theorem check_eq_ok_iff {c : Catalog} {table : String} {q : Query} :
    check c table q = .ok () ↔ ∀ r ∈ q.requirementsOn c table, r.met = true := by
  rw [← firstViolation_eq_none, ← refusal?_check, refusal?_eq_none]
  exact ⟨fun h => ⟨(), h⟩, fun ⟨_, h⟩ => h⟩

theorem met_requirementsOn {c : Catalog} {table : String} {q : Query} :
    (∀ r ∈ q.requirementsOn c table, r.met = true) ↔
      ∃ t, c.table? table = some t ∧ q.Permitted c t 0 := by
  unfold requirementsOn
  cases htable : c.table? table with
  | none => simp
  | some t => simp [Predicate.childRequirements, met_requirements]

/-- A query passes exactly when its table is there and permits it. Otherwise the error is that of
the first requirement that is not met. -/
theorem check_iff_permitted (c : Catalog) (table : String) (q : Query) :
    (check c table q = .ok () ↔ ∃ t, c.table? table = some t ∧ q.Permitted c t 0) ∧
      ∀ error, check c table q = .error error ↔
        ∃ before r after, q.requirementsOn c table = before ++ r :: after ∧
          (r.met = false ∧ r.error = error) ∧ ∀ x ∈ before, x.met = true := by
  constructor
  · exact check_eq_ok_iff.trans met_requirementsOn
  · intro error
    rw [← firstViolation_eq_some, ← refusal?_check, refusal?_eq_some]

-- A violation in a child query comes before one in the orderings of the query around it.
example :
    let users : Table := ⟨"users", "users", Dict.ofList [("id", .primaryKey)], .empty⟩
    let c : Catalog := ⟨Dict.ofList [("users", users)]⟩
    let inner : Query := ⟨[.compare .eq "id" .null, .compare .eq "name" .null], []⟩
    let q : Query := ⟨[.related "users" inner], [⟨"id", true⟩]⟩
    check c "users" q = .error (.unknownColumn "users" "name") := rfl

end Query

end SqlCatalog
