-- SUMMARY: A permitted query compiles exactly when its membership tests list scalars.
import SqlCatalog.Proofs.Compiled
import SqlCatalog.Query.Permission

/-!
# Permitted queries

Checking a query against a catalog looks at its child queries as compiling does:
they are where the operator says, are not empty, and do not nest too deep. The
values of membership tests are looked at by compiling only, so a permitted query
may still fail to compile for one of them, and for nothing else.
-/

namespace SqlCatalog

theorem Table.child_of_checkComparison {t : Table} {p : Predicate}
    (h : t.checkComparison p = .ok ()) : p.child = none := by
  unfold checkComparison at h
  split at h
  · cases h
  · rename_i hchild
    simpa using hchild

namespace Query

variable {c : Catalog} {child : Option (Table → Query → Except QueryError Unit)}
  {Inner : Query → Prop}

theorem checkRelated_eq_ok {p : Predicate} (h : checkRelated c child p = .ok ()) :
    ∃ check ∈ child, ∃ t, c.lookup p.column = .ok t ∧
      ∃ q ∈ p.child, q.predicates ≠ [] ∧ check t q = .ok () := by
  unfold checkRelated at h
  cases child with
  | none => cases h
  | some check =>
    obtain ⟨t, hlookup, hrest⟩ := bind_eq_ok.1 h
    cases hkid : p.child with
    | none =>
      rw [hkid] at hrest
      cases hrest
    | some q =>
      simp only [hkid] at hrest
      split at hrest
      · cases hrest
      · rename_i hempty
        exact ⟨check, rfl, t, hlookup, q, rfl, by simpa [isEmpty] using hempty, hrest⟩

theorem checkPredicates_eq_ok {t : Table} {ps : List Predicate} :
    checkPredicates c child t ps = .ok () ↔ ∀ p ∈ ps,
      (if p.operator = .child then checkRelated c child p else t.checkComparison p) = .ok () := by
  induction ps with
  | nil => simp [checkPredicates]
  | cons p ps ih =>
    rw [List.forall_mem_cons, ← ih, checkPredicates]
    split <;> exact bind_unit_eq_ok

/-- The predicates of a permitted level are well shaped if its child queries are. -/
theorem shaped_of_checkPredicates
    (hchild : ∀ check ∈ child, ∀ t q, check t q = .ok () → Inner q)
    {t : Table} {ps : List Predicate} (h : checkPredicates c child t ps = .ok ()) :
    ∀ p ∈ ps, p.Shaped Inner := by
  intro p hmem
  have hp := checkPredicates_eq_ok.1 h p hmem
  unfold Predicate.Shaped
  split
  · rename_i hop
    rw [if_pos hop] at hp
    obtain ⟨check, hcheck, t, -, q, hq, hne, hok⟩ := checkRelated_eq_ok hp
    exact ⟨q, hq, hne, hchild check hcheck t q hok⟩
  · rename_i hop
    rw [if_neg hop] at hp
    exact Table.child_of_checkComparison hp

theorem shaped_of_checkLevels {levels : Nat} {t : Table} {q : Query}
    (h : checkLevels c levels t q = .ok ()) : q.Shaped levels := by
  induction levels generalizing t q with
  | zero =>
    obtain ⟨hpredicates, -⟩ := bind_unit_eq_ok.1 h
    exact shaped_of_checkPredicates (by simp) hpredicates
  | succ levels ih =>
    obtain ⟨hpredicates, -⟩ := bind_unit_eq_ok.1 h
    refine shaped_of_checkPredicates ?_ hpredicates
    rintro check ⟨⟩ t q hok
    exact ih hok

/-- A permitted query compiles if and only if its membership tests, at any depth, are lists of
scalars. -/
theorem compiles_iff_listed_of_check {c : Catalog} {table : String} {q : Query} {start : Nat}
    (hstart : 1 ≤ start) (h : check c table q = .ok ()) :
    (∃ compiled, q.compileWhere start = .ok compiled) ↔ q.Listed := by
  obtain ⟨t, -, hlevels⟩ := bind_eq_ok.1 h
  have hshaped : q.Shaped maxNesting := shaped_of_checkLevels hlevels
  simp only [compileWhere_eq_ok]
  constructor
  · rintro ⟨compiled, -, ⟨-, hlisted⟩, -⟩
    exact hlisted
  · intro hlisted
    exact ⟨q.compiled start, by omega, ⟨hshaped, hlisted⟩, rfl⟩

/-- A list of values that compiles, one level down. -/
theorem compiles_iff_listed_of_check_users :
    let users : Table := ⟨"users", "users", Dict.ofList [("id", .primaryKey)], .empty⟩
    let c : Catalog := ⟨Dict.ofList [("users", users)]⟩
    let inner : Query := ⟨[⟨.isIn, "id", .array [.string "a", .null], .and, none⟩], []⟩
    let q : Query := ⟨[⟨.child, "users", .null, .and, some inner⟩], []⟩
    check c "users" q = .ok () ∧ ∃ compiled, q.compileWhere 1 = .ok compiled := by
  intro users c inner q
  have hcheck : check c "users" q = .ok () := rfl
  exact ⟨hcheck, (compiles_iff_listed_of_check (Nat.le_refl 1) hcheck).2 (by decide)⟩

/-- A membership test on a number is permitted and does not compile. -/
theorem permitted_not_compiling :
    let users : Table := ⟨"users", "users", Dict.ofList [("id", .primaryKey)], .empty⟩
    let c : Catalog := ⟨Dict.ofList [("users", users)]⟩
    let q : Query := ⟨[⟨.isIn, "id", .number (.int 1 (by decide)), .and, none⟩], []⟩
    check c "users" q = .ok () ∧
      q.compileWhere 1 = .error (.invalidInValue "id" .isIn "a number") :=
  ⟨rfl, rfl⟩

end Query

end SqlCatalog
