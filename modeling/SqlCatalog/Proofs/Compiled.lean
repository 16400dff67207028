-- SUMMARY: What a query compiles to: its bindings, its skeleton, and the text of the skeleton.
import SqlCatalog.Proofs.Lexer
import SqlCatalog.Query.Select

/-!
# Compiled queries

A query compiles exactly when its predicates are well shaped and its membership
tests list scalars. The result is then known without compiling: the values are
those of its bindings, depth first and from left to right, and the text is a
function of the start position and of the query's skeleton, which is what
remains of a query when the values, the names of child tables and the orderings
are taken away.
-/

namespace SqlCatalog

theorem bind_eq_ok {ε α β : Type} {x : Except ε α} {f : α → Except ε β} {b : β} :
    (x >>= f) = .ok b ↔ ∃ a, x = .ok a ∧ f a = .ok b := by
  cases x with
  | error e => simp [bind, Except.bind]
  | ok a => simp [bind, Except.bind]

theorem bind_unit_eq_ok {ε β : Type} {x : Except ε Unit} {f : Unit → Except ε β} {b : β} :
    (x >>= f) = .ok b ↔ x = .ok () ∧ f () = .ok b :=
  bind_eq_ok.trans ⟨fun ⟨_, h⟩ => h, fun h => ⟨(), h⟩⟩

theorem bind_eq_error {ε α β : Type} {x : Except ε α} {f : α → Except ε β} {e : ε} :
    (x >>= f) = .error e ↔ x = .error e ∨ ∃ a, x = .ok a ∧ f a = .error e := by
  cases x with
  | error e' => simp [bind, Except.bind]
  | ok a => simp [bind, Except.bind]

theorem exists_of_isOk {ε α : Type} {x : Except ε α} (h : x.isOk = true) : ∃ a, x = .ok a := by
  cases x with
  | error _ => cases h
  | ok a => exact ⟨a, rfl⟩

theorem exists_error_of_not_ok {ε α : Type} {x : Except ε α} (h : ∀ a, x ≠ .ok a) :
    ∃ e, x = .error e := by
  cases x with
  | error e => exact ⟨e, rfl⟩
  | ok a => exact absurd rfl (h a)

/-- A computation that fails does so with an error of which `P` holds. -/
def FailsOnly {ε α : Type} (P : ε → Prop) (x : Except ε α) : Prop :=
  ∀ error, x = .error error → P error

namespace FailsOnly

variable {ε α β : Type} {P : ε → Prop}

theorem ok (a : α) : FailsOnly P (.ok a) := by
  intro error h
  cases h

theorem error {e : ε} (h : P e) : FailsOnly P (.error e : Except ε α) := by
  rintro error ⟨⟩
  exact h

theorem bind {x : Except ε α} {f : α → Except ε β} (hx : FailsOnly P x)
    (hf : ∀ a, FailsOnly P (f a)) : FailsOnly P (x >>= f) := by
  cases x with
  | error e => exact error (hx e rfl)
  | ok a => exact hf a

end FailsOnly

/-- The error of a computation that fails. -/
def refusal? {ε α : Type} : Except ε α → Option ε
  | .error e => some e
  | .ok _ => none

@[simp] theorem refusal?_ok {ε α : Type} (a : α) : refusal? (.ok a : Except ε α) = none := rfl

@[simp] theorem refusal?_pure {ε α : Type} (a : α) : refusal? (pure a : Except ε α) = none := rfl

@[simp] theorem refusal?_error {ε α : Type} (e : ε) :
    refusal? (.error e : Except ε α) = some e := rfl

@[simp] theorem refusal?_throw {ε α : Type} (e : ε) :
    refusal? (throw e : Except ε α) = some e := rfl

@[simp] theorem refusal?_ok_bind {ε α β : Type} (a : α) (f : α → Except ε β) :
    refusal? (.ok a >>= f) = refusal? (f a) := rfl

@[simp] theorem refusal?_error_bind {ε α β : Type} (e : ε) (f : α → Except ε β) :
    refusal? (.error e >>= f) = some e := rfl

theorem refusal?_eq_some {ε α : Type} {x : Except ε α} {e : ε} :
    refusal? x = some e ↔ x = .error e := by
  cases x with
  | error e' => simp [refusal?]
  | ok a => simp [refusal?]

theorem refusal?_eq_none {ε α : Type} {x : Except ε α} :
    refusal? x = none ↔ ∃ a, x = .ok a := by
  cases x with
  | error e => simp [refusal?]
  | ok a => simp [refusal?]

/-- Where a second step refuses the same whatever the first one gave, the first refusal is known
without the results. -/
theorem refusal?_bind {ε α β : Type} {x : Except ε α} {f : α → Except ε β} {second : Option ε}
    (h : ∀ a, refusal? (f a) = second) : refusal? (x >>= f) = (refusal? x).or second := by
  cases x with
  | error e => rfl
  | ok a => exact h a

theorem refusal?_bind_pure {ε α β : Type} (x : Except ε α) (f : α → β) :
    refusal? (x >>= fun a => pure (f a)) = refusal? x := by
  cases x with
  | error e => rfl
  | ok a => rfl

/-- A first result and the one that follows from it, each under its own conditions. -/
theorem exists_first_rest {α β γ : Type} {A B C D : Prop} {x : α} {y : α → β} {f : α → β → γ}
    {c : γ} :
    (∃ first, ((A ∧ B) ∧ first = x) ∧ ∃ rest, ((C ∧ D) ∧ rest = y first) ∧ f first rest = c) ↔
      ((A ∧ C) ∧ B ∧ D) ∧ c = f x (y x) := by
  constructor
  · rintro ⟨first, ⟨⟨ha, hb⟩, rfl⟩, rest, ⟨⟨hc, hd⟩, rfl⟩, rfl⟩
    exact ⟨⟨⟨ha, hc⟩, hb, hd⟩, rfl⟩
  · rintro ⟨⟨⟨ha, hc⟩, hb, hd⟩, rfl⟩
    exact ⟨_, ⟨⟨ha, hb⟩, rfl⟩, _, ⟨⟨hc, hd⟩, rfl⟩, rfl⟩

/-! ## Bindings -/

/-- A bound value with the column it is compared with. -/
structure Binding where
  column : String
  value : Json.Value

/-- The items of an array; other values have none. -/
def Json.Value.items : Json.Value → List Json.Value
  | .array items => items
  | _ => []

mutual

/-- The bindings of a query, depth first and from left to right. -/
def Query.bindings : Query → List Binding
  | ⟨predicates, _⟩ => Predicate.bindingsAll predicates

def Predicate.bindingsAll : List Predicate → List Binding
  | [] => []
  | p :: ps => p.bindings ++ Predicate.bindingsAll ps

def Predicate.bindings : Predicate → List Binding
  | ⟨operator, column, value, _, child⟩ =>
    match operator with
    | .child => Predicate.childBindings child
    | .isIn | .notIn => value.items.map (Binding.mk column)
    | _ => [⟨column, value⟩]

def Predicate.childBindings : Option Query → List Binding
  | none => []
  | some q => q.bindings

end

/-! ## Skeletons -/

/-- What is left of a predicate without its values. The connective is dropped for the first
predicate of a level. -/
inductive Skeleton where
  | comparison (lead : Option Connective) (operator : Operator) (column : String)
  | membership (lead : Option Connective) (operator : Operator) (column : String) (count : Nat)
  | group (lead : Option Connective) (parts : List Skeleton)

mutual

def Query.skeleton : Query → List Skeleton
  | ⟨[], _⟩ => []
  | ⟨p :: ps, _⟩ => p.skeleton none :: Predicate.skeletonRest ps

def Predicate.skeletonRest : List Predicate → List Skeleton
  | [] => []
  | p :: ps => p.skeleton (some p.connective) :: Predicate.skeletonRest ps

def Predicate.skeleton (lead : Option Connective) : Predicate → Skeleton
  | ⟨operator, column, value, _, child⟩ =>
    match operator with
    | .child => .group lead (Predicate.childSkeleton child)
    | .isIn | .notIn => .membership lead operator column value.items.length
    | _ => .comparison lead operator column

def Predicate.childSkeleton : Option Query → List Skeleton
  | none => []
  | some q => q.skeleton

end

namespace Skeleton

mutual

/-- The column of each placeholder, in order. -/
def columns : Skeleton → List String
  | .comparison _ _ column => [column]
  | .membership _ _ column count => List.replicate count column
  | .group _ parts => columnsAll parts

def columnsAll : List Skeleton → List String
  | [] => []
  | s :: rest => s.columns ++ columnsAll rest

end

/-! ## Texts of skeletons -/

open Sql (identifier)
open Sql.Placeholder (token tokens advance likeOperand)

def leadText : Option Connective → String
  | none => ""
  | some c => " " ++ c.symbol ++ " "

/-- What a comparison compares with. -/
def operand (operator : Operator) (position : Nat) : String :=
  if operator = .like then likeOperand (token position) else token position

mutual

def text (position : Nat) : Skeleton → String
  | .comparison lead operator column =>
    leadText lead ++
      (identifier column ++ " " ++ operator.symbol ++ " " ++ operand operator position)
  | .membership lead operator column count =>
    leadText lead ++
      (identifier column ++ " " ++ operator.symbol ++ " (" ++
        ",".intercalate (tokens position count) ++ ")")
  | .group lead parts => leadText lead ++ ("(" ++ textAll position parts ++ ")")

def textAll (position : Nat) : List Skeleton → String
  | [] => ""
  | s :: rest => s.text position ++ textAll (advance position s.columns.length) rest

end

/-- A whole level: its parts in parentheses, or nothing without parts. -/
def levelText (position : Nat) : List Skeleton → String
  | [] => ""
  | s :: rest => "(" ++ textAll position (s :: rest) ++ ")"

end Skeleton

/-! ## The result of compiling -/

def Predicate.compiled (p : Predicate) (position : Nat) : Compiled where
  sql := (p.skeleton none).text position
  args := p.bindings.map Binding.value
  next := Sql.Placeholder.advance position p.bindings.length

def Query.compiled (q : Query) (position : Nat) : Compiled where
  sql := Skeleton.levelText position q.skeleton
  args := q.bindings.map Binding.value
  next := Sql.Placeholder.advance position q.bindings.length

/-! ## What compiles -/

/-- A child predicate has a child query with predicates, on which `Inner` holds; no other
predicate has one. -/
def Predicate.Shaped (Inner : Query → Prop) (p : Predicate) : Prop :=
  if p.operator = .child then ∃ q ∈ p.child, q.predicates ≠ [] ∧ Inner q
  else p.child = none

/-- Every predicate is well shaped, and child queries nest at most `levels` deep. -/
def Query.Shaped : Nat → Query → Prop
  | 0, q => ∀ p ∈ q.predicates, p.Shaped fun _ => False
  | levels + 1, q => ∀ p ∈ q.predicates, p.Shaped (Query.Shaped levels)

/-- An array of scalars that is not empty. -/
def Json.Value.IsScalarList (v : Json.Value) : Prop :=
  ∃ items, v = .array items ∧ items ≠ [] ∧ ∀ item ∈ items, item.isScalar

mutual

/-- Every membership test, at any depth, has a list of scalars. -/
def Query.Listed : Query → Prop
  | ⟨predicates, _⟩ => Predicate.ListedAll predicates

def Predicate.ListedAll : List Predicate → Prop
  | [] => True
  | p :: ps => p.Listed ∧ Predicate.ListedAll ps

def Predicate.Listed : Predicate → Prop
  | ⟨operator, _, value, _, child⟩ =>
    (operator = .isIn ∨ operator = .notIn → value.IsScalarList) ∧ Predicate.ChildListed child

def Predicate.ChildListed : Option Query → Prop
  | none => True
  | some q => q.Listed

end

/-! ### Deciding what compiles -/

instance Predicate.decidableShaped (Inner : Query → Prop) [DecidablePred Inner] (p : Predicate) :
    Decidable (p.Shaped Inner) :=
  inferInstanceAs (Decidable (if p.operator = .child then _ else _))

instance Query.decidableShaped : (levels : Nat) → DecidablePred (Query.Shaped levels)
  | 0 => fun q => inferInstanceAs (Decidable (∀ p ∈ q.predicates, p.Shaped fun _ => False))
  | levels + 1 => fun q =>
    have := Query.decidableShaped levels
    inferInstanceAs (Decidable (∀ p ∈ q.predicates, p.Shaped (Query.Shaped levels)))

instance Json.Value.decidableIsScalarList : DecidablePred Json.Value.IsScalarList
  | .array items =>
    decidable_of_iff (items ≠ [] ∧ ∀ item ∈ items, item.isScalar) (by simp [IsScalarList])
  | .null | .bool _ | .number _ | .string _ | .object _ => isFalse (by simp [IsScalarList])

mutual

def Query.decidableListed : (q : Query) → Decidable q.Listed
  | ⟨predicates, _⟩ => Predicate.decidableListedAll predicates

def Predicate.decidableListedAll : (ps : List Predicate) → Decidable (Predicate.ListedAll ps)
  | [] => isTrue trivial
  | p :: ps =>
    have := p.decidableListed
    have := Predicate.decidableListedAll ps
    inferInstanceAs (Decidable (p.Listed ∧ Predicate.ListedAll ps))

def Predicate.decidableListed : (p : Predicate) → Decidable p.Listed
  | ⟨operator, _, value, _, child⟩ =>
    have := Predicate.decidableChildListed child
    inferInstanceAs (Decidable
      ((operator = .isIn ∨ operator = .notIn → value.IsScalarList) ∧ Predicate.ChildListed child))

def Predicate.decidableChildListed :
    (child : Option Query) → Decidable (Predicate.ChildListed child)
  | none => isTrue trivial
  | some q => q.decidableListed

end

instance : DecidablePred Query.Listed := Query.decidableListed

namespace Predicate

theorem members_eq_ok {p : Predicate} {items : List Json.Value} :
    p.members = .ok items ↔
      p.value = .array items ∧ items ≠ [] ∧ ∀ item ∈ items, item.isScalar := by
  unfold members
  cases hvalue : p.value with
  | array values =>
    cases values with
    | nil => simp; rintro rfl; simp
    | cons v values =>
      cases hbad : (v :: values).find? (fun v => !v.isScalar) with
      | some bad =>
        have hmem := List.mem_of_find?_eq_some hbad
        have hscalar := List.find?_some hbad
        simp only [List.isEmpty_cons, Bool.false_eq_true, if_false, hbad, reduceCtorEq, false_iff]
        rintro ⟨heq, -, hall⟩
        cases heq
        simp [hall bad hmem] at hscalar
      | none =>
        simp only [List.isEmpty_cons, Bool.false_eq_true, if_false, hbad, Except.ok.injEq,
          Json.Value.array.injEq]
        constructor
        · rintro rfl
          exact ⟨rfl, by simp, by simpa using hbad⟩
        · exact fun h => h.1
  | null => simp
  | bool b => simp
  | number n => simp
  | string t => simp
  | object ms => simp

variable {child : Nat → Query → Except QueryError Compiled} {Inner : Query → Prop}

theorem compile_comparison {p : Predicate} (hchild : p.operator ≠ .child)
    (hin : p.operator ≠ .isIn) (hnot : p.operator ≠ .notIn) (hkid : p.child = none)
    (position : Nat) : p.compile child position = .ok (p.compiled position) := by
  obtain ⟨operator, column, value, connective, kid⟩ := p
  subst hkid
  cases operator with
  | child => exact absurd rfl hchild
  | isIn => exact absurd rfl hin
  | notIn => exact absurd rfl hnot
  | like =>
    simp [compile, compiled, skeleton, bindings, Skeleton.text, Skeleton.leadText,
      Skeleton.operand, Sql.Placeholder.advance]
    rw [String.append_assoc, String.append_assoc]
    rfl
  | eq | ne | gt | lt | ge | le =>
    simp [compile, compiled, skeleton, bindings, Skeleton.text, Skeleton.leadText,
      Skeleton.operand, Sql.Placeholder.advance]

theorem compile_membership {p : Predicate} (hop : p.operator = .isIn ∨ p.operator = .notIn)
    (hkid : p.child = none) {items : List Json.Value} (hitems : p.members = .ok items)
    (position : Nat) : p.compile child position = .ok (p.compiled position) := by
  have hvalue := (members_eq_ok.1 hitems).1
  obtain ⟨operator, column, value, connective, kid⟩ := p
  subst hkid
  subst hvalue
  rcases hop with rfl | rfl
  all_goals
    simp [compile, hitems, bind, Except.bind, pure, Except.pure, compiled, skeleton, bindings,
      Skeleton.text, Skeleton.leadText, Json.Value.items]
    exact (List.map_id items).symm

/-- A child query with predicates is compiled in place of its predicate. -/
theorem compile_related {q : Query} (h : q.predicates ≠ []) (column : String)
    (value : Json.Value) (connective : Connective) (position : Nat) :
    compile child position ⟨.child, column, value, connective, some q⟩ = child position q := by
  have hnot : q.isEmpty = false := by simpa [Query.isEmpty] using h
  simp [compile, hnot]

/-- A child predicate contributes what its child query does. -/
theorem compiled_related {q : Query} (h : q.predicates ≠ []) (column : String)
    (value : Json.Value) (connective : Connective) (position : Nat) :
    compiled ⟨.child, column, value, connective, some q⟩ position = q.compiled position := by
  obtain ⟨predicates, orders⟩ := q
  cases predicates with
  | nil => exact absurd rfl h
  | cons first rest =>
    simp [compiled, Query.compiled, skeleton, childSkeleton, bindings, childBindings,
      Query.skeleton, Skeleton.text, Skeleton.leadText, Skeleton.levelText]

/-- What compiling one predicate gives, when child queries compile as described. -/
theorem compile_eq_ok
    (hchild : ∀ position q c,
      child position q = .ok c ↔ (Inner q ∧ q.Listed) ∧ c = q.compiled position)
    (p : Predicate) (position : Nat) (c : Compiled) :
    p.compile child position = .ok c ↔
      (p.Shaped Inner ∧ p.Listed) ∧ c = p.compiled position := by
  obtain ⟨operator, column, value, connective, kid⟩ := p
  cases kid with
  | none =>
    by_cases hrelated : operator = .child
    · subst hrelated
      simp [compile, Shaped]
    by_cases hmember : operator = .isIn ∨ operator = .notIn
    · cases hitems : members ⟨operator, column, value, connective, none⟩ with
      | ok items =>
        have hlist : value.IsScalarList := ⟨items, members_eq_ok.1 hitems⟩
        rw [compile_membership hmember rfl hitems, Except.ok.injEq, eq_comm]
        simp [Shaped, Listed, ChildListed, hrelated, hlist]
      | error e =>
        have hlist : ¬ value.IsScalarList := by
          rintro ⟨items, hvalue⟩
          rw [members_eq_ok.2 hvalue] at hitems
          cases hitems
        simp only [Listed, hlist, imp_false, not_true_eq_false, hmember, false_and, and_false,
          iff_false]
        rcases hmember with rfl | rfl <;> simp [compile, hitems, bind, Except.bind]
    · simp only [not_or] at hmember
      rw [compile_comparison hrelated hmember.1 hmember.2 rfl, Except.ok.injEq, eq_comm]
      simp [Shaped, Listed, ChildListed, hrelated, hmember]
  | some q =>
    by_cases hrelated : operator = .child
    · subst hrelated
      by_cases hempty : q.predicates = []
      · simp [compile, Shaped, Query.isEmpty, hempty]
      · have hnot : q.isEmpty = false := by simp [Query.isEmpty, hempty]
        rw [compiled_related hempty]
        simp [compile, Shaped, Listed, ChildListed, hnot, hempty, hchild]
    · have herror : compile child position ⟨operator, column, value, connective, some q⟩ =
          .error (.unexpectedChild column operator) := by
        cases operator <;> first | rfl | exact absurd rfl hrelated
      simp [herror, Shaped, hrelated]

/-- The text that leads a predicate is the only place where its connective shows. -/
theorem text_skeleton (p : Predicate) (lead : Option Connective) (position : Nat) :
    (p.skeleton lead).text position = Skeleton.leadText lead ++ (p.compiled position).sql := by
  obtain ⟨operator, column, value, connective, kid⟩ := p
  cases operator <;> simp [compiled, skeleton, Skeleton.text, Skeleton.leadText]

mutual

theorem columnsAll_query (q : Query) :
    Skeleton.columnsAll q.skeleton = q.bindings.map Binding.column := by
  cases q with
  | mk predicates orders =>
    cases predicates with
    | nil => rfl
    | cons p ps =>
      simp only [Query.skeleton, Skeleton.columnsAll, Query.bindings, bindingsAll, List.map_append]
      rw [columns_skeleton p none, columnsAll_rest ps]

theorem columnsAll_rest (ps : List Predicate) :
    Skeleton.columnsAll (skeletonRest ps) = (bindingsAll ps).map Binding.column := by
  cases ps with
  | nil => rfl
  | cons p ps =>
    simp only [skeletonRest, Skeleton.columnsAll, bindingsAll, List.map_append]
    rw [columns_skeleton p (some p.connective), columnsAll_rest ps]

theorem columns_skeleton (p : Predicate) (lead : Option Connective) :
    (p.skeleton lead).columns = p.bindings.map Binding.column := by
  obtain ⟨operator, column, value, connective, kid⟩ := p
  cases operator with
  | child => simpa only [skeleton, Skeleton.columns, bindings] using columnsAll_child kid
  | isIn | notIn => simp [skeleton, Skeleton.columns, bindings, Function.comp_def, List.map_const']
  | eq | ne | gt | lt | ge | le | like => rfl

theorem columnsAll_child (kid : Option Query) :
    Skeleton.columnsAll (childSkeleton kid) = (childBindings kid).map Binding.column := by
  cases kid with
  | none => rfl
  | some q => simpa only [childSkeleton, childBindings] using columnsAll_query q

end

/-- What the predicates after the first contribute. -/
def restCompiled (ps : List Predicate) (position : Nat) : Compiled where
  sql := Skeleton.textAll position (skeletonRest ps)
  args := (bindingsAll ps).map Binding.value
  next := Sql.Placeholder.advance position (bindingsAll ps).length

/-- One more predicate in front: its text, then the others from where it stopped. -/
theorem textAll_cons (p : Predicate) (lead : Option Connective) (ps : List Predicate)
    (position : Nat) :
    Skeleton.textAll position (p.skeleton lead :: skeletonRest ps) =
      Skeleton.leadText lead ++ (p.compiled position).sql ++
        (restCompiled ps (p.compiled position).next).sql := by
  rw [Skeleton.textAll, text_skeleton, columns_skeleton, List.length_map]
  rfl

theorem restCompiled_cons (p : Predicate) (ps : List Predicate) (position : Nat) :
    restCompiled (p :: ps) position =
      ⟨" " ++ p.connective.symbol ++ " " ++ (p.compiled position).sql ++
          (restCompiled ps (p.compiled position).next).sql,
        (p.compiled position).args ++ (restCompiled ps (p.compiled position).next).args,
        (restCompiled ps (p.compiled position).next).next⟩ := by
  simp only [restCompiled, skeletonRest, textAll_cons, bindingsAll, List.map_append,
    List.length_append, Sql.Placeholder.advance_add]
  rfl

theorem compileRest_eq_ok
    (hchild : ∀ position q c,
      child position q = .ok c ↔ (Inner q ∧ q.Listed) ∧ c = q.compiled position)
    (ps : List Predicate) (position : Nat) (c : Compiled) :
    compileRest child position ps = .ok c ↔
      ((∀ p ∈ ps, p.Shaped Inner) ∧ ListedAll ps) ∧ c = restCompiled ps position := by
  induction ps generalizing position c with
  | nil =>
    rw [compileRest, Except.ok.injEq, eq_comm]
    simp [ListedAll, restCompiled, skeletonRest, bindingsAll, Skeleton.textAll,
      Sql.Placeholder.advance]
  | cons p ps ih =>
    simp only [compileRest, bind_eq_ok, compile_eq_ok hchild, ih, ListedAll, restCompiled_cons,
      List.forall_mem_cons, pure, Except.pure, Except.ok.injEq]
    exact exists_first_rest

end Predicate

namespace Query

variable {child : Nat → Query → Except QueryError Compiled} {Inner : Query → Prop}

theorem compiled_cons (p : Predicate) (ps : List Predicate) (orders : List SortKey)
    (position : Nat) :
    compiled ⟨p :: ps, orders⟩ position =
      ⟨"(" ++ (p.compiled position).sql ++
          (Predicate.restCompiled ps (p.compiled position).next).sql ++ ")",
        (p.compiled position).args ++
          (Predicate.restCompiled ps (p.compiled position).next).args,
        (Predicate.restCompiled ps (p.compiled position).next).next⟩ := by
  simp only [compiled, skeleton, Skeleton.levelText, Predicate.textAll_cons, Skeleton.leadText,
    bindings, Predicate.bindingsAll, List.map_append, List.length_append,
    Sql.Placeholder.advance_add, String.empty_append, String.append_assoc]
  rfl

theorem compileWith_eq_ok
    (hchild : ∀ position q c,
      child position q = .ok c ↔ (Inner q ∧ q.Listed) ∧ c = q.compiled position)
    (position : Nat) (q : Query) (c : Compiled) :
    compileWith child position q = .ok c ↔
      ((∀ p ∈ q.predicates, p.Shaped Inner) ∧ q.Listed) ∧ c = q.compiled position := by
  obtain ⟨predicates, orders⟩ := q
  cases predicates with
  | nil =>
    rw [compileWith, Except.ok.injEq, eq_comm]
    simp [Listed, Predicate.ListedAll, compiled, skeleton, bindings, Predicate.bindingsAll,
      Skeleton.levelText, Sql.Placeholder.advance]
  | cons p ps =>
    simp only [compileWith, bind_eq_ok, Predicate.compile_eq_ok hchild,
      Predicate.compileRest_eq_ok hchild, Listed, Predicate.ListedAll, compiled_cons,
      List.forall_mem_cons, pure, Except.pure, Except.ok.injEq]
    exact exists_first_rest

theorem compileLevels_eq_ok (levels position : Nat) (q : Query) (c : Compiled) :
    compileLevels levels position q = .ok c ↔
      (q.Shaped levels ∧ q.Listed) ∧ c = q.compiled position := by
  induction levels generalizing position q c with
  | zero => exact @compileWith_eq_ok _ (fun _ => False) (by simp) position q c
  | succ levels ih => exact compileWith_eq_ok ih position q c

theorem compileWhere_eq_ok (start : Nat) (q : Query) (c : Compiled) :
    q.compileWhere start = .ok c ↔
      start ≠ 0 ∧ (q.Shaped maxNesting ∧ q.Listed) ∧ c = q.compiled start := by
  unfold compileWhere
  by_cases hstart : start = 0
  · simp [hstart]
  · rw [if_neg hstart, compileLevels_eq_ok]
    simp [hstart]

end Query

end SqlCatalog
