-- SUMMARY: Compiling goes part by part: predicates side by side, child queries in their places.
import SqlCatalog.Proofs.Compiled

/-!
# Composition

The predicates of a query can be cut in two and the parts compiled as queries of
their own, the second from where the first one stopped. The whole is then both
texts in one pair of parentheses, joined by the connective at the cut. A child
predicate stands for its child query: at whatever depth it is reached, it
contributes what the child query compiles to when nothing is around it.
-/

namespace SqlCatalog

/-- The text between the first and the last character, which are the parentheses around every
compiled query with predicates. -/
def Sql.unwrapped (text : String) : String := String.ofList text.toList.tail.dropLast

@[simp] theorem Sql.unwrapped_empty : unwrapped "" = "" := rfl

@[simp] theorem Sql.unwrapped_parenthesized (text : String) :
    unwrapped ("(" ++ text ++ ")") = text := by
  simp [unwrapped]

/-- What stands between two runs of predicates of one level: the connective of the second run,
and nothing where one of them is empty. -/
def Predicate.seam : List Predicate → List Predicate → String
  | _ :: _, q :: _ => " " ++ q.connective.symbol ++ " "
  | _, _ => ""

theorem Predicate.seam_of_ne_nil {ps qs : List Predicate} (hps : ps ≠ []) (hqs : qs ≠ []) :
    seam ps qs = " " ++ (qs.head hqs).connective.symbol ++ " " := by
  cases ps with
  | nil => exact absurd rfl hps
  | cons p ps =>
    cases qs with
    | nil => exact absurd rfl hqs
    | cons q qs => rfl

/-- Two runs of predicates of one level, put together. -/
def Compiled.join (seam : String) (first second : Compiled) : Compiled where
  sql := "(" ++ (Sql.unwrapped first.sql ++ seam ++ Sql.unwrapped second.sql) ++ ")"
  args := first.args ++ second.args
  next := second.next

/-! ## Side by side -/

namespace Predicate

variable (child : Nat → Query → Except QueryError Compiled)

theorem compileRest_append (ps qs : List Predicate) (position : Nat) :
    compileRest child position (ps ++ qs) = do
      let first ← compileRest child position ps
      let second ← compileRest child first.next qs
      return ⟨first.sql ++ second.sql, first.args ++ second.args, second.next⟩ := by
  induction ps generalizing position with
  | nil =>
    simp only [List.nil_append, compileRest, bind, Except.bind]
    cases compileRest child position qs <;> simp [pure, Except.pure]
  | cons p ps ih =>
    simp only [List.cons_append, compileRest, ih]
    cases p.compile child position with
    | error e => rfl
    | ok c =>
      simp only [bind, Except.bind, pure, Except.pure]
      cases compileRest child c.next ps with
      | error e => rfl
      | ok rest =>
        dsimp only
        cases compileRest child rest.next qs with
        | error e => rfl
        | ok second => simp [String.append_assoc]

theorem Shaped.imp {Inner Outer : Query → Prop} {p : Predicate}
    (hp : p.Shaped Inner) (h : ∀ q, Inner q → Outer q) : p.Shaped Outer := by
  unfold Shaped at hp ⊢
  split
  · rename_i hrelated
    rw [if_pos hrelated] at hp
    obtain ⟨q, hq, hne, hinner⟩ := hp
    exact ⟨q, hq, hne, h q hinner⟩
  · rename_i hrelated
    rwa [if_neg hrelated] at hp

end Predicate

namespace Query

section

variable (child : Nat → Query → Except QueryError Compiled) (position : Nat)

theorem compileWith_nil (orders : List SortKey) :
    compileWith child position ⟨[], orders⟩ = pure ⟨"", [], position⟩ := rfl

/-- A level with predicates: what the first contributes and what the others do. -/
theorem compileWith_cons (p : Predicate) (ps : List Predicate) (orders : List SortKey) :
    compileWith child position ⟨p :: ps, orders⟩ = do
      let first ← p.compile child position
      let rest ← Predicate.compileRest child first.next ps
      return ⟨"(" ++ (first.sql ++ rest.sql) ++ ")", first.args ++ rest.args, rest.next⟩ := by
  simp only [compileWith, String.append_assoc]

/-- A run of predicates after others is a level of its own, with its connective for its
parentheses. -/
theorem compileRest_eq_compileWith (p : Predicate) (ps : List Predicate)
    (orders : List SortKey) :
    Predicate.compileRest child position (p :: ps) = do
      let level ← compileWith child position ⟨p :: ps, orders⟩
      return { level with
        sql := " " ++ p.connective.symbol ++ " " ++ Sql.unwrapped level.sql } := by
  simp only [Predicate.compileRest, compileWith_cons, bind_assoc, pure_bind,
    Sql.unwrapped_parenthesized]
  simp only [String.append_assoc]

/-- A level is compiled in two parts, wherever it is cut. -/
theorem compileWith_append {ps qs : List Predicate} (hne : ps ++ qs ≠ [])
    (orders ordersFirst ordersSecond : List SortKey) :
    compileWith child position ⟨ps ++ qs, orders⟩ = do
      let first ← compileWith child position ⟨ps, ordersFirst⟩
      let second ← compileWith child first.next ⟨qs, ordersSecond⟩
      return first.join (Predicate.seam ps qs) second := by
  cases ps with
  | nil =>
    cases qs with
    | nil => exact absurd rfl hne
    | cons q qs =>
      simp only [List.nil_append, compileWith_nil, compileWith_cons, bind_assoc, pure_bind,
        Compiled.join, Predicate.seam, Sql.unwrapped_empty, Sql.unwrapped_parenthesized,
        String.empty_append]
  | cons p ps =>
    cases qs with
    | nil =>
      simp only [List.append_nil, compileWith_nil, compileWith_cons, bind_assoc, pure_bind,
        Compiled.join, Predicate.seam, Sql.unwrapped_empty, Sql.unwrapped_parenthesized,
        String.append_empty]
    | cons q qs =>
      simp only [List.cons_append, compileWith_cons, Predicate.compileRest_append,
        compileRest_eq_compileWith child _ q qs ordersSecond, bind_assoc, pure_bind,
        Compiled.join, Predicate.seam, Sql.unwrapped_parenthesized]
      simp only [String.append_assoc, List.append_assoc]

end

theorem compileLevels_append (levels position : Nat) {p q r : Query}
    (hr : r.predicates = p.predicates ++ q.predicates) (hne : r.predicates ≠ []) :
    compileLevels levels position r = do
      let first ← compileLevels levels position p
      let second ← compileLevels levels first.next q
      return first.join (Predicate.seam p.predicates q.predicates) second := by
  obtain ⟨ps, ordersFirst⟩ := p
  obtain ⟨qs, ordersSecond⟩ := q
  obtain ⟨rs, orders⟩ := r
  obtain rfl : rs = ps ++ qs := hr
  cases levels with
  | zero => exact compileWith_append _ position hne orders ordersFirst ordersSecond
  | succ levels => exact compileWith_append _ position hne orders ordersFirst ordersSecond

/-- Compiling never ends at position zero. -/
theorem next_ne_zero {start : Nat} {q : Query} {c : Compiled} (h : q.compileWhere start = .ok c) :
    c.next ≠ 0 := by
  obtain ⟨hstart, -, rfl⟩ := (compileWhere_eq_ok start q c).1 h
  have hnext := Sql.Placeholder.one_le_advance (Nat.pos_of_ne_zero hstart) q.bindings.length
  exact Nat.ne_of_gt hnext

/-- The predicates of a query may be compiled as two queries, the second from where the first one
stopped; the first of the two to fail decides the error. -/
theorem compileWhere_append (start : Nat) {p q r : Query}
    (hr : r.predicates = p.predicates ++ q.predicates) (hne : r.predicates ≠ []) :
    r.compileWhere start = do
      let first ← p.compileWhere start
      let second ← q.compileWhere first.next
      return first.join (Predicate.seam p.predicates q.predicates) second := by
  by_cases hstart : start = 0
  · simp only [compileWhere, if_pos hstart]
    rfl
  · have hr' := compileLevels_append maxNesting start hr hne
    have hp : p.compileWhere start = compileLevels maxNesting start p := if_neg hstart
    have hwhole : r.compileWhere start = compileLevels maxNesting start r := if_neg hstart
    rw [hwhole, hr', ← hp]
    cases hfirst : p.compileWhere start with
    | error e => rfl
    | ok first =>
      have hq : q.compileWhere first.next = compileLevels maxNesting first.next q :=
        if_neg (next_ne_zero hfirst)
      simp only [bind, Except.bind, hq]

/-- A compiled query with predicates stands in parentheses. -/
theorem parenthesized_of_compileWhere {start : Nat} {q : Query} {c : Compiled}
    (hne : q.predicates ≠ []) (h : q.compileWhere start = .ok c) :
    c.sql = "(" ++ Sql.unwrapped c.sql ++ ")" := by
  obtain ⟨-, -, rfl⟩ := (compileWhere_eq_ok start q c).1 h
  obtain ⟨predicates, orders⟩ := q
  cases predicates with
  | nil => exact absurd rfl hne
  | cons p ps =>
    have hsql : (compiled ⟨p :: ps, orders⟩ start).sql =
        "(" ++ Skeleton.textAll start (skeleton ⟨p :: ps, orders⟩) ++ ")" := rfl
    rw [hsql, Sql.unwrapped_parenthesized]

/-! ## Child queries -/

/-- What nests at most so deep is well shaped where one level more is allowed. -/
theorem Shaped.succ {levels : Nat} {q : Query} (h : q.Shaped levels) : q.Shaped (levels + 1) := by
  induction levels generalizing q with
  | zero => exact fun p hp => (h p hp).imp fun _ hfalse => hfalse.elim
  | succ levels ih => exact fun p hp => (h p hp).imp fun _ hinner => ih hinner

/-- A child predicate alone is its child query in parentheses, compiled on its own. -/
theorem compileWhere_related {position : Nat} {p : Predicate} {orders : List SortKey}
    {c : Compiled} (hp : p.operator = .child)
    (h : compileWhere position ⟨[p], orders⟩ = .ok c) :
    ∃ child part, p.child = some child ∧ child.compileWhere position = .ok part ∧
      c = ⟨"(" ++ part.sql ++ ")", part.args, part.next⟩ := by
  obtain ⟨hposition, ⟨hshaped, hlisted⟩, rfl⟩ := (compileWhere_eq_ok position _ c).1 h
  have hpredicate : p.Shaped (Shaped (maxNesting - 1)) := hshaped p List.mem_cons_self
  unfold Predicate.Shaped at hpredicate
  rw [if_pos hp] at hpredicate
  obtain ⟨child, hchild, hne, hinner⟩ := hpredicate
  obtain ⟨operator, column, value, connective, kid⟩ := p
  obtain rfl : operator = .child := hp
  obtain rfl : kid = some child := hchild
  have hkid : child.Listed := hlisted.1.2
  refine ⟨child, child.compiled position, rfl, ?_, ?_⟩
  · exact (compileWhere_eq_ok position child _).2 ⟨hposition, ⟨hinner.succ, hkid⟩, rfl⟩
  · rw [compiled_cons, Predicate.compiled_related hne]
    simp [Predicate.restCompiled, Predicate.skeletonRest, Predicate.bindingsAll, Skeleton.textAll,
      Sql.Placeholder.advance]

/-- In `whole`, a level compiled from `position`, the child predicate between `before` and `after`
contributes what its child query compiles to on its own from where `before` stops. -/
def Contributes (position : Nat) (before : List Predicate) (p : Predicate)
    (after : List Predicate) (whole : Compiled) : Prop :=
  ∃ child first part last,
    p.child = some child ∧
    compileWhere position ⟨before, []⟩ = .ok first ∧
    child.compileWhere first.next = .ok part ∧
    compileWhere part.next ⟨after, []⟩ = .ok last ∧
    whole.sql = "(" ++ (Sql.unwrapped first.sql ++ Predicate.seam before (p :: after) ++ part.sql ++
      Predicate.seam [p] after ++ Sql.unwrapped last.sql) ++ ")" ∧
    whole.args = first.args ++ part.args ++ last.args ∧
    whole.next = last.next

theorem contributes_of_compileWhere {position : Nat} {level : Query} {whole : Compiled}
    (h : level.compileWhere position = .ok whole) {before after : List Predicate} {p : Predicate}
    (hsplit : level.predicates = before ++ p :: after) (hp : p.operator = .child) :
    Contributes position before p after whole := by
  -- cut before the predicate, then after it; what is left between is the predicate alone
  have hcut : level.predicates =
      (⟨before, []⟩ : Query).predicates ++ (⟨p :: after, []⟩ : Query).predicates := hsplit
  rw [compileWhere_append position hcut (by simp [hsplit]), bind_eq_ok] at h
  obtain ⟨first, hfirst, h⟩ := h
  obtain ⟨tail, htail, ⟨⟩⟩ := bind_eq_ok.1 h
  have hcut' : (⟨p :: after, []⟩ : Query).predicates =
      (⟨[p], []⟩ : Query).predicates ++ (⟨after, []⟩ : Query).predicates := rfl
  rw [compileWhere_append first.next hcut' (by simp), bind_eq_ok] at htail
  obtain ⟨alone, halone, htail⟩ := htail
  obtain ⟨last, hlast, ⟨⟩⟩ := bind_eq_ok.1 htail
  obtain ⟨child, part, hchild, hpart, rfl⟩ := compileWhere_related hp halone
  refine ⟨child, first, part, last, hchild, hfirst, hpart, hlast, ?_, ?_, rfl⟩
  · simp only [Compiled.join, Sql.unwrapped_parenthesized]
    simp only [String.append_assoc]
  · simp only [Compiled.join, List.append_assoc]

/-- While `q` is compiled from `start`, `level` is compiled from `position`: it is `q`, or the
child query of a predicate of such a level, from where the predicates before it stop. -/
inductive Reaches (start : Nat) (q : Query) : Nat → Query → Prop
  | self : Reaches start q start q
  | related {position : Nat} {level child : Query} {before after : List Predicate} {p : Predicate}
      {first : Compiled} :
    Reaches start q position level → level.predicates = before ++ p :: after →
      p.operator = .child → p.child = some child →
      compileWhere position ⟨before, []⟩ = .ok first → Reaches start q first.next child

theorem Reaches.compileWhere_eq_ok {start position : Nat} {q level : Query} {whole : Compiled}
    (hreach : Reaches start q position level) (h : q.compileWhere start = .ok whole) :
    ∃ compiled, level.compileWhere position = .ok compiled := by
  induction hreach with
  | self => exact ⟨whole, h⟩
  | related _ hsplit hp hchild hfirst ih =>
    obtain ⟨compiled, hlevel⟩ := ih
    obtain ⟨_, _, part, _, hchild', hfirst', hpart, -⟩ :=
      contributes_of_compileWhere hlevel hsplit hp
    cases hchild.symm.trans hchild'
    cases hfirst.symm.trans hfirst'
    exact ⟨part, hpart⟩

/-! ## Both together -/

/-- Where two runs of predicates are put together, the first run that fails decides the error, and
otherwise the texts and values are put together. Where a query compiles, every child predicate
that is reached contributes what its child query compiles to on its own. -/
theorem compileWhere_compositional (start : Nat) :
    (∀ (p q r : Query) (_ : p.predicates ≠ []) (hq : q.predicates ≠ []),
      r.predicates = p.predicates ++ q.predicates →
        (∀ error, r.compileWhere start = .error error ↔
          p.compileWhere start = .error error ∨
            ∃ first, p.compileWhere start = .ok first ∧
              q.compileWhere first.next = .error error) ∧
        ∀ first second, p.compileWhere start = .ok first →
          q.compileWhere first.next = .ok second →
            first.sql = "(" ++ Sql.unwrapped first.sql ++ ")" ∧
            second.sql = "(" ++ Sql.unwrapped second.sql ++ ")" ∧
            r.compileWhere start = .ok
              ⟨"(" ++ (Sql.unwrapped first.sql ++
                  (" " ++ (q.predicates.head hq).connective.symbol ++ " ") ++
                  Sql.unwrapped second.sql) ++ ")",
                first.args ++ second.args, second.next⟩) ∧
    ∀ (q : Query) whole, q.compileWhere start = .ok whole →
      ∀ position level, q.Reaches start position level →
        ∃ compiled, level.compileWhere position = .ok compiled ∧
          ∀ before p after, level.predicates = before ++ p :: after → p.operator = .child →
            Contributes position before p after compiled := by
  constructor
  · intro p q r hp hq hr
    have happend := compileWhere_append start hr (by simp [hr, hp])
    rw [Predicate.seam_of_ne_nil hp hq] at happend
    constructor
    · intro error
      simp [happend, bind_eq_error, pure, Except.pure]
    · intro first second hfirst hsecond
      refine ⟨parenthesized_of_compileWhere hp hfirst, parenthesized_of_compileWhere hq hsecond, ?_⟩
      exact happend.trans (bind_eq_ok.2 ⟨first, hfirst, bind_eq_ok.2 ⟨second, hsecond, rfl⟩⟩)
  · intro q whole hq position level hreach
    obtain ⟨compiled, hlevel⟩ := hreach.compileWhere_eq_ok hq
    exact ⟨compiled, hlevel, fun before p after => contributes_of_compileWhere hlevel⟩

/-- Child queries in each other, a predicate after them, and one that fails there. -/
theorem compileWhere_compositional_nested :
    let inner : Query := ⟨[⟨.isIn, "b", .array [.null, .bool true], .and, none⟩], []⟩
    let middle : Query :=
      ⟨[⟨.gt, "a", .null, .and, none⟩, ⟨.child, "t", .null, .or, some inner⟩], []⟩
    let p : Query := ⟨[⟨.like, "c", .null, .and, none⟩, ⟨.child, "u", .null, .or, some middle⟩], []⟩
    let q : Query := ⟨[⟨.eq, "d", .null, .or, none⟩], []⟩
    let stray : Query := ⟨[⟨.eq, "d", .null, .or, some inner⟩], []⟩
    compileWhere 7 ⟨p.predicates ++ stray.predicates, []⟩ = .error (.unexpectedChild "d" .eq) ∧
      ∃ first second, p.compileWhere 7 = .ok first ∧ q.compileWhere 11 = .ok second ∧
        compileWhere 7 ⟨p.predicates ++ q.predicates, []⟩ = .ok
          ⟨"(" ++ (Sql.unwrapped first.sql ++ " OR " ++ Sql.unwrapped second.sql) ++ ")",
            first.args ++ second.args, 12⟩ ∧
        ∃ compiled, middle.compileWhere 8 = .ok compiled ∧
          Contributes 8 [⟨.gt, "a", .null, .and, none⟩] ⟨.child, "t", .null, .or, some inner⟩ []
            compiled := by
  intro inner middle p q stray
  have hcompiled (start : Nat) (x : Query) (hx : start ≠ 0 ∧ x.Shaped maxNesting ∧ x.Listed) :
      x.compileWhere start = .ok (x.compiled start) :=
    (compileWhere_eq_ok start x _).2 ⟨hx.1, hx.2, rfl⟩
  have hp := hcompiled 7 p (by decide)
  have hq := hcompiled 11 q (by decide)
  obtain ⟨hbeside, hrelated⟩ := compileWhere_compositional 7
  refine ⟨?_, _, _, hp, hq, ?_, ?_⟩
  · exact ((hbeside p stray _ (by simp [p]) (by simp [stray]) rfl).1 _).2 (.inr ⟨_, hp, rfl⟩)
  · exact ((hbeside p q _ (by simp [p]) (by simp [q]) rfl).2 _ _ hp hq).2.2
  · have hfirst := hcompiled 7 ⟨[⟨.like, "c", .null, .and, none⟩], []⟩ (by decide)
    have hsplit : p.predicates =
        [⟨.like, "c", .null, .and, none⟩] ++ [⟨.child, "u", .null, .or, some middle⟩] := rfl
    have hreach : p.Reaches 7 8 middle := .related .self hsplit rfl rfl hfirst
    obtain ⟨compiled, hmiddle, hparts⟩ := hrelated p _ hp 8 middle hreach
    exact ⟨compiled, hmiddle, hparts _ _ _ rfl rfl⟩

end Query

end SqlCatalog
