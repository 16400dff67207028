-- SUMMARY: Compiling the predicates of a query to SQL text with bound values.
import SqlCatalog.Error
import SqlCatalog.Sql.Clause
import SqlCatalog.Sql.Placeholder

/-!
# Compiling predicates

The predicates become one text in which placeholders stand for the bound
values, numbered from a given position in the order in which the values are
listed. Each predicate is compiled at the position where the one before it
stopped; the first fault ends the work.
-/

namespace SqlCatalog

/-- SQL text, the values it binds, and the position after the last placeholder. -/
structure Compiled where
  sql : String
  args : List Json.Value
  next : Nat

namespace Predicate

/-- The values of a membership test: a non-empty list of scalars. -/
def members (p : Predicate) : Except QueryError (List Json.Value) :=
  match p.value with
  | .array items =>
    if items.isEmpty then .error (.emptyInList p.column p.operator)
    else match items.find? (fun v => !v.isScalar) with
      | some bad => .error (.nonScalarInElement p.column p.operator bad.kind)
      | none => .ok items
  | other => .error (.invalidInValue p.column p.operator other.kind)

/-- Compile one predicate at `position`, given how to compile a child query. -/
def compile (child : Nat → Query → Except QueryError Compiled) (position : Nat)
    (p : Predicate) : Except QueryError Compiled :=
  let column := Sql.identifier p.column
  let token := Sql.Placeholder.token position
  match p.operator with
  | .child =>
    match p.child with
    | none => .error (.missingChild p.column)
    | some q => if q.isEmpty then .error (.emptyChild p.column) else child position q
  | op =>
    if p.child.isSome then .error (.unexpectedChild p.column op)
    else match op with
      | .like =>
        .ok ⟨column ++ " LIKE " ++ Sql.Placeholder.likeOperand token, [p.value],
          Sql.Placeholder.next position⟩
      | .isIn | .notIn => do
        let items ← p.members
        let tokens := Sql.Placeholder.tokens position items.length
        return ⟨column ++ " " ++ op.symbol ++ " (" ++ ",".intercalate tokens ++ ")", items,
          Sql.Placeholder.advance position items.length⟩
      | _ =>
        .ok ⟨column ++ " " ++ op.symbol ++ " " ++ token, [p.value],
          Sql.Placeholder.next position⟩

/-- Compile the predicates after the first, each led by its connective. -/
def compileRest (child : Nat → Query → Except QueryError Compiled) :
    Nat → List Predicate → Except QueryError Compiled
  | position, [] => .ok ⟨"", [], position⟩
  | position, p :: ps => do
    let first ← p.compile child position
    let rest ← compileRest child first.next ps
    return ⟨" " ++ p.connective.symbol ++ " " ++ first.sql ++ rest.sql, first.args ++ rest.args,
      rest.next⟩

end Predicate

namespace Query

/-- Compile one level of a query; a level without predicates has no text. -/
def compileWith (child : Nat → Query → Except QueryError Compiled) (position : Nat)
    (q : Query) : Except QueryError Compiled :=
  match q.predicates with
  | [] => .ok ⟨"", [], position⟩
  | p :: ps => do
    let first ← p.compile child position
    let rest ← Predicate.compileRest child first.next ps
    return ⟨"(" ++ first.sql ++ rest.sql ++ ")", first.args ++ rest.args, rest.next⟩

/-- Compile a query in which child queries may nest `levels` deep. -/
def compileLevels : Nat → Nat → Query → Except QueryError Compiled
  | 0 => compileWith fun _ _ => .error .nestingTooDeep
  | levels + 1 => compileWith (compileLevels levels)

/-- Compile the predicates of a query, numbering placeholders from `start`. -/
def compileWhere (start : Nat) (q : Query) : Except QueryError Compiled :=
  if start = 0 then .error .zeroStartPosition else compileLevels maxNesting start q

end Query

end SqlCatalog
