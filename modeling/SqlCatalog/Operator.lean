-- SUMMARY: Predicate operators, connectives, and sets of operators.
import SqlCatalog.Text

/-!
# Operators

What a predicate may compare with, the connective that joins it to the one
before it, and the set of operators that a column allows.
-/

namespace SqlCatalog

inductive Operator where
  | eq
  | ne
  | gt
  | lt
  | ge
  | le
  | like
  | isIn
  | notIn
  | child
deriving DecidableEq, Repr

namespace Operator

def all : List Operator := [.eq, .ne, .gt, .lt, .ge, .le, .like, .isIn, .notIn, .child]

theorem mem_all (op : Operator) : op ∈ all := by cases op <;> decide

def symbol : Operator → String
  | .eq => "="
  | .ne => "!="
  | .gt => ">"
  | .lt => "<"
  | .ge => ">="
  | .le => "<="
  | .like => "LIKE"
  | .isIn => "IN"
  | .notIn => "NOT IN"
  | .child => "CHILD"

/-- The operators under their symbols. -/
def symbols : List (String × Operator) := all.map fun op => (op.symbol, op)

/-- The operator a text names, blanks around it and letter case aside; `<>` is
another way to write `!=`. -/
def ofText? (text : String) : Option Operator :=
  let folded := (Text.trim text.toList).map Text.capital
  if folded = ['<', '>'] then some .ne else all.find? fun op => op.symbol.toList = folded

def unknownMessage (text : String) : String := "unknown operator: '" ++ text ++ "'"

end Operator

/-! ## Connectives -/

inductive Connective where
  | and
  | or
deriving DecidableEq, Repr

namespace Connective

def symbol : Connective → String
  | .and => "AND"
  | .or => "OR"

def symbols : List (String × Connective) := [("AND", .and), ("OR", .or)]

end Connective

/-! ## Sets of operators -/

/-- A set of operators, its members listed once each in the order of `Operator.all`. -/
structure OperatorSet where
  members : List Operator
  canonical : Operator.all.filter members.contains = members
deriving DecidableEq

namespace OperatorSet

def ofList (ops : List Operator) : OperatorSet where
  members := Operator.all.filter ops.contains
  canonical := by
    apply List.filter_congr
    intro op _
    simp [Operator.mem_all op]

def empty : OperatorSet := ofList []

def insert (s : OperatorSet) (op : Operator) : OperatorSet := ofList (op :: s.members)

def union (s : OperatorSet) (ops : List Operator) : OperatorSet := ofList (s.members ++ ops)

def contains (s : OperatorSet) (op : Operator) : Bool := s.members.contains op

@[simp] theorem contains_ofList (ops : List Operator) (op : Operator) :
    (ofList ops).contains op = ops.contains op := by
  simp [ofList, contains, Operator.mem_all op]

@[simp] theorem contains_union (s : OperatorSet) (ops : List Operator) (op : Operator) :
    (s.union ops).contains op = (s.contains op || ops.contains op) := by
  rw [union, contains_ofList, List.contains_append, contains]

end OperatorSet

end SqlCatalog
