-- SUMMARY: Positional placeholders.

/-!
# Placeholders

Bound values are referred to by position, counted from one. The tokens of the
first positions are made once; later ones are made when needed. Positions have
64 bits, and the position after the last is the last.
-/

namespace SqlCatalog.Sql.Placeholder

/-- The last position of 64 bits. -/
def maxPosition : Nat := 18446744073709551615

/-- The position after `p`. -/
def next (p : Nat) : Nat := min (p + 1) maxPosition

/-- The position `count` places after `p`. -/
def advance (p : Nat) : Nat → Nat
  | 0 => p
  | count + 1 => advance (next p) count

def numbered (p : Nat) : String := "$" ++ toString p

def readyCount : Nat := 65536

def ready : Array String := Array.ofFn fun i : Fin readyCount => numbered (i.val + 1)

/-- The token of a position. -/
def token (p : Nat) : String := ready[p - 1]?.getD (numbered p)

/-- The tokens of `count` positions starting at `p`. -/
def tokens (p : Nat) : Nat → List String
  | 0 => []
  | count + 1 => token p :: tokens (next p) count

/-- A pattern that matches texts containing the bound value. -/
def likeOperand (t : String) : String := "'%' || " ++ t ++ " || '%'"

end SqlCatalog.Sql.Placeholder
