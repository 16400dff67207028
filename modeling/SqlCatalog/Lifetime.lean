-- SUMMARY: Cache lifetimes written as text.
import SqlCatalog.Text

/-!
# Lifetimes

A lifetime is a number of seconds: nothing (zero), a plain number, or a
sequence of amounts with units such as `1h30m`. It has at most 63 bits.
-/

namespace SqlCatalog.Lifetime

def maxSeconds : Nat := 9223372036854775807

def unitSeconds? : Char → Option Nat
  | 's' => some 1
  | 'm' => some 60
  | 'h' => some 3600
  | 'd' => some 86400
  | _ => none

def bounded? (n : Nat) : Option Nat := if n ≤ maxSeconds then some n else none

def isNumeral (cs : List Char) : Bool := cs ≠ [] && cs.all Char.isDigit

/-- The number a run of digits stands for. -/
def numeral? (ds : List Char) : Option Nat :=
  if isNumeral ds then bounded? (Text.decimalValue ds) else none

/-- A plain number: digits, a plus and digits, or a minus and zeros. -/
def plain? : List Char → Option Nat
  | '+' :: ds => numeral? ds
  | '-' :: ds => if isNumeral ds && Text.decimalValue ds = 0 then some 0 else none
  | ds => numeral? ds

/-- The sum of amounts with units, given the sum so far and the digits read of the next
amount (last first). Each amount, its seconds and the new sum are held to the range. -/
def amounts? (total : Nat) (pending : List Char) : List Char → Option Nat
  | [] => if pending = [] then some total else none
  | c :: rest =>
    if c.isDigit then amounts? total (c :: pending) rest
    else do
      let unit ← unitSeconds? c
      let amount ← numeral? pending.reverse
      let seconds ← bounded? (amount * unit)
      let total ← bounded? (total + seconds)
      amounts? total [] rest

/-- The seconds a text stands for. -/
def ofText? (text : String) : Option Nat :=
  match Text.trim text.toList with
  | [] => some 0
  | c :: cs =>
    match plain? (c :: cs) with
    | some seconds => some seconds
    | none => amounts? 0 [] (c :: cs)

/-! ## Bounds -/

theorem le_of_bounded? {n m : Nat} (h : bounded? n = some m) : m ≤ maxSeconds := by
  unfold bounded? at h
  split at h
  · cases h
    assumption
  · cases h

theorem le_of_numeral? {ds : List Char} {n : Nat} (h : numeral? ds = some n) :
    n ≤ maxSeconds := by
  unfold numeral? at h
  split at h
  · exact le_of_bounded? h
  · cases h

theorem le_of_plain? {cs : List Char} {n : Nat} (h : plain? cs = some n) : n ≤ maxSeconds := by
  unfold plain? at h
  split at h
  · exact le_of_numeral? h
  · split at h
    · cases h
      exact Nat.zero_le _
    · cases h
  · exact le_of_numeral? h

theorem le_of_amounts? {total n : Nat} {pending cs : List Char} (htotal : total ≤ maxSeconds)
    (h : amounts? total pending cs = some n) : n ≤ maxSeconds := by
  induction cs generalizing total pending with
  | nil =>
    unfold amounts? at h
    split at h
    · cases h
      exact htotal
    · cases h
  | cons c rest ih =>
    unfold amounts? at h
    split at h
    · exact ih htotal h
    · obtain ⟨_, -, h⟩ := Option.bind_eq_some_iff.1 h
      obtain ⟨_, -, h⟩ := Option.bind_eq_some_iff.1 h
      obtain ⟨_, -, h⟩ := Option.bind_eq_some_iff.1 h
      obtain ⟨sum, hsum, h⟩ := Option.bind_eq_some_iff.1 h
      exact ih (le_of_bounded? hsum) h

/-- A lifetime fits 63 bits. -/
theorem le_of_ofText? {text : String} {n : Nat} (h : ofText? text = some n) : n ≤ maxSeconds := by
  unfold ofText? at h
  split at h
  · cases h
    exact Nat.zero_le _
  · split at h
    · rename_i hplain
      cases h
      exact le_of_plain? hplain
    · exact le_of_amounts? (Nat.zero_le _) h

end SqlCatalog.Lifetime
