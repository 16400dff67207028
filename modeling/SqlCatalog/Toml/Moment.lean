-- SUMMARY: TOML dates and times.
import SqlCatalog.Text

/-!
# Dates and times

The grammar of dates, times and offsets, with the ranges of their parts.
-/

namespace SqlCatalog.Toml.Moment

/-- A number of exactly `count` digits between `low` and `high`, and the rest. -/
def field? (count low high : Nat) (cs : List Char) : Option (Nat × List Char) :=
  let digits := cs.take count
  let n := Text.decimalValue digits
  if digits.length = count ∧ digits.all Char.isDigit ∧ low ≤ n ∧ n ≤ high then
    some (n, cs.drop count)
  else none

def mark? (mark : Char) : List Char → Option (List Char)
  | c :: rest => if c = mark then some rest else none
  | [] => none

def isLeap (year : Nat) : Bool := year % 4 = 0 && (year % 100 ≠ 0 || year % 400 = 0)

def daysIn (year month : Nat) : Nat :=
  if month = 2 then (if isLeap year then 29 else 28)
  else if month = 4 ∨ month = 6 ∨ month = 9 ∨ month = 11 then 30
  else 31

/-- What follows a date. -/
def date? (cs : List Char) : Option (List Char) := do
  let (year, cs) ← field? 4 0 9999 cs
  let cs ← mark? '-' cs
  let (month, cs) ← field? 2 1 12 cs
  let cs ← mark? '-' cs
  let (_, cs) ← field? 2 1 (daysIn year month) cs
  return cs

/-- What follows a time; seconds are required, their fraction is not. -/
def time? (cs : List Char) : Option (List Char) := do
  let (_, cs) ← field? 2 0 23 cs
  let cs ← mark? ':' cs
  let (_, cs) ← field? 2 0 59 cs
  let cs ← mark? ':' cs
  let (_, cs) ← field? 2 0 60 cs
  match cs with
  | '.' :: rest => if (rest.takeWhile Char.isDigit) = [] then none else some (rest.dropWhile Char.isDigit)
  | _ => return cs

def isOffset : List Char → Bool
  | ['Z'] => true
  | ['z'] => true
  | sign :: cs =>
    (sign = '+' || sign = '-') &&
      (do
        let (_, cs) ← field? 2 0 23 cs
        let cs ← mark? ':' cs
        let (_, cs) ← field? 2 0 59 cs
        return cs) = some []
  | [] => false

/-- Whether the whole text is a date. -/
def isDate (cs : List Char) : Bool := date? cs = some []

/-- Whether the whole text is a date, a time, or a date and a time with or without an offset. -/
def isMoment (cs : List Char) : Bool :=
  match date? cs with
  | some [] => true
  | some (c :: rest) =>
    (c = 'T' || c = 't' || c = ' ') &&
      (match time? rest with
      | some tail => tail = [] || isOffset tail
      | none => false)
  | none => time? cs = some []

end SqlCatalog.Toml.Moment
