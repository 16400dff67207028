-- SUMMARY: The shortest decimal that reads back as a given double.
import SqlCatalog.Decimal.Binary64

/-!
# Shortest decimals

The decimals that round to a double form an interval around it. Grids of
decimals are tried from coarse to fine, and on each grid the two neighbours of
the value; the first grid with a neighbour in the interval gives the digits. Of
two such neighbours the nearer is taken, and the even one of two equally near.
-/

namespace SqlCatalog

/-- The number `digits · 10 ^ power`. -/
structure Decimal where
  digits : Nat
  power : Int
deriving DecidableEq, Repr

namespace Binary64

/-- The decimals that read back as the double, all three numbers over the common
denominator `den`; the bounds belong to the interval when `closed` holds. -/
structure Interval where
  low : Nat
  value : Nat
  high : Nat
  den : Nat
  closed : Bool

/-- The neighbours of a double are one unit of its significand away, but the
lower neighbour of a power of two only half a unit. -/
def interval (x : Binary64) : Interval :=
  let below := if x.significand = Nat.pow 2 52 ∧ minExponent < x.exponent then 1 else 2
  let unit := Nat.pow 2 x.exponent.natAbs
  let scale := if x.exponent < 0 then 1 else unit
  { low := (4 * x.significand - below) * scale
    value := 4 * x.significand * scale
    high := (4 * x.significand + 2) * scale
    den := if x.exponent < 0 then 4 * unit else 4
    closed := x.significand % 2 = 0 }

namespace Interval

/-- Whether `digits · up / down` lies in the interval. -/
def holds (i : Interval) (up down digits : Nat) : Bool :=
  let point := digits * up * i.den
  if i.closed then i.low * down ≤ point && point ≤ i.high * down
  else i.low * down < point && point < i.high * down

/-- The best point of the grid of multiples of `up / down`, if one is in the interval. -/
def onGrid? (i : Interval) (up down : Nat) : Option Nat :=
  let num := i.value * down
  let den := i.den * up
  let lower := num / den
  let upper := lower + 1
  match i.holds up down lower, i.holds up down upper with
  | true, true =>
    let twice := 2 * (num % den)
    if twice < den then some lower
    else if den < twice then some upper
    else if lower % 2 = 0 then some lower else some upper
  | true, false => some lower
  | false, true => some upper
  | false, false => none

/-- The first grid `10 ^ power`, `10 ^ (power - 1)`, … with a point in the interval. -/
def search (i : Interval) : Nat → Int → Decimal
  | 0, power => ⟨0, power⟩
  | fuel + 1, power =>
    let unit := Nat.pow 10 power.natAbs
    match if power < 0 then i.onGrid? 1 unit else i.onGrid? unit 1 with
    | some digits => ⟨digits, power⟩
    | none => search i fuel (power - 1)

end Interval

/-- Drop trailing zeros of the digits; a number has no more zeros than bits. -/
def dropZeros : Nat → Decimal → Decimal
  | 0, d => d
  | fuel + 1, d =>
    if d.digits ≠ 0 ∧ d.digits % 10 = 0 then dropZeros fuel ⟨d.digits / 10, d.power + 1⟩ else d

/-- The shortest decimal that reads back as the magnitude of `x`. The search
starts above the value and ends at the latest with seventeen digits. -/
def shortest (x : Binary64) : Decimal :=
  if x.significand = 0 then ⟨0, 0⟩
  else
    let bits : Int := (Nat.log2 x.significand : Int) + 1 + x.exponent
    let top : Int := bits * 30103 / 100000 + 1
    dropZeros 20 (x.interval.search 24 top)

end Binary64

end SqlCatalog
