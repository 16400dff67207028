-- SUMMARY: Finite double-precision numbers as exact data, and correct rounding of decimals to them.

/-!
# Double precision

A finite double is `± significand · 2 ^ exponent`. The significand has 53 bits
and the exponent is at least -1074; below the least normal number the
exponent stays at -1074 and the significand gets shorter. Decimals are
rounded to the nearest double, a tie to the even significand.
-/

namespace SqlCatalog

structure Binary64 where
  negative : Bool
  significand : Nat
  exponent : Int
deriving DecidableEq, Repr

namespace Binary64

def minExponent : Int := -1074
def maxExponent : Int := 971

def zero (negative : Bool) : Binary64 := ⟨negative, 0, minExponent⟩

/-! ## Rounding -/

/-- `num / den` as an integer, a half going to the even neighbour. -/
def roundHalfEven (num den : Nat) : Nat :=
  let quotient := num / den
  let twice := 2 * (num % den)
  if twice < den then quotient
  else if den < twice then quotient + 1
  else if quotient % 2 = 0 then quotient else quotient + 1

/-- The pair `(n, d)` with `n / d = num / den / 2 ^ exponent`. -/
def scaled (num den : Nat) (exponent : Int) : Nat × Nat :=
  if exponent < 0 then (num * Nat.pow 2 exponent.natAbs, den)
  else (num, den * Nat.pow 2 exponent.natAbs)

/-- The exponent that leaves at most 53 bits before the point of `num / den / 2 ^ exponent`. -/
def fittingExponent (num den : Nat) : Int :=
  let guess : Int := max ((Nat.log2 num : Int) - (Nat.log2 den : Int) - 53) minExponent
  let (n, d) := scaled num den guess
  if n / d < Nat.pow 2 53 then guess else guess + 1

/-- The double nearest to `± num / den`; `none` when it is too large. -/
def ofRatio? (negative : Bool) (num den : Nat) : Option Binary64 :=
  if num = 0 then some (zero negative)
  else
    let exponent := fittingExponent num den
    let (n, d) := scaled num den exponent
    let rounded := roundHalfEven n d
    let (significand, exponent) :=
      if rounded = Nat.pow 2 53 then (Nat.pow 2 52, exponent + 1) else (rounded, exponent)
    if maxExponent < exponent then none else some ⟨negative, significand, exponent⟩

/-- The double nearest to `± digits · 10 ^ power`; `none` when it is too large.
Powers far outside the range are settled by the number of digits alone. -/
def ofDecimal? (negative : Bool) (digits : Nat) (power : Int) : Option Binary64 :=
  if digits = 0 then some (zero negative)
  else
    let magnitude : Int := (Nat.toDigits 10 digits).length + power
    if 310 < magnitude then none
    else if magnitude < -330 then some (zero negative)
    else if power < 0 then ofRatio? negative digits (Nat.pow 10 power.natAbs)
    else ofRatio? negative (digits * Nat.pow 10 power.natAbs) 1

end Binary64

end SqlCatalog
