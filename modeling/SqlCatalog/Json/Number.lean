-- SUMMARY: JSON numbers: the two kinds of value, the grammar of a numeral, and the text of a number.
import SqlCatalog.Decimal.Shortest
import SqlCatalog.Text

/-!
# JSON numbers

A numeral without fraction and exponent whose value fits 64 bits (signed or
unsigned) is an integer. Every other numeral is a double, `-0` included; one
too large for a double has no value.
-/

namespace SqlCatalog.Json

inductive Number where
  | int (value : Int) (fits : -9223372036854775808 ≤ value ∧ value < 18446744073709551616)
  | float (value : Binary64)
deriving DecidableEq

namespace Number

def ofInt? (value : Int) : Option Number :=
  if h : -9223372036854775808 ≤ value ∧ value < 18446744073709551616 then some (.int value h)
  else none

def ofInt64 (value : Int64) : Number :=
  .int value.toInt ⟨Int64.le_toInt value, by have := Int64.toInt_lt value; omega⟩

end Number

/-! ## Numerals -/

/-- A numeral cut into its parts; the digit runs are not empty. -/
structure Numeral where
  negative : Bool
  whole : List Char
  fraction : List Char
  exponent : Int
  plain : Bool
deriving DecidableEq

namespace Numeral

/-- The value of a run of digits that is not empty. -/
def amount? (ds : List Char) : Option Nat :=
  if ds ≠ [] ∧ ds.all Char.isDigit then some (Text.decimalValue ds) else none

def signedAmount? : List Char → Option Int
  | '+' :: ds => (amount? ds).map Int.ofNat
  | '-' :: ds => (amount? ds).map (fun n => -Int.ofNat n)
  | ds => (amount? ds).map Int.ofNat

/-- The exponent part, `e` or `E` with an optional sign, up to the end of the text. -/
def exponent? : List Char → Option Int
  | 'e' :: rest => signedAmount? rest
  | 'E' :: rest => signedAmount? rest
  | _ => none

/-- What follows the whole part: an optional fraction, then an optional exponent. -/
def ofTail? (negative : Bool) (whole : List Char) : List Char → Option Numeral
  | [] => some ⟨negative, whole, [], 0, true⟩
  | '.' :: rest =>
    let (fraction, tail) := Text.spanDigits rest
    if fraction = [] then none
    else if tail = [] then some ⟨negative, whole, fraction, 0, false⟩
    else (exponent? tail).map (fun e => ⟨negative, whole, fraction, e, false⟩)
  | tail => (exponent? tail).map (fun e => ⟨negative, whole, [], e, false⟩)

/-- A whole part has no leading zero. -/
def ofUnsigned? (negative : Bool) (cs : List Char) : Option Numeral :=
  let (whole, tail) := Text.spanDigits cs
  match whole with
  | [] => none
  | '0' :: _ :: _ => none
  | _ => ofTail? negative whole tail

def ofChars? : List Char → Option Numeral
  | '-' :: cs => ofUnsigned? true cs
  | cs => ofUnsigned? false cs

/-- The double a numeral stands for; `none` when it is too large. -/
def float? (n : Numeral) : Option Number :=
  (Binary64.ofDecimal? n.negative (Text.decimalValue (n.whole ++ n.fraction))
    (n.exponent - n.fraction.length)).map .float

def number? (n : Numeral) : Option Number :=
  let magnitude := Text.decimalValue n.whole
  if n.plain ∧ ¬ (n.negative ∧ magnitude = 0) then
    match Number.ofInt? (if n.negative then -magnitude else magnitude) with
    | some number => some number
    | none => n.float?
  else n.float?

end Numeral

/-! ## Text -/

namespace Number

/-- Positional notation from `1e-5` up to (not including) `1e16`, with at least one
digit after the point; otherwise one digit before the point and a signed exponent. -/
def decimalText (d : Decimal) : String :=
  let digits := Nat.toDigits 10 d.digits
  let leading : Int := digits.length + d.power - 1
  if -5 ≤ leading ∧ leading < 16 then
    if 0 ≤ d.power then
      String.ofList (digits ++ List.replicate d.power.natAbs '0') ++ ".0"
    else if 0 ≤ leading then
      let whole := leading.natAbs + 1
      String.ofList (digits.take whole) ++ "." ++ String.ofList (digits.drop whole)
    else
      "0." ++ String.ofList (List.replicate (leading.natAbs - 1) '0' ++ digits)
  else
    let first := String.ofList (digits.take 1)
    let others := digits.drop 1
    let significand := if others = [] then first else first ++ "." ++ String.ofList others
    let sign := if leading < 0 then "-" else "+"
    significand ++ "e" ++ sign ++ toString leading.natAbs

def floatText (x : Binary64) : String :=
  (if x.negative then "-" else "") ++
    (if x.significand = 0 then "0.0" else decimalText x.shortest)

def text : Number → String
  | .int value _ => toString value
  | .float value => floatText value

end Number

end SqlCatalog.Json
