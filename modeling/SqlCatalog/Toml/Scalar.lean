-- SUMMARY: TOML values other than strings, arrays and tables.
import SqlCatalog.Toml.Moment
import SqlCatalog.Toml.Value

/-!
# TOML scalars

Numbers, booleans, dates and times are runs of characters up to a blank, a
separator or a closing bracket; the whole run must have one of the forms. Only
a date may go on after one blank, with a time.
-/

namespace SqlCatalog.Toml

/-! ## Numbers -/

/-- Digits with single underscores between them, returned without the underscores. -/
def grouped? (isDigit : Char → Bool) : List Char → Option (List Char)
  | [] => none
  | [c] => if isDigit c then some [c] else none
  | c :: '_' :: rest => if isDigit c then (grouped? isDigit rest).map (c :: ·) else none
  | c :: rest => if isDigit c then (grouped? isDigit rest).map (c :: ·) else none

/-- A sign, and the rest. -/
def signed : List Char → Bool × List Char
  | '-' :: rest => (true, rest)
  | '+' :: rest => (false, rest)
  | cs => (false, cs)

/-- The digits of a decimal number without leading zeros. -/
def decimalDigits? (cs : List Char) : Option (List Char) :=
  match cs with
  | '0' :: _ :: _ => none
  | _ => grouped? Char.isDigit cs

def inRange? (n : Int) : Option Value :=
  if -9223372036854775808 ≤ n ∧ n < 9223372036854775808 then some (.integer n) else none

/-- The value of a number in a base up to sixteen, after its two leading characters. -/
def based? (base : Nat) (cs : List Char) : Option Value := do
  let isDigit c := match Text.hexDigit? c with
    | some d => decide (d < base)
    | none => false
  let digits ← grouped? isDigit cs
  let values ← digits.mapM Text.hexDigit?
  inRange? (values.foldl (fun n d => base * n + d) 0 : Nat)

def integer? (cs : List Char) : Option Value :=
  match cs with
  | '0' :: 'x' :: rest => based? 16 rest
  | '0' :: 'o' :: rest => based? 8 rest
  | '0' :: 'b' :: rest => based? 2 rest
  | _ =>
    let (negative, rest) := signed cs
    (decimalDigits? rest).bind fun digits =>
      let n : Int := Text.decimalValue digits
      inRange? (if negative then -n else n)

/-- The exponent part of a float. -/
def exponent? : List Char → Option Int
  | c :: cs =>
    if c = 'e' ∨ c = 'E' then
      let (negative, rest) := signed cs
      (grouped? Char.isDigit rest).map fun digits =>
        let n : Int := Text.decimalValue digits
        if negative then -n else n
    else none
  | [] => none

/-- The fraction and the exponent of a float; there must be one of them. -/
def fractional? : List Char → Option (List Char × Int)
  | '.' :: rest =>
    let (fraction, tail) := rest.span fun c => c.isDigit || c = '_'
    (grouped? Char.isDigit fraction).bind fun digits =>
      if tail = [] then some (digits, 0) else (exponent? tail).map (digits, ·)
  | cs => (exponent? cs).map ([], ·)

/-- A float. One above the largest double has no value and is refused, one below the
least has none and is let pass. -/
def float? (cs : List Char) : Option Value :=
  let (negative, rest) := signed cs
  if rest = ['i', 'n', 'f'] ∨ rest = ['n', 'a', 'n'] then some (.float none)
  else
    let (whole, tail) := rest.span fun c => c.isDigit || c = '_'
    match decimalDigits? whole, fractional? tail with
    | some digits, some (fraction, exponent) =>
      match Binary64.ofDecimal? negative (Text.decimalValue (digits ++ fraction))
          (exponent - fraction.length) with
      | some x => some (.float (some x))
      | none => if negative then some (.float none) else none
    | _, _ => none

/-! ## Scalars -/

/-- The value that a whole run of characters stands for. -/
def scalarOf? (run : List Char) : Option Value :=
  if run = ['t', 'r', 'u', 'e'] then some (.boolean true)
  else if run = ['f', 'a', 'l', 's', 'e'] then some (.boolean false)
  else if Moment.isMoment run then some .moment
  else match float? run with
    | some v => some v
    | none => integer? run

def endsRun (c : Char) : Bool := c ∈ [' ', '\t', '\n', '\r', '#', ',', ']', '\x7d']

def scalar : Parser Value := fun cs =>
  let (run, rest) := cs.span fun c => !endsRun c
  match rest with
  | ' ' :: after =>
    let (time, tail) := after.span fun c => !endsRun c
    if Moment.isDate run ∧ time ≠ [] then
      if Moment.isMoment (run ++ ' ' :: time) then some (.moment, tail) else none
    else (scalarOf? run).map (·, rest)
  | _ => (scalarOf? run).map (·, rest)

end SqlCatalog.Toml
