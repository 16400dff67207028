-- SUMMARY: Characters and texts: white space, letter case, digits, segments, ranges of code points.

/-!
# Text

What the readers of names, types, lifetimes and documents share: trimming,
folding the case of keywords, values of digits, and cutting at a separator.
-/

namespace SqlCatalog.Text

/-! ## White space

The characters with the Unicode property White_Space, and the text between the
first and the last character without it. -/

def isBlank (c : Char) : Bool :=
  let n := c.toNat
  (0x09 ≤ n && n ≤ 0x0D) || n == 0x20 || n == 0x85 || n == 0xA0 || n == 0x1680 ||
  (0x2000 ≤ n && n ≤ 0x200A) || n == 0x2028 || n == 0x2029 || n == 0x202F || n == 0x205F ||
  n == 0x3000

def trimStart (cs : List Char) : List Char := cs.dropWhile isBlank

def trimEnd (cs : List Char) : List Char := (cs.reverse.dropWhile isBlank).reverse

def trim (cs : List Char) : List Char := trimEnd (trimStart cs)

/-! ## Letter case

Keywords are compared without regard to case. Their letters are ASCII, so only
the characters whose upper (or lower) case form is a single ASCII letter
matter: the ASCII letters themselves, `ı` and `ſ`, which have ASCII capitals, and
the Kelvin sign, whose small letter is `k`. Every other character is left as it
is; its folded form holds a character that occurs in no keyword, or, for `ß` and
the Latin ligatures, a pair of letters that stands in none. -/

def capital (c : Char) : Char :=
  if c = 'ı' then 'I' else if c = 'ſ' then 'S' else c.toUpper

def small (c : Char) : Char :=
  if c = '\u212a' then 'k' else c.toLower

/-! ## Digits -/

/-- The value of a run of decimal digits, most significant first. -/
def decimalValue (cs : List Char) : Nat :=
  cs.foldl (fun n c => 10 * n + (c.toNat - '0'.toNat)) 0

def hexDigit? (c : Char) : Option Nat :=
  if '0' ≤ c ∧ c ≤ '9' then some (c.toNat - '0'.toNat)
  else if 'a' ≤ c ∧ c ≤ 'f' then some (c.toNat - 'a'.toNat + 10)
  else if 'A' ≤ c ∧ c ≤ 'F' then some (c.toNat - 'A'.toNat + 10)
  else none

/-- The longest leading run of decimal digits, and the rest. -/
def spanDigits (cs : List Char) : List Char × List Char :=
  (cs.takeWhile Char.isDigit, cs.dropWhile Char.isDigit)

/-! ## Segments -/

/-- The segments between the occurrences of `sep`: one more than there are occurrences, and
possibly empty. -/
def splitAt (sep : Char) : List Char → List (List Char)
  | [] => [[]]
  | c :: rest =>
    if c = sep then [] :: splitAt sep rest
    else match splitAt sep rest with
      | [] => [[c]]
      | first :: others => (c :: first) :: others

/-- The library's function under the name that callers outside this project know. -/
@[deprecated List.isPrefixOf? (since := "2026-11-15")]
def stripFront (front cs : List Char) : Option (List Char) := front.isPrefixOf? cs

/-! ## Code points -/

/-- Ranges of code points, each with its first and its last member. -/
abbrev Ranges := List (Nat × Nat)

def Ranges.contains (rs : Ranges) (c : Char) : Bool :=
  rs.any fun (first, last) => first ≤ c.toNat && c.toNat ≤ last

end SqlCatalog.Text
