-- SUMMARY: Wildcard patterns for file names.

/-!
# Patterns

`?` stands for one character, `*` for any number of them, and brackets for one
of several characters, or with `!` for one of the others. `**` is only allowed
as a whole component and stands for any number of directories.
-/

namespace SqlCatalog

/-- The characters from `low` to `high`. -/
structure CharRange where
  low : Char
  high : Char
deriving DecidableEq

namespace CharRange

def contains (r : CharRange) (c : Char) : Bool := r.low ≤ c && c ≤ r.high

/-- The content of a bracket: ranges and single characters. -/
def ofChars : List Char → List CharRange
  | a :: '-' :: b :: rest => ⟨a, b⟩ :: ofChars rest
  | a :: rest => ⟨a, a⟩ :: ofChars rest
  | [] => []

end CharRange

namespace Pattern

inductive Part where
  | char (c : Char)
  | anyChar
  | anyText
  | anyDirectories
  | oneOf (ranges : List CharRange)
  | noneOf (ranges : List CharRange)
deriving DecidableEq

end Pattern

abbrev Pattern := List Pattern.Part

namespace Pattern

/-- A bracket's content and what follows it; the first character is content in any case. -/
def bracket? : List Char → Option (List CharRange × List Char)
  | [] => none
  | first :: rest =>
    let inner := rest.takeWhile (fun c => c ≠ ']')
    match rest.drop inner.length with
    | [] => none
    | _ :: after => some (CharRange.ofChars (first :: inner), after)

/-- The pattern of a text of at most `length` characters, given the character before it. -/
def parts? : Nat → Option Char → List Char → Option Pattern
  | _, _, [] => some []
  | 0, _, _ => none
  | length + 1, before, c :: rest =>
    match c, rest with
    | '*', '*' :: '*' :: _ => none
    | '*', '*' :: after =>
      if before = none ∨ before = some '/' then
        match after with
        | [] => some [.anyDirectories]
        | '/' :: after => (parts? length (some '/') after).map (.anyDirectories :: ·)
        | _ => none
      else none
    | '*', _ => (parts? length (some c) rest).map (.anyText :: ·)
    | '?', _ => (parts? length (some c) rest).map (.anyChar :: ·)
    | '[', '!' :: inside => do
      let (ranges, after) ← bracket? inside
      (parts? length (some ']') after).map (.noneOf ranges :: ·)
    | '[', inside => do
      let (ranges, after) ← bracket? inside
      (parts? length (some ']') after).map (.oneOf ranges :: ·)
    | _, _ => (parts? length (some c) rest).map (.char c :: ·)

/-- The pattern a text writes; `none` when it is no pattern. -/
def ofText? (text : String) : Option Pattern := parts? text.length none text.toList

def isRecursive (p : Pattern) : Bool := p.contains .anyDirectories

/-- The text of a pattern without wildcards. -/
def literal? : Pattern → Option (List Char)
  | [] => some []
  | .char c :: rest => (literal? rest).map (c :: ·)
  | _ => none

def anySuffix (holds : List Char → Bool) : List Char → Bool
  | [] => holds []
  | c :: rest => holds (c :: rest) || anySuffix holds rest

/-- Whether a name has the form of the pattern. -/
def accepts : Pattern → List Char → Bool
  | [], cs => cs.isEmpty
  | .anyText :: rest, cs => anySuffix (accepts rest) cs
  | .anyDirectories :: rest, cs => accepts rest cs
  | .char x :: rest, c :: cs => c = x && accepts rest cs
  | .anyChar :: rest, _ :: cs => accepts rest cs
  | .oneOf ranges :: rest, c :: cs => ranges.any (fun r => r.contains c) && accepts rest cs
  | .noneOf ranges :: rest, c :: cs => !ranges.any (fun r => r.contains c) && accepts rest cs
  | _, [] => false

end Pattern

end SqlCatalog
