-- SUMMARY: The tokens of a JSON text and the scanner that finds them.
import SqlCatalog.Json.Number

/-!
# JSON tokens

The scanner takes one character at a time. Between two characters it knows the
tokens that are complete and how far it is inside the next one. Words and
numerals end at the first character that cannot belong to them; that character
is then scanned again as the start of something new.
-/

namespace SqlCatalog.Json

inductive Token where
  | openArray
  | closeArray
  | openObject
  | closeObject
  | colon
  | comma
  | null
  | bool (value : Bool)
  | number (value : Option Number)
  | string (value : Option String)
deriving DecidableEq

/-! ## Strings under construction -/

/-- A string being read: its characters so far (last first), a first half of a
surrogate pair that waits for its second half, and whether every half so far
found its partner. -/
structure Spelling where
  reversed : List Char
  waiting : Option Nat
  paired : Bool
deriving DecidableEq

namespace Spelling

def empty : Spelling := ⟨[], none, true⟩

def push (s : Spelling) (c : Char) : Spelling :=
  ⟨c :: s.reversed, none, s.paired && s.waiting.isNone⟩

def isFirstHalf (unit : Nat) : Bool := 0xD800 ≤ unit && unit < 0xDC00

def isSecondHalf (unit : Nat) : Bool := 0xDC00 ≤ unit && unit < 0xE000

/-- Add the code unit of a `\u` escape. -/
def pushUnit (s : Spelling) (unit : Nat) : Spelling :=
  match s.waiting with
  | some first =>
    if isSecondHalf unit then
      ⟨Char.ofNat (0x10000 + (first - 0xD800) * 0x400 + (unit - 0xDC00)) :: s.reversed, none, s.paired⟩
    else ⟨s.reversed, none, false⟩
  | none =>
    if isFirstHalf unit then ⟨s.reversed, some unit, s.paired⟩
    else if isSecondHalf unit then ⟨s.reversed, none, false⟩
    else s.push (Char.ofNat unit)

def finish (s : Spelling) : Option String :=
  if s.paired && s.waiting.isNone then some (String.ofList s.reversed.reverse) else none

end Spelling

/-! ## The scanner -/

inductive Mode where
  | between
  | word (reversed : List Char)
  | numeral (reversed : List Char)
  | text (spelling : Spelling)
  | escape (spelling : Spelling)
  | unit (spelling : Spelling) (digits : Nat) (value : Nat)

/-- The complete tokens, last first, and what is being read. -/
structure Scan where
  tokens : List Token
  mode : Mode

namespace Scan

def start : Scan := ⟨[], .between⟩

def emit (s : Scan) (t : Token) : Scan := ⟨t :: s.tokens, .between⟩

def become (s : Scan) (m : Mode) : Scan := ⟨s.tokens, m⟩

def isGap (c : Char) : Bool := c = ' ' || c = '\t' || c = '\n' || c = '\r'

def isNumeral (c : Char) : Bool :=
  c.isDigit || c = '-' || c = '+' || c = '.' || c = 'e' || c = 'E'

def stepBetween (s : Scan) (c : Char) : Option Scan :=
  if isGap c then some s
  else if c = '[' then some (s.emit .openArray)
  else if c = ']' then some (s.emit .closeArray)
  else if c = '\x7b' then some (s.emit .openObject)
  else if c = '\x7d' then some (s.emit .closeObject)
  else if c = ':' then some (s.emit .colon)
  else if c = ',' then some (s.emit .comma)
  else if c = '"' then some (s.become (.text .empty))
  else if c = '-' || c.isDigit then some (s.become (.numeral [c]))
  else if c.isLower then some (s.become (.word [c]))
  else none

def closeWord (s : Scan) (reversed : List Char) : Option Scan :=
  let word := reversed.reverse
  if word = ['n', 'u', 'l', 'l'] then some (s.emit .null)
  else if word = ['t', 'r', 'u', 'e'] then some (s.emit (.bool true))
  else if word = ['f', 'a', 'l', 's', 'e'] then some (s.emit (.bool false))
  else none

def closeNumeral (s : Scan) (reversed : List Char) : Option Scan :=
  (Numeral.ofChars? reversed.reverse).map (fun n => s.emit (.number n.number?))

/-- The character that a one-letter escape stands for. -/
def escaped? (c : Char) : Option Char :=
  if c = '"' ∨ c = '\\' ∨ c = '/' then some c
  else if c = 'b' then some '\x08'
  else if c = 'f' then some '\x0c'
  else if c = 'n' then some '\n'
  else if c = 'r' then some '\r'
  else if c = 't' then some '\t'
  else none

def step (s : Scan) (c : Char) : Option Scan :=
  match s.mode with
  | .between => s.stepBetween c
  | .word w =>
    if c.isLower then some (s.become (.word (c :: w)))
    else (s.closeWord w).bind (fun s => s.stepBetween c)
  | .numeral n =>
    if isNumeral c then some (s.become (.numeral (c :: n)))
    else (s.closeNumeral n).bind (fun s => s.stepBetween c)
  | .text t =>
    if c = '"' then some (s.emit (.string t.finish))
    else if c = '\\' then some (s.become (.escape t))
    else if c.toNat < 0x20 then none
    else some (s.become (.text (t.push c)))
  | .escape t =>
    if c = 'u' then some (s.become (.unit t 0 0))
    else (escaped? c).map (fun e => s.become (.text (t.push e)))
  | .unit t digits value =>
    match Text.hexDigit? c with
    | none => none
    | some d =>
      let value := 16 * value + d
      if digits = 3 then some (s.become (.text (t.pushUnit value)))
      else some (s.become (.unit t (digits + 1) value))

/-- The tokens in order, if the text does not stop inside a string. -/
def finish (s : Scan) : Option (List Token) :=
  match s.mode with
  | .between => some s.tokens.reverse
  | .word w => (s.closeWord w).map (fun s => s.tokens.reverse)
  | .numeral n => (s.closeNumeral n).map (fun s => s.tokens.reverse)
  | _ => none

end Scan

def tokens? (cs : List Char) : Option (List Token) :=
  (cs.foldlM Scan.step Scan.start).bind Scan.finish

end SqlCatalog.Json
