-- SUMMARY: TOML strings: basic and literal, on one line or several.
import SqlCatalog.Text
import SqlCatalog.Toml.Value

/-!
# TOML strings

A basic string has escapes, a literal string has none. Either may run over
several lines between tripled marks; a line break is then always one line feed,
and one right after the opening is dropped. In a basic string a backslash at
the end of a line joins the next line that has something on it.
-/

namespace SqlCatalog.Toml

def quoteMark : Char := '\x22'

def apostrophe : Char := '\x27'

/-- The characters that may stand for themselves: a tab, and everything that is not a
control character of ASCII. -/
def isPlain (c : Char) : Bool := c = '\t' || (0x20 ≤ c.toNat && c.toNat ≠ 0x7F)

/-! ## Escapes -/

def escaped? : Char → Option Char
  | 'b' => some '\x08'
  | 't' => some '\t'
  | 'n' => some '\n'
  | 'f' => some '\x0c'
  | 'r' => some '\r'
  | '\x22' => some '\x22'
  | '\\' => some '\\'
  | _ => none

/-- The character with the code point that the digits give. -/
def codePoint? (digits : List Char) : Option Char := do
  let values ← digits.mapM Text.hexDigit?
  let n := values.foldl (fun n d => 16 * n + d) 0
  if n.isValidChar then some (Char.ofNat n) else none

/-! ## One line -/

/-- The rest of a basic string, given its characters so far (last first). -/
def basicRest (seen : List Char) : Parser String
  | '\\' :: 'u' :: a :: b :: c :: d :: rest => do
    basicRest ((← codePoint? [a, b, c, d]) :: seen) rest
  | '\\' :: 'U' :: a :: b :: c :: d :: e :: f :: g :: h :: rest => do
    basicRest ((← codePoint? [a, b, c, d, e, f, g, h]) :: seen) rest
  | '\\' :: c :: rest => do basicRest ((← escaped? c) :: seen) rest
  | c :: rest =>
    if c = quoteMark then some (String.ofList seen.reverse, rest)
    else if isPlain c && c ≠ '\\' then basicRest (c :: seen) rest
    else none
  | [] => none

/-- The rest of a literal string. -/
def literalRest (seen : List Char) : Parser String
  | c :: rest =>
    if c = apostrophe then some (String.ofList seen.reverse, rest)
    else if isPlain c then literalRest (c :: seen) rest
    else none
  | [] => none

/-! ## Several lines -/

/-- What follows a tripled mark: up to two more marks still belong to the string. -/
def closing (mark : Char) (seen rest : List Char) : String × List Char :=
  match rest with
  | a :: b :: others =>
    if a = mark ∧ b = mark then (String.ofList (mark :: mark :: seen).reverse, others)
    else if a = mark then (String.ofList (mark :: seen).reverse, b :: others)
    else (String.ofList seen.reverse, rest)
  | [a] =>
    if a = mark then (String.ofList (mark :: seen).reverse, [])
    else (String.ofList seen.reverse, rest)
  | [] => (String.ofList seen.reverse, [])

/-- Where the reader of a basic string over several lines stands: in the text, between
a backslash and the end of its line, or at the start of the lines it joins. -/
inductive Joint where
  | none
  | beforeBreak
  | afterBreak

/-- The rest of a basic string over several lines. -/
def multiBasicRest (joint : Joint) (seen : List Char) : Parser String
  | '\r' :: '\n' :: rest =>
    match joint with
    | .none => multiBasicRest .none ('\n' :: seen) rest
    | _ => multiBasicRest .afterBreak seen rest
  | '\n' :: rest =>
    match joint with
    | .none => multiBasicRest .none ('\n' :: seen) rest
    | _ => multiBasicRest .afterBreak seen rest
  | '\\' :: 'u' :: a :: b :: c :: d :: rest =>
    match joint with
    | .beforeBreak => none
    | _ => do multiBasicRest .none ((← codePoint? [a, b, c, d]) :: seen) rest
  | '\\' :: 'U' :: a :: b :: c :: d :: e :: f :: g :: h :: rest =>
    match joint with
    | .beforeBreak => none
    | _ => do multiBasicRest .none ((← codePoint? [a, b, c, d, e, f, g, h]) :: seen) rest
  | '\\' :: c :: rest =>
    match joint with
    | .beforeBreak => none
    | _ =>
      match escaped? c with
      | some e => multiBasicRest .none (e :: seen) rest
      | none =>
        if c = ' ' ∨ c = '\t' then multiBasicRest .beforeBreak seen rest
        else if c = '\n' then multiBasicRest .afterBreak seen rest
        else if c = '\r' then
          match rest with
          | '\n' :: rest => multiBasicRest .afterBreak seen rest
          | _ => none
        else none
  | '\x22' :: '\x22' :: '\x22' :: rest =>
    match joint with
    | .beforeBreak => none
    | _ => some (closing quoteMark seen rest)
  | c :: rest =>
    match joint with
    | .beforeBreak => if c = ' ' ∨ c = '\t' then multiBasicRest .beforeBreak seen rest else none
    | .afterBreak =>
      if c = ' ' ∨ c = '\t' then multiBasicRest .afterBreak seen rest
      else if isPlain c && c ≠ '\\' then multiBasicRest .none (c :: seen) rest
      else none
    | .none => if isPlain c && c ≠ '\\' then multiBasicRest .none (c :: seen) rest else none
  | [] => none

/-- The rest of a literal string over several lines. -/
def multiLiteralRest (seen : List Char) : Parser String
  | '\r' :: '\n' :: rest => multiLiteralRest ('\n' :: seen) rest
  | '\n' :: rest => multiLiteralRest ('\n' :: seen) rest
  | '\x27' :: '\x27' :: '\x27' :: rest => some (closing apostrophe seen rest)
  | c :: rest => if isPlain c then multiLiteralRest (c :: seen) rest else none
  | [] => none

/-- Drop a line break right after the opening mark. -/
def dropBreak : List Char → List Char
  | '\r' :: '\n' :: rest => rest
  | '\n' :: rest => rest
  | cs => cs

/-! ## Strings -/

/-- A string on one line. -/
def quoted : Parser String
  | '\x22' :: rest => basicRest [] rest
  | '\x27' :: rest => literalRest [] rest
  | _ => none

def string : Parser String
  | '\x22' :: '\x22' :: '\x22' :: rest => multiBasicRest .none [] (dropBreak rest)
  | '\x27' :: '\x27' :: '\x27' :: rest => multiLiteralRest [] (dropBreak rest)
  | cs => quoted cs

end SqlCatalog.Toml
