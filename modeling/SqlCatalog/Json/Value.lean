-- SUMMARY: JSON values and their text, compact and indented.
import SqlCatalog.Json.Number

/-!
# JSON values

Values as the program holds and writes them. The members of an object keep
their order; a value is well formed when no object in it repeats a key.
-/

namespace SqlCatalog.Json

inductive Value where
  | null
  | bool (value : Bool)
  | number (value : Number)
  | string (value : String)
  | array (items : List Value)
  | object (members : List (String × Value))

namespace Value

instance : Inhabited Value := ⟨.null⟩

def isNull : Value → Bool
  | .null => true
  | _ => false

def isScalar : Value → Bool
  | .array _ => false
  | .object _ => false
  | _ => true

/-- What an error message calls the kind of a value. -/
def kind : Value → String
  | .null => "null"
  | .bool _ => "a boolean"
  | .number _ => "a number"
  | .string _ => "a string"
  | .array _ => "an array"
  | .object _ => "an object"

def nat (n : Nat) (h : n < 18446744073709551616) : Value := .number (.int n ⟨by omega, by omega⟩)

def strings (texts : List String) : Value := .array (texts.map .string)

def optional : Option String → Value
  | none => .null
  | some text => .string text

end Value

/-! ## Strings -/

def hexChar (n : Nat) : Char :=
  if n < 10 then Char.ofNat ('0'.toNat + n) else Char.ofNat ('a'.toNat + (n - 10))

/-- Quotes, backslashes and control characters are escaped, nothing else is. -/
def escape (c : Char) : List Char :=
  if c = '"' then ['\\', '"']
  else if c = '\\' then ['\\', '\\']
  else if c.toNat < 0x20 then
    if c = '\x08' then ['\\', 'b']
    else if c = '\t' then ['\\', 't']
    else if c = '\n' then ['\\', 'n']
    else if c = '\x0c' then ['\\', 'f']
    else if c = '\r' then ['\\', 'r']
    else ['\\', 'u', '0', '0', hexChar (c.toNat / 16), hexChar (c.toNat % 16)]
  else [c]

def quoted (text : String) : List Char :=
  '"' :: (text.toList.flatMap escape ++ ['"'])

/-! ## Compact text -/

namespace Value

mutual

def chars : Value → List Char
  | .null => "null".toList
  | .bool true => "true".toList
  | .bool false => "false".toList
  | .number n => n.text.toList
  | .string s => quoted s
  | .array items => '[' :: (itemChars items ++ [']'])
  | .object members => '\x7b' :: (memberChars members ++ ['\x7d'])

def itemChars : List Value → List Char
  | [] => []
  | [v] => chars v
  | v :: w :: rest => chars v ++ ',' :: itemChars (w :: rest)

def memberChars : List (String × Value) → List Char
  | [] => []
  | [(k, v)] => quoted k ++ ':' :: chars v
  | (k, v) :: m :: rest => quoted k ++ ':' :: (chars v ++ ',' :: memberChars (m :: rest))

end

/-- The text without any blanks. -/
def render (v : Value) : String := String.ofList v.chars

/-! ## Indented text -/

def newline (indent : Nat) : List Char := '\n' :: List.replicate indent ' '

mutual

def prettyChars (indent : Nat) : Value → List Char
  | .array [] => ['[', ']']
  | .array (v :: rest) =>
    '[' :: (prettyItems (indent + 2) (v :: rest) ++ newline indent ++ [']'])
  | .object [] => ['\x7b', '\x7d']
  | .object (m :: rest) =>
    '\x7b' :: (prettyMembers (indent + 2) (m :: rest) ++ newline indent ++ ['\x7d'])
  | .null => "null".toList
  | .bool true => "true".toList
  | .bool false => "false".toList
  | .number n => n.text.toList
  | .string s => quoted s

def prettyItems (indent : Nat) : List Value → List Char
  | [] => []
  | [v] => newline indent ++ prettyChars indent v
  | v :: w :: rest =>
    newline indent ++ prettyChars indent v ++ ',' :: prettyItems indent (w :: rest)

def prettyMembers (indent : Nat) : List (String × Value) → List Char
  | [] => []
  | [(k, v)] => newline indent ++ quoted k ++ ':' :: ' ' :: prettyChars indent v
  | (k, v) :: m :: rest =>
    newline indent ++ quoted k ++ ':' :: ' ' :: (prettyChars indent v ++
      ',' :: prettyMembers indent (m :: rest))

end

/-- The text with one member or item a line, two blanks a level. -/
def pretty (v : Value) : String := String.ofList (v.prettyChars 0)

end Value

end SqlCatalog.Json
