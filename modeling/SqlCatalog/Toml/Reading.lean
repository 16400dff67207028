-- SUMMARY: Reading a TOML text into a document.
import SqlCatalog.Text
import SqlCatalog.Toml.Node
import SqlCatalog.Toml.Quoted
import SqlCatalog.Toml.Scalar

/-!
# Reading TOML

A text is a sequence of lines: blank lines, comments, headers, and keys with
values. Keys that follow a header belong to its table. Arrays and inline tables
nest at most 79 deep, and a dotted key has at most 79 parts.
-/

namespace SqlCatalog.Toml

def maxNesting : Nat := 79

/-! ## Blanks and comments -/

def isGap (c : Char) : Bool := c = ' ' || c = '\t'

def skipGap (cs : List Char) : List Char := cs.dropWhile isGap

/-- What follows a comment on the same line, if there is a comment. -/
def skipComment : List Char → List Char
  | '#' :: rest => rest.dropWhile isPlain
  | cs => cs

/-- The rest of the text after the end of a line that has nothing more to say. -/
def lineEnd (cs : List Char) : Option (List Char) :=
  match skipComment (skipGap cs) with
  | [] => some []
  | '\n' :: rest => some rest
  | '\r' :: '\n' :: rest => some rest
  | _ => none

/-- Skip blanks, line breaks and comments; `inComment` inside a comment. -/
def skipLines (inComment : Bool) : List Char → List Char
  | [] => []
  | '\n' :: rest => skipLines false rest
  | '\r' :: '\n' :: rest => skipLines false rest
  | c :: rest =>
    if inComment && isPlain c then skipLines true rest
    else if isGap c then skipLines false rest
    else if c = '#' && !inComment then skipLines true rest
    else c :: rest

/-! ## Keys -/

def isBareKey (c : Char) : Bool := c.isAlphanum || c = '_' || c = '-'

def simpleKey : Parser String := fun cs =>
  match cs with
  | '\x22' :: _ => quoted cs
  | '\x27' :: _ => quoted cs
  | _ =>
    let (bare, rest) := cs.span isBareKey
    if bare = [] then none else some (String.ofList bare, rest)

/-- The parts of a dotted key, at most `count` of them, and the blanks around them. -/
def keyParts : Nat → Parser (List String)
  | 0, _ => none
  | count + 1, cs => do
    let (part, rest) ← simpleKey (skipGap cs)
    match skipGap rest with
    | '.' :: rest => do
      let (parts, rest) ← keyParts count rest
      return (part :: parts, rest)
    | rest => return ([part], rest)

/-- A dotted key: the parts that lead to a table, and the last one. -/
def dottedKey : Parser (List String × String) := fun cs => do
  let (parts, rest) ← keyParts maxNesting cs
  let last ← parts.getLast?
  return ((parts.dropLast, last), rest)

/-! ## Values -/

/-- A key with its value. -/
structure Pair where
  path : List String
  key : String
  value : Value

def pair (value : Parser Value) : Parser Pair := fun cs => do
  let ((path, key), rest) ← dottedKey cs
  match rest with
  | '=' :: rest => do
    let (v, rest) ← value (skipGap rest)
    return (⟨path, key, v⟩, rest)
  | _ => none

def insertAll : List Pair → List (String × Node) → Option (List (String × Node))
  | [], entries => some entries
  | p :: rest, entries => (Node.insert p.path p.key p.value entries).bind (insertAll rest)

/-- The items of an array, up to and including its closing bracket. -/
def arrayItems (value : Parser Value) : Nat → Parser (List Value)
  | 0, _ => none
  | count + 1, cs =>
    match skipLines false cs with
    | ']' :: rest => some ([], rest)
    | cs => do
      let (v, rest) ← value cs
      match skipLines false rest with
      | ',' :: rest => do
        let (items, rest) ← arrayItems value count rest
        return (v :: items, rest)
      | ']' :: rest => return ([v], rest)
      | _ => none

/-- The pairs of an inline table, at least one, up to and including its closing brace. -/
def inlinePairs (value : Parser Value) : Nat → Parser (List Pair)
  | 0, _ => none
  | count + 1, cs => do
    let (p, rest) ← pair value cs
    match skipGap rest with
    | ',' :: rest => do
      let (pairs, rest) ← inlinePairs value count rest
      return (p :: pairs, rest)
    | '\x7d' :: rest => return ([p], rest)
    | _ => none

def inlineTable (value : Parser Value) : Parser Value := fun cs =>
  match skipGap cs with
  | '\x7d' :: rest => some (.table [], rest)
  | _ => do
    let (pairs, rest) ← inlinePairs value cs.length cs
    let entries ← insertAll pairs []
    return (.table (Node.entryValues entries), rest)

/-- A value in which brackets nest at most `levels` deep. -/
def value : Nat → Parser Value
  | levels, cs =>
    match cs with
    | [] => none
    | '[' :: rest =>
      match levels with
      | 0 => none
      | levels + 1 => do
        let (items, rest) ← arrayItems (value levels) (rest.length + 1) rest
        return (.array items, rest)
    | '\x7b' :: rest =>
      match levels with
      | 0 => none
      | levels + 1 => inlineTable (value levels) rest
    | '\x22' :: _ => (string cs).map fun (s, rest) => (.string s, rest)
    | '\x27' :: _ => (string cs).map fun (s, rest) => (.string s, rest)
    | _ => scalar cs

/-! ## Lines -/

inductive Line where
  | blank
  | table (path : List String)
  | item (path : List String)
  | pair (pair : Pair)

/-- The keys of a header up to its closing text, and what follows them. -/
def header (close : List Char) : Parser (List String) := fun cs => do
  let (parts, rest) ← keyParts maxNesting cs
  let rest ← close.isPrefixOf? rest
  return (parts, rest)

/-- One line, its end included. -/
def line : Parser Line := fun cs =>
  match skipGap cs with
  | '[' :: '[' :: rest => do
    let (path, rest) ← header [']', ']'] rest
    return (.item path, ← lineEnd rest)
  | '[' :: rest => do
    let (path, rest) ← header [']'] rest
    return (.table path, ← lineEnd rest)
  | rest =>
    match lineEnd rest with
    | some rest => some (.blank, rest)
    | none => do
      let (p, rest) ← pair (value maxNesting) rest
      return (.pair p, ← lineEnd rest)

/-- All lines; there are at most `count`. -/
def lines : Nat → List Char → Option (List Line)
  | _, [] => some []
  | 0, _ => none
  | count + 1, cs => do
    let (first, rest) ← line cs
    let others ← lines count rest
    return first :: others

/-! ## Texts -/

/-- The pairs up to the next header, and the lines from it on. -/
def leadingPairs : List Line → List Pair × List Line
  | .pair p :: rest =>
    let (pairs, tail) := leadingPairs rest
    (p :: pairs, tail)
  | .blank :: rest => leadingPairs rest
  | ls => ([], ls)

/-- Add the sections that the lines consist of, a header and its pairs each; there are at
most `count`. -/
def sections : Nat → List Line → List (String × Node) → Option (List (String × Node))
  | _, [], entries => some entries
  | 0, _, _ => none
  | count + 1, l :: rest, entries =>
    let (pairs, tail) := leadingPairs rest
    match l with
    | .table path =>
      (Node.under (Node.placeTable (insertAll pairs)) path entries).bind (sections count tail)
    | .item path =>
      (Node.under (Node.placeItem (insertAll pairs)) path entries).bind (sections count tail)
    | _ => none

/-- A byte order mark at the start is not part of the text. -/
def dropMark : List Char → List Char
  | '\ufeff' :: rest => rest
  | cs => cs

def table? (text : String) : Option Value := do
  let cs := dropMark text.toList
  let ls ← lines cs.length cs
  let (pairs, tail) := leadingPairs ls
  let root ← insertAll pairs []
  let root ← sections tail.length tail root
  return .table (Node.entryValues root)

end SqlCatalog.Toml

namespace SqlCatalog

/-- The document of a TOML text; `none` when its syntax is wrong. -/
def Document.ofToml? (text : String) : Option Document :=
  (Toml.table? text).map Toml.Value.toDocument

end SqlCatalog
