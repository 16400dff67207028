-- SUMMARY: Typed reading of documents: scalars, lists, dictionaries, keywords and records.
import SqlCatalog.Dict
import SqlCatalog.Document

/-!
# Readers

A reader turns a document into a value of some type, or refuses it. It may open
only so many nested brackets; the parts it skips do not count. No reader
converts between kinds: a number is not a string, and `null` is only accepted
where something optional is read.
-/

namespace SqlCatalog

/-- A reader, given how many nested brackets it may still open. -/
abbrev Reader (α : Type) := Nat → Document → Option α

namespace Reader

variable {α β : Type}

/-- The nesting that texts are read with. -/
def maxNesting : Nat := 127

def map (f : α → β) (r : Reader α) : Reader β := fun budget d => (r budget d).map f

/-- Read what is inside the document's bracket, if it has one. -/
def inside (r : Reader α) : Reader α
  | 0, d => if d.isNested then none else r 0 d
  | budget + 1, d => r budget d

/-! ## Scalars -/

def string : Reader String
  | _, .string s => s
  | _, _ => none

def bool : Reader Bool
  | _, .bool b => some b
  | _, _ => none

/-- A whole number within 64 bits, sign included. -/
def int64 : Reader Int64
  | _, .number (some (.int value _)) =>
    if -9223372036854775808 ≤ value ∧ value < 9223372036854775808 then some (Int64.ofInt value)
    else none
  | _, _ => none

/-- `null` stands for nothing. -/
def optional (r : Reader α) : Reader (Option α)
  | _, .null => some none
  | budget, d => (r budget d).map some

/-! ## Lists and dictionaries -/

def list (r : Reader α) : Reader (List α) :=
  inside fun budget d =>
    match d with
    | .array items => items.mapM (r budget)
    | _ => none

def member (r : Document → Option α) : Option String × Document → Option (String × α)
  | (some key, d) => (r d).map (key, ·)
  | (none, _) => none

/-- Every member under its key, a repeated key keeping its first place and its last value. -/
def dict (r : Reader α) : Reader (Dict α) :=
  inside fun budget d =>
    match d with
    | .object members => (members.mapM (member (r budget))).map Dict.ofList
    | _ => none

/-! ## Keywords -/

/-- One of the given keywords: as a string, or as an object with that one key and `null`. -/
def keyword (words : List (String × α)) : Reader α :=
  inside fun _ d =>
    match d with
    | .string (some w) => Entries.find? w words
    | .object [(some w, .null)] => Entries.find? w words
    | _ => none

/-! ## Records -/

/-- The fields found for a record; `positional` when they were listed without names. -/
structure Fields where
  positional : Bool
  found : List (String × Document)

/-- The known members, none given twice; members with other names are skipped. -/
def namedFields (names : List String) :
    List (Option String × Document) → Option (List (String × Document))
  | [] => some []
  | (none, _) :: _ => none
  | (some k, d) :: rest =>
    match namedFields names rest with
    | none => none
    | some found =>
      if k ∈ names then
        if k ∈ Entries.keys found then none else some ((k, d) :: found)
      else some found

/-- The fields of a record with the given field names: an object, or an array that
lists the values of the first fields in order. -/
def fields (names : List String) : Document → Option Fields
  | .object members => (namedFields names members).map (⟨false, ·⟩)
  | .array items => if items.length ≤ names.length then some ⟨true, names.zip items⟩ else none
  | _ => none

/-- Read a record: `body` gets the fields, and the nesting left for each of them. -/
def record (names : List String) (body : Nat → Fields → Option α) : Reader α :=
  inside fun budget d => (fields names d).bind (body budget)

namespace Fields

/-- A field that must be there. -/
def required (fs : Fields) (name : String) (r : Document → Option α) : Option α :=
  (Entries.find? name fs.found).bind r

/-- A field with a default. -/
def orElse (fs : Fields) (name : String) (default : α) (r : Document → Option α) : Option α :=
  match Entries.find? name fs.found with
  | none => some default
  | some d => r d

/-- A field that may be left out by name, but not from a list of values. -/
def optional (fs : Fields) (name : String) (r : Document → Option α) : Option (Option α) :=
  match Entries.find? name fs.found with
  | none => if fs.positional then none else some none
  | some .null => some none
  | some d => (r d).map some

end Fields

end Reader

end SqlCatalog
