-- SUMMARY: TOML values, and the documents they are.
import SqlCatalog.Document

/-!
# TOML values

A date or a time is kept without its parts: nothing here reads them. In a
document it stands as an object with a single member that no record knows.
-/

namespace SqlCatalog.Toml

inductive Value where
  | string (value : String)
  | integer (value : Int)
  | float (value : Option Binary64)
  | boolean (value : Bool)
  | moment
  | array (items : List Value)
  | table (entries : List (String × Value))

namespace Value

instance : Inhabited Value := ⟨.moment⟩

mutual

def toDocument : Value → Document
  | .string s => .string (some s)
  | .integer n => .number (Json.Number.ofInt? n)
  | .float x => .number (x.map .float)
  | .boolean b => .bool b
  | .moment => .object [(some "", .null)]
  | .array items => .array (itemDocuments items)
  | .table entries => .object (memberDocuments entries)

def itemDocuments : List Value → List Document
  | [] => []
  | v :: rest => toDocument v :: itemDocuments rest

def memberDocuments : List (String × Value) → List (Option String × Document)
  | [] => []
  | (k, v) :: rest => (some k, toDocument v) :: memberDocuments rest

end

end Value

/-- A parser takes what it recognises off the front of the text. -/
abbrev Parser (α : Type) := List Char → Option (α × List Char)

end SqlCatalog.Toml
