-- SUMMARY: Dictionaries as JSON values, and any document as one.
import SqlCatalog.Document.Reader
import SqlCatalog.Json.Reading
import SqlCatalog.Json.Value

/-!
# Values and documents

Dictionaries become objects. Reading, a value keeps everything a document says,
except that of two members with one key the last value stays, at the place of the
first.
-/

namespace SqlCatalog.Json.Value

def ofDict {α : Type} (f : α → Value) (d : Dict α) : Value :=
  .object (d.entries.map fun e => (e.1, f e.2))

def read : Reader Value
  | _, .null => some .null
  | _, .bool b => some (.bool b)
  | _, .number n => n.map .number
  | _, .string s => s.map .string
  | 0, .array _ => none
  | 0, .object _ => none
  | budget + 1, .array items => (items.mapM (read budget)).map .array
  | budget + 1, .object members =>
    (members.mapM (Reader.member (read budget))).map
      (fun entries => .object (entries.foldl (fun es e => Entries.put e.1 e.2 es) []))

def ofJson? (text : String) : Option Value :=
  (Document.ofJson? text).bind (read Reader.maxNesting)

end SqlCatalog.Json.Value
