-- SUMMARY: Documents: what a well-formed JSON or TOML text says, before any type is expected of it.
import SqlCatalog.Json.Number

/-!
# Documents

The tree of a text whose syntax is right. Two things are only demanded of the
parts that are read, so a document can lack them: the value of a number
(`none` when it is out of range) and the value of a string (`none` when an
escape leaves half of a surrogate pair). Objects list their members as
written, repetitions included.
-/

namespace SqlCatalog

inductive Document where
  | null
  | bool (value : Bool)
  | number (value : Option Json.Number)
  | string (value : Option String)
  | array (items : List Document)
  | object (members : List (Option String × Document))

namespace Document

instance : Inhabited Document := ⟨.null⟩

/-- Whether reading the document opens a bracket. -/
def isNested : Document → Bool
  | .array _ => true
  | .object _ => true
  | _ => false

end Document

end SqlCatalog
