-- SUMMARY: Reading a JSON text into a document.
import SqlCatalog.Document
import SqlCatalog.Json.Token

/-!
# Reading JSON

The tokens are taken one at a time. The open brackets form a stack, and between
two tokens it is known what may come next. Nesting has no limit here: how deep
a text may nest depends on which of its parts are read.
-/

namespace SqlCatalog.Json

/-- An open bracket, with what it holds so far (last first). -/
inductive Frame where
  | array (items : List Document)
  | member (members : List (Option String × Document)) (key : Option String)

/-- What may come next. -/
inductive Stage where
  | value (open_ : List Frame)
  | arrayStart (open_ : List Frame)
  | objectStart (open_ : List Frame)
  | key (members : List (Option String × Document)) (open_ : List Frame)
  | colon (members : List (Option String × Document)) (key : Option String) (open_ : List Frame)
  | after (done : Document) (open_ : List Frame)

namespace Stage

def stepValue (open_ : List Frame) : Token → Option Stage
  | .null => some (.after .null open_)
  | .bool b => some (.after (.bool b) open_)
  | .number n => some (.after (.number n) open_)
  | .string s => some (.after (.string s) open_)
  | .openArray => some (.arrayStart open_)
  | .openObject => some (.objectStart open_)
  | _ => none

def step : Stage → Token → Option Stage
  | .value open_, t => stepValue open_ t
  | .arrayStart open_, .closeArray => some (.after (.array []) open_)
  | .arrayStart open_, t => stepValue (.array [] :: open_) t
  | .objectStart open_, .closeObject => some (.after (.object []) open_)
  | .objectStart open_, .string k => some (.colon [] k open_)
  | .key members open_, .string k => some (.colon members k open_)
  | .colon members k open_, .colon => some (.value (.member members k :: open_))
  | .after d (.array items :: open_), .comma => some (.value (.array (d :: items) :: open_))
  | .after d (.array items :: open_), .closeArray =>
    some (.after (.array (d :: items).reverse) open_)
  | .after d (.member members k :: open_), .comma => some (.key ((k, d) :: members) open_)
  | .after d (.member members k :: open_), .closeObject =>
    some (.after (.object ((k, d) :: members).reverse) open_)
  | _, _ => none

def finish : Stage → Option Document
  | .after d [] => some d
  | _ => none

end Stage

def document? (ts : List Token) : Option Document :=
  (ts.foldlM Stage.step (.value [])).bind Stage.finish

end SqlCatalog.Json

namespace SqlCatalog

/-- The document of a JSON text; `none` when its syntax is wrong. -/
def Document.ofJson? (text : String) : Option Document :=
  (Json.tokens? text.toList).bind Json.document?

end SqlCatalog
