-- SUMMARY: How results are shown, for humans and as JSON.
import SqlCatalog.Catalog.Json
import SqlCatalog.Command.Failure
import SqlCatalog.Command.Request
import SqlCatalog.Query.Select

/-!
# Reports

Every result has two forms: lines for humans, and an indented JSON document.
-/

namespace SqlCatalog.Command

/-- Lines of text, each ended by a newline. -/
def ofLines (lines : List String) : String := String.join (lines.map (· ++ "\n"))

/-- A JSON document on lines of its own. -/
def ofJson (v : Json.Value) : String := v.pretty ++ "\n"

/-! ## Statements per table -/

structure TablePlan where
  table : String
  statements : List String
deriving DecidableEq, Repr

namespace TablePlan

def lines (p : TablePlan) : List String := ["-- " ++ p.table] ++ p.statements ++ [""]

def toJson (p : TablePlan) : Json.Value :=
  .object [("table", .string p.table), ("statements", .strings p.statements)]

def report (format : Format) (plans : List TablePlan) : String :=
  match format with
  | .human => ofLines (plans.flatMap lines)
  | .json => ofJson (.array (plans.map toJson))

end TablePlan

/-! ## Catalogs -/

def columnFlags (c : Column) : List String :=
  (if c.required then ["required"] else []) ++ (if c.unique then ["unique"] else []) ++
    (if c.indexed then ["index"] else []) ++ (if c.orderable then ["order"] else [])

def columnLink (c : Column) : String :=
  match c.linkedTable with
  | some table => " -> " ++ table
  | none => ""

def columnLine (c : Column) : String :=
  "  - " ++ c.name ++ " " ++ c.type.tag ++ columnLink c ++
    " [" ++ ",".intercalate (columnFlags c) ++ "] query(" ++
    " ".intercalate (c.queryable.members.map Operator.symbol) ++ ")"

def viewLine (v : View) : String :=
  "  view " ++ v.name ++ " ttl=" ++ toString v.cacheSeconds.toInt ++ "s hash=" ++ v.identity ++
    ": " ++ ", ".intercalate (v.columns.map ViewColumn.signature)

def tableLines (t : Table) : List String :=
  ["", "Table: " ++ t.name ++ " (" ++ t.space ++ ")"] ++ t.columns.values.map columnLine ++
    t.views.values.map viewLine

def catalogLines (c : Catalog) : List String :=
  ["Schema Information:", "=================="] ++ c.tables.values.flatMap tableLines

def catalogReport (format : Format) (c : Catalog) : String :=
  match format with
  | .human => ofLines (catalogLines c)
  | .json => ofJson c.toJson

/-! ## Compiled queries -/

/-- The values, each beside the placeholder that stands for it. -/
def argumentLines (args : List Json.Value) : List String :=
  args.zipIdx.map fun (v, i) => "  $" ++ toString (i + 1) ++ " = " ++ v.render

def statementReport (format : Format) (s : Statement) : String :=
  match format with
  | .human => ofLines (s.sql :: argumentLines s.args)
  | .json => ofJson s.toJson

/-! ## Declaration errors -/

def FileError.toJson (e : FileError) : Json.Value :=
  .object [("file", .string e.file), ("code", .string e.error.diagnosis.code),
    ("message", .string e.error.diagnosis.message)]

/-- Declaration errors are diagnostics for humans, and a result as JSON. -/
def errorOutcome (format : Format) (errors : List FileError) : Outcome :=
  match format with
  | .human => ⟨1, "", errors.map .declaration ++ [.errorCount errors.length]⟩
  | .json => ⟨1, ofJson (.object [("errors", .array (errors.map FileError.toJson))]), []⟩

end SqlCatalog.Command
