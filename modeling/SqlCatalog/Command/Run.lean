-- SUMMARY: Carrying out the tasks of the command line.
import SqlCatalog.Command.Loading
import SqlCatalog.Command.Report
import SqlCatalog.Migration
import SqlCatalog.Query.Json
import SqlCatalog.Query.Permission
import SqlCatalog.Sql.Database

/-!
# Running

Each task loads what it needs and then computes its result from it. A failure
ends the run with exit code 2, errors in declarations with 1.
-/

namespace SqlCatalog.Command

/-! ## Results -/

/-- The statements for each table that needs some, after those for the whole database. -/
def tablePlans (previous : Option Catalog) (next : Catalog) (only : Option String) :
    List TablePlan :=
  let start := match previous with
    | none => [⟨"(meta)", [Sql.DatabaseCommand.createMetadata.render]⟩]
    | some _ => []
  let chosen := next.tables.values.filter fun t => only.all fun name => name = t.name
  let plans := chosen.map fun t =>
    TablePlan.mk t.name (Migration.statements (previous.bind fun p => p.table? t.name) t)
  start ++ plans.filter fun p => !p.statements.isEmpty

/-- The tables that are no longer declared. -/
def leftInPlace (previous : Option Catalog) (next : Catalog) : List String :=
  match previous with
  | none => []
  | some previous => previous.tableNames.filter fun name => !next.contains name

def ddl (format : Format) (quiet : Bool) (previous : Option Catalog) (next : Catalog)
    (only : Option String) : Except Failure Outcome :=
  match only.filter fun name => !next.contains name with
  | some name => .error (.undeclaredTable name)
  | none =>
    let warnings := if quiet then [] else (leftInPlace previous next).map .leftInPlace
    .ok ⟨0, TablePlan.report format (tablePlans previous next only), warnings⟩

/-- The statement of a query on a view, if the catalog permits it. -/
def compile (catalog : Catalog) (table view : String) (q : Query) :
    Except QueryError Statement := do
  let (t, v) ← catalog.resolveView table view
  q.check catalog t.name
  Statement.select t.name v q

/-! ## Tasks -/

variable {m : Type → Type} [Monad m]

/-- Load files and go on with their catalog, or report their errors. -/
def withCatalog (disk : Disk m) (format : Format) (files : List SchemaFile)
    (body : Catalog → ExceptT Failure m Outcome) : ExceptT Failure m Outcome := do
  match ← Loaded.ofDisk disk files with
  | .accepted catalog => body catalog
  | .refused errors => return errorOutcome format errors

def runDdl (disk : Disk m) (config : Config) (quiet : Bool) (previous : List String)
    (only : Option String) : ExceptT Failure m Outcome := do
  let format := config.outputFormat
  withCatalog disk format (← config.schemaFiles disk) fun next =>
    match previous with
    | [] => (ddl format quiet none next only : Except Failure Outcome)
    | files =>
      withCatalog disk format (files.map .named) fun previous =>
        (ddl format quiet (some previous) next only : Except Failure Outcome)

def runSchema (disk : Disk m) (config : Config) : ExceptT Failure m Outcome := do
  let format := config.outputFormat
  withCatalog disk format (← config.schemaFiles disk) fun catalog =>
    return ⟨0, catalogReport format catalog, []⟩

def runCompile (disk : Disk m) (config : Config) (query table view : String) :
    ExceptT Failure m Outcome := do
  let format := config.outputFormat
  withCatalog disk format (← config.schemaFiles disk) fun catalog => do
    match ← disk.read query with
    | none => throw (.unreadable query)
    | some text =>
      match Query.ofJson? text with
      | none => throw (.badQuery query)
      | some q =>
        match compile catalog table view q with
        | .error error => throw (.query error)
        | .ok statement => return ⟨0, statementReport format statement, []⟩

/-- The dialect is looked at before any declaration, where statements are asked for. -/
def runTask (disk : Disk m) (i : Invocation) : ExceptT Failure m Outcome := do
  let config ← Config.resolve disk i.source
  match i.task with
  | .ddl previous only =>
    let _ ← (config.sqlDialect : Except Failure Sql.Dialect)
    runDdl disk config i.quiet previous only
  | .schema => runSchema disk config
  | .compile query table view =>
    let _ ← (config.sqlDialect : Except Failure Sql.Dialect)
    runCompile disk config query table view

def Outcome.ofFailure (f : Failure) : Outcome := ⟨2, "", [.failure f]⟩

def run (disk : Disk m) (i : Invocation) : m Outcome := do
  match ← (runTask disk i).run with
  | .ok outcome => return outcome
  | .error f => return Outcome.ofFailure f

end SqlCatalog.Command
