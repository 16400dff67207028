-- SUMMARY: Configuration: a file's settings under those of the command line.
import SqlCatalog.Command.Failure
import SqlCatalog.Command.Request
import SqlCatalog.Files
import SqlCatalog.Toml.Reading
import SqlCatalog.Document.Reader

/-!
# Configuration

The configuration file is the named one, or the nearest one upward from the
current directory. What the command line says comes first.
-/

namespace SqlCatalog.Command

structure Config where
  schema : List String
  directory : Option String
  dialect : Option String
  format : Option String
deriving DecidableEq, Repr

namespace Config

def empty : Config := ⟨[], none, none, none⟩

def read : Reader Config :=
  Reader.record ["schema", "schema_dir", "dialect", "format"] fun budget fs => do
    let schema ← fs.orElse "schema" [] (Reader.list Reader.string budget)
    let directory ← fs.orElse "schema_dir" none (Reader.optional Reader.string budget)
    let dialect ← fs.orElse "dialect" none (Reader.optional Reader.string budget)
    let format ← fs.orElse "format" none (Reader.optional Reader.string budget)
    return ⟨schema, directory, dialect, format⟩

def ofToml? (text : String) : Option Config :=
  (Document.ofToml? text).bind (read Reader.maxNesting)

/-- Let the command line override the file. -/
def override (c : Config) (source : Source) : Config where
  schema := if source.schema = [] then c.schema else source.schema
  directory := source.directory.or c.directory
  dialect := source.dialect.or c.dialect
  format := (source.format.map Format.name).or c.format

/-- A format that is not known is shown for humans. -/
def outputFormat (c : Config) : Format := (c.format.bind Format.ofText?).getD .human

def sqlDialect (c : Config) : Except Failure Sql.Dialect :=
  match c.dialect with
  | none => .ok .postgresql
  | some name => (Sql.Dialect.ofText name).mapError .dialect

variable {m : Type → Type} [Monad m]

def readFile (disk : Disk m) (path : String) : ExceptT Failure m Config := do
  match ← disk.read path with
  | none => throw (.unreadable path)
  | some text =>
    match ofToml? text with
    | none => throw (.badConfig path)
    | some config => return config

/-- The first of some directories' configuration files that exists. -/
def nearest? (disk : Disk m) : List String → m (Option String)
  | [] => return none
  | directory :: above => do
    let path := Path.join directory configName
    if (← disk.kind? path).isSome then return some path else nearest? disk above

def find? (disk : Disk m) (named : Option String) : m (Option String) := do
  match named with
  | some path => return some path
  | none => nearest? disk (Path.ancestors (← disk.currentDirectory))

/-- The configuration that a command line leads to. -/
def resolve (disk : Disk m) (source : Source) : ExceptT Failure m Config := do
  match ← (find? disk source.config : m _) with
  | none => return empty.override source
  | some path => return (← readFile disk path).override source

end Config

end SqlCatalog.Command
