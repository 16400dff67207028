-- SUMMARY: Loading declaration files into a catalog.
import SqlCatalog.Command.Config
import SqlCatalog.Files.Search
import SqlCatalog.Schema.Draft

/-!
# Loading

Declaration files are named one by one or discovered in a directory. Among the
discovered ones, those without the version of a declaration are skipped. A file
that cannot be read ends the run; errors in declarations are collected.
-/

namespace SqlCatalog.Command

structure SchemaFile where
  path : String
  discovered : Bool
deriving DecidableEq, Repr

namespace SchemaFile

def named (path : String) : SchemaFile := ⟨path, false⟩

def found (path : String) : SchemaFile := ⟨path, true⟩

def isToml (f : SchemaFile) : Bool :=
  (Path.extension? f.path).any fun ext => ext.toList.map Char.toLower = "toml".toList

def header? (f : SchemaFile) (text : String) : Option Header :=
  if f.isToml then Header.ofToml? text else Header.ofJson? text

def declaration? (f : SchemaFile) (text : String) : Option Declaration :=
  if f.isToml then Declaration.ofToml? text else Declaration.ofJson? text

/-- Whether the file counts: a discovered file has to say that it is a declaration. -/
def isKept (f : SchemaFile) (text : String) : Bool :=
  !f.discovered || (f.header? text).any Header.isDeclaration

end SchemaFile

/-! ## From texts to a catalog -/

inductive Loaded where
  | accepted (catalog : Catalog)
  | refused (errors : List FileError)

namespace Loaded

/-- The file that stands for the schema as a whole. -/
def schemaLabel : String := "(schema)"

/-- The texts of all files, or the first file without one. -/
def texts : List (SchemaFile × Option String) → Except Failure (List (SchemaFile × String))
  | [] => .ok []
  | (f, none) :: _ => .error (.unreadable f.path)
  | (f, some text) :: rest => (texts rest).map ((f, text) :: ·)

/-- Add the files in order, and collect the errors. A refused file leaves no trace. -/
def addAll (draft : Draft) : List (SchemaFile × String) → Draft × List FileError
  | [] => (draft, [])
  | (f, text) :: rest =>
    match draft.addRead (f.declaration? text) with
    | .ok (_, draft) => addAll draft rest
    | .error error =>
      let (draft, errors) := addAll draft rest
      (draft, ⟨f.path, error⟩ :: errors)

/-- The links are only checked when no file was refused. -/
def finish (draft : Draft) : List FileError → Loaded
  | [] =>
    match draft.build with
    | .ok catalog => .accepted catalog
    | .error errors => .refused (errors.map fun error => ⟨schemaLabel, error⟩)
  | errors => .refused errors

def ofTexts (files : List (SchemaFile × String)) : Loaded :=
  let (draft, errors) := addAll .empty (files.filter fun (f, text) => f.isKept text)
  finish draft errors

/-- Load files, given with their texts as far as they can be read. -/
def load (files : List (SchemaFile × Option String)) : Except Failure Loaded :=
  if files.isEmpty then .error .noSchemaFiles else (texts files).map ofTexts

end Loaded

/-! ## From a disk -/

variable {m : Type → Type} [Monad m]

namespace Config

/-- The files below a directory with a certain extension. -/
def discover (disk : Disk m) (directory extension : String) : ExceptT Failure m (List SchemaFile) := do
  let pattern := directory ++ "/**/*." ++ extension
  match ← (Search.expand disk pattern : m _) with
  | none => throw (.badPattern pattern)
  | some paths => return paths.map .found

/-- The named files, then those discovered. -/
def schemaFiles (disk : Disk m) (c : Config) : ExceptT Failure m (List SchemaFile) := do
  let named := c.schema.map SchemaFile.named
  match c.directory with
  | none => return named
  | some directory =>
    let jsonFiles ← discover disk directory "json"
    let tomlFiles ← discover disk directory "toml"
    return named ++ jsonFiles ++ tomlFiles

end Config

def SchemaFile.withText (disk : Disk m) (f : SchemaFile) : m (SchemaFile × Option String) := do
  return (f, ← disk.read f.path)

def Loaded.ofDisk (disk : Disk m) (files : List SchemaFile) : ExceptT Failure m Loaded := do
  let files ← (files.mapM (SchemaFile.withText disk) : m _)
  match load files with
  | .ok loaded => return loaded
  | .error failure => throw failure

end SqlCatalog.Command
