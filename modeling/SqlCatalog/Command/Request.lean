-- SUMMARY: What a command line asks for.

/-!
# Requests

There are three tasks. All of them work on a catalog and share the settings
that say where its declarations are and how results are shown.
-/

namespace SqlCatalog.Command

inductive Format where
  | human
  | json
deriving DecidableEq, Repr

def Format.ofText? : String → Option Format
  | "human" => some .human
  | "json" => some .json
  | _ => none

def Format.name : Format → String
  | .human => "human"
  | .json => "json"

/-- Where declarations come from and how results are shown, as far as it is said. -/
structure Source where
  schema : List String
  directory : Option String
  config : Option String
  dialect : Option String
  format : Option Format
deriving DecidableEq, Repr

inductive Subcommand where
  | ddl
  | schema
  | compile
deriving DecidableEq, Repr

namespace Subcommand

def all : List Subcommand := [.ddl, .schema, .compile]

def name : Subcommand → String
  | .ddl => "ddl"
  | .schema => "schema"
  | .compile => "compile"

def ofText? (text : String) : Option Subcommand := all.find? fun c => c.name = text

end Subcommand

inductive Task where
  /-- Print the statements that create the tables or move them on from previous ones. -/
  | ddl (previous : List String) (table : Option String)
  /-- Print the catalog. -/
  | schema
  /-- Print a query file as a statement. -/
  | compile (query table view : String)
deriving DecidableEq, Repr

structure Invocation where
  source : Source
  task : Task
  quiet : Bool
deriving DecidableEq, Repr

inductive Request where
  | run (invocation : Invocation)
  | version (subcommand : Option Subcommand)
  | help (subcommand : Option Subcommand)
  /-- The command line makes no sense. -/
  | misuse
deriving DecidableEq, Repr

end SqlCatalog.Command
