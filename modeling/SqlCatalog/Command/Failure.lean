-- SUMMARY: What ends a run, and what is said beside the result.
import SqlCatalog.Error
import SqlCatalog.Sql.Dialect
import SqlCatalog.Text.Escaped

/-!
# Failures

A failure ends the run. Errors in declarations do not: all of them are
reported.
-/

namespace SqlCatalog.Command

/-- The configuration file that is looked for. -/
def configName : String := "capidb.toml"

inductive Failure where
  | unreadable (path : String)
  | badConfig (path : String)
  | badPattern (pattern : String)
  | badQuery (path : String)
  | noSchemaFiles
  | dialect (error : Sql.Dialect.Error)
  | undeclaredTable (name : String)
  | query (error : QueryError)
deriving DecidableEq, Repr

namespace Failure

open Diagnosis (quote)

def message : Failure → String
  | .unreadable path => "cannot read " ++ quote path
  | .badConfig path => "invalid configuration file " ++ quote path
  | .badPattern pattern => "invalid pattern " ++ quote pattern
  | .badQuery path => "invalid query file " ++ quote path
  | .noSchemaFiles =>
    "No schema files specified. Use --schema, --schema-dir, or configure in " ++ configName
  | .dialect error => error.message
  | .undeclaredTable name => "Table " ++ quote name ++ " is not declared"
  | .query error => error.diagnosis.message

def code? : Failure → Option String
  | .query error => some error.diagnosis.code
  | _ => none

def help? : Failure → Option String
  | .query error => error.diagnosis.help
  | _ => none

end Failure

/-- An error in a declaration, with the file it stands in. -/
structure FileError where
  file : String
  error : SchemaError
deriving DecidableEq, Repr

inductive Diagnostic where
  | declaration (error : FileError)
  /-- How many declaration errors there were. -/
  | errorCount (count : Nat)
  | failure (failure : Failure)
  /-- A table that is no longer declared. -/
  | leftInPlace (table : String)
deriving DecidableEq, Repr

namespace Diagnostic

def headline (code? : Option String) (message : String) : String :=
  match code? with
  | some code => code ++ ": " ++ message
  | none => message

def advice : Option String → List String
  | some help => ["  help: " ++ help]
  | none => []

def leftInPlaceMessage (table : String) : String :=
  "Table no longer declared; it is left in place table=" ++ Text.doubleQuoted table

def errorCountMessage (count : Nat) : String :=
  "Found " ++ toString count ++ " error(s) in table declarations"

/-- The diagnostic as lines of text. -/
def lines : Diagnostic → List String
  | .declaration e =>
    let d := e.error.diagnosis
    ["  --> " ++ e.file, headline (some d.code) d.message] ++ advice d.help
  | .errorCount count => [errorCountMessage count]
  | .failure f => ["Error: " ++ headline f.code? f.message] ++ advice f.help?
  | .leftInPlace table => ["WARN " ++ leftInPlaceMessage table]

end Diagnostic

/-- What a run leaves behind. -/
structure Outcome where
  exit : Nat
  output : String
  diagnostics : List Diagnostic
deriving DecidableEq, Repr

end SqlCatalog.Command
