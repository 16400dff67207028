-- SUMMARY: SQL dialects by name.
import SqlCatalog.Text

/-!
# Dialects

The dialect is chosen by name, letter case aside. There is one so far; two
others are known by name but not supported.
-/

namespace SqlCatalog.Sql

inductive Dialect where
  | postgresql
deriving DecidableEq, Repr

namespace Dialect

def name : Dialect → String
  | .postgresql => "postgresql"

inductive Error where
  | unsupported (text : String)
  | unknown (text : String)
deriving DecidableEq, Repr

def Error.message : Error → String
  | .unsupported text =>
    text ++ " dialect is not yet supported. Supported dialects: postgresql."
  | .unknown text => "Unknown dialect: '" ++ text ++ "'. Supported dialects: postgresql."

def ofText (text : String) : Except Error Dialect :=
  let folded := String.ofList (text.toList.map Text.small)
  if folded ∈ ["postgresql", "postgres", "pg"] then .ok .postgresql
  else if folded ∈ ["mysql", "sqlite"] then .error (.unsupported text)
  else .error (.unknown text)

end Dialect

end SqlCatalog.Sql
