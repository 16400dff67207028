-- SUMMARY: What can be wrong with a query or a declaration, and how it is told.
import SqlCatalog.Declaration
import SqlCatalog.Operator

/-!
# Errors

Errors are values that say what went wrong. A diagnosis is the wording of one: a
code, a message and sometimes advice.
-/

namespace SqlCatalog

structure Diagnosis where
  code : String
  message : String
  help : Option String
deriving DecidableEq, Repr

namespace Diagnosis

def plain (code message : String) : Diagnosis := ⟨code, message, none⟩

def withHelp (code message help : String) : Diagnosis := ⟨code, message, some help⟩

/-- A name between single quotes. -/
def quote (name : String) : String := "'" ++ name ++ "'"

end Diagnosis

/-! ## Queries

Compiling refuses predicates of the wrong shape; checking against a catalog
also refuses unknown names and operations a column does not allow. -/

/-- How deep child queries may nest. -/
def Query.maxNesting : Nat := 16

inductive QueryError where
  | zeroStartPosition
  | invalidInValue (column : String) (operator : Operator) (found : String)
  | nonScalarInElement (column : String) (operator : Operator) (found : String)
  | emptyInList (column : String) (operator : Operator)
  | missingChild (table : String)
  | unexpectedChild (column : String) (operator : Operator)
  | emptyChild (table : String)
  | nestingTooDeep
  | unknownTable (table : String)
  | unknownColumn (table column : String)
  | operatorNotAllowed (table column : String) (operator : Operator)
  | notOrderable (table column : String)
  | unknownView (table view : String)
deriving DecidableEq, Repr

namespace QueryError

open Diagnosis (quote plain withHelp)

def diagnosis : QueryError → Diagnosis
  | .zeroStartPosition => plain "E0200" "placeholder positions start at 1"
  | .invalidInValue column operator found =>
    plain "E0201" ("invalid " ++ operator.symbol ++ " value for column " ++ quote column ++
      ": expected an array, found " ++ found)
  | .nonScalarInElement column operator found =>
    plain "E0202" ("invalid " ++ operator.symbol ++ " element for column " ++ quote column ++
      ": expected a scalar, found " ++ found)
  | .emptyInList column operator =>
    withHelp "E0203" ("empty " ++ operator.symbol ++ " list for column " ++ quote column)
      "an empty list never matches; drop the predicate instead"
  | .missingChild table =>
    plain "E0204" ("child predicate on " ++ quote table ++ " has no child query")
  | .unexpectedChild column operator =>
    plain "E0205" ("predicate on " ++ quote column ++ " uses operator " ++ operator.symbol ++
      " but carries a child query")
  | .emptyChild table => plain "E0206" ("child query on " ++ quote table ++ " has no predicates")
  | .nestingTooDeep =>
    plain "E0207" ("child queries nested deeper than " ++ toString Query.maxNesting ++ " levels")
  | .unknownTable table => plain "E0210" ("unknown table " ++ quote table)
  | .unknownColumn table column => plain "E0211" (table ++ ": unknown column " ++ quote column)
  | .operatorNotAllowed table column operator =>
    plain "E0212" (table ++ ": column " ++ quote column ++ " does not allow operator " ++
      operator.symbol)
  | .notOrderable table column =>
    plain "E0213" (table ++ ": column " ++ quote column ++ " is not orderable")
  | .unknownView table view => plain "E0214" (table ++ ": unknown view " ++ quote view)

end QueryError

/-! ## Declarations

A declaration is refused for one reason, the first one found. Dangling links
are found when all declarations are in. -/

inductive SchemaError where
  | malformed
  | emptyTableName
  | invalidColumnType (table column type : String)
  | misplacedPrimaryKey (table column : String)
  | invalidIdColumn (table type : String)
  | unknownQueryOperator (table column operator : String)
  | unsupportedVersion (table version : String)
  | emptyView (table view : String)
  | viewColumnNotFound (table view column : String)
  | invalidViewColumn (table view entry : String)
  | linkOnPlainColumn (table view column : String)
  | invalidLifetime (table view text : String)
  | duplicateTable (name : String)
  | danglingLinkTable (table column linkedTable : String)
  | danglingLinkView (table view column linkedTable linkedView : String)
deriving DecidableEq, Repr

namespace SchemaError

open Diagnosis (quote plain withHelp)

def typesHelp : String :=
  "valid types are PK, Bool, Int64, Float64, Bytes, String, String16, String32, String64, " ++
    "String256, List<String>, Map<String>, DB.<table>, List<DB.<table>> and Map<DB.<table>>"

/-- The place of a column of a view, as messages name it. -/
def viewPlace (table view : String) : String := table ++ ": views." ++ view

def diagnosis : SchemaError → Diagnosis
  | .malformed => plain "E0100" "failed to parse declaration: malformed document"
  | .emptyTableName => plain "E0100" "failed to parse declaration: table name is empty"
  | .invalidColumnType table column type =>
    withHelp "E0101"
      (table ++ ": column " ++ quote column ++ " has invalid type " ++ quote type) typesHelp
  | .misplacedPrimaryKey table column =>
    withHelp "E0102" (table ++ ": column " ++ quote column ++ " cannot use the primary key type")
      "only the 'id' column may be declared as PK"
  | .invalidIdColumn table type =>
    plain "E0103" (table ++ ": column 'id' must be declared as PK, found " ++ quote type)
  | .unknownQueryOperator table column operator =>
    plain "E0104"
      (table ++ ": column " ++ quote column ++ " lists unknown query operator " ++ quote operator)
  | .unsupportedVersion table version =>
    withHelp "E0105" (table ++ ": unsupported declaration version " ++ quote version)
      ("table declarations use version \"" ++ Declaration.currentVersion ++ "\"")
  | .emptyView table view => plain "E0110" (viewPlace table view ++ " has no columns")
  | .viewColumnNotFound table view column =>
    plain "E0111" (viewPlace table view ++ " column " ++ quote column ++ " not found")
  | .invalidViewColumn table view entry =>
    withHelp "E0112" (viewPlace table view ++ " column entry " ++ quote entry ++ " is invalid")
      "use 'column' or 'column@linkedView'"
  | .linkOnPlainColumn table view column =>
    plain "E0113" (viewPlace table view ++ " column " ++ quote column ++
      " is not a linked key and cannot follow a view")
  | .invalidLifetime table view text =>
    withHelp "E0114" (viewPlace table view ++ " cache " ++ quote text ++ " is invalid")
      "use a duration such as '30s', '5m', '1h30m' or '1d'"
  | .duplicateTable name => plain "E0120" ("duplicate table " ++ quote name)
  | .danglingLinkTable table column linkedTable =>
    plain "E0121"
      (table ++ ": column " ++ quote column ++ " links to unknown table " ++ quote linkedTable)
  | .danglingLinkView table view column linkedTable linkedView =>
    plain "E0122" (viewPlace table view ++ " column " ++ quote column ++
      " links to unknown view " ++ quote (linkedTable ++ "." ++ linkedView))

end SchemaError

end SqlCatalog
