-- SUMMARY: DDL statements as operations: the text of a table change spells what it does.
import Mathlib.Data.List.Basic
import SqlCatalog.Proofs.Lexer
import SqlCatalog.Sql.TableChange

/-!
# DDL operations

What a DDL statement asks of a database, read from its text alone. The reader
knows the statements' keywords and nothing of how names or column types came
about: an index is the name it has in the text, and a column is stored as the
tokens of its type and of its default say.
-/

namespace SqlCatalog.Sql

/-- How a column is stored. -/
structure Stored where
  type : List Token
  default : List Token
deriving DecidableEq

inductive Ddl where
  | createTable (table key : String) (keyType : List Token)
  | addColumn (table column : String) (stored : Stored)
  | dropColumn (table column : String)
  | addUnique (table constraint column : String)
  | dropConstraint (table constraint : String)
  | createIndex (index table column : String)
  | dropIndex (index : String)
deriving DecidableEq

/-! ## Reading -/

namespace Ddl

abbrev Parser (α : Type) : Type := StateT (List Token) Option α

namespace Parser

def exactly (expected : List Token) : Parser Unit := fun tokens =>
  (tokens.dropPrefix? expected).map fun rest => ((), rest)

def words (texts : List String) : Parser Unit := exactly (texts.map .word)

def name : Parser String
  | .identifier text :: rest => some (text, rest)
  | _ => none

/-- The tokens before the next `stop`, which is passed over. -/
def upTo (stop : Token) : Parser (List Token)
  | [] => none
  | token :: rest =>
    if token = stop then some ([], rest)
    else (upTo stop rest).map fun (before, after) => (token :: before, after)

def createTable : Parser Ddl := do
  words ["CREATE", "TABLE", "IF", "NOT", "EXISTS"]
  let table ← name
  exactly [.symbol '(']
  let key ← name
  let keyType ← upTo (.word "NOT")
  words ["NULL", "PRIMARY", "KEY"]
  exactly [.symbol ')', .symbol ';']
  return .createTable table key keyType

def createIndex : Parser Ddl := do
  words ["CREATE", "INDEX"]
  let index ← name
  words ["ON"]
  let table ← name
  exactly [.symbol '(']
  let column ← name
  exactly [.symbol ')', .symbol ';']
  return .createIndex index table column

def dropIndex : Parser Ddl := do
  words ["DROP", "INDEX"]
  let index ← name
  exactly [.symbol ';']
  return .dropIndex index

def addColumn (table : String) : Parser Ddl := do
  words ["ADD", "COLUMN"]
  let column ← name
  let type ← upTo (.word "NOT")
  words ["NULL", "DEFAULT"]
  let default ← upTo (.symbol ';')
  return .addColumn table column ⟨type, default⟩

def dropColumn (table : String) : Parser Ddl := do
  words ["DROP", "COLUMN"]
  let column ← name
  exactly [.symbol ';']
  return .dropColumn table column

def addUnique (table : String) : Parser Ddl := do
  words ["ADD", "CONSTRAINT"]
  let constraint ← name
  words ["UNIQUE"]
  exactly [.symbol '(']
  let column ← name
  exactly [.symbol ')', .symbol ';']
  return .addUnique table constraint column

def dropConstraint (table : String) : Parser Ddl := do
  words ["DROP", "CONSTRAINT"]
  let constraint ← name
  exactly [.symbol ';']
  return .dropConstraint table constraint

def alterTable : Parser Ddl := do
  words ["ALTER", "TABLE"]
  let table ← name
  addColumn table <|> dropColumn table <|> addUnique table <|> dropConstraint table

def statement : Parser Ddl := createTable <|> createIndex <|> dropIndex <|> alterTable

end Parser

/-- The operation a text spells, if it is one statement and nothing else. -/
def ofText? (text : String) : Option Ddl :=
  match Parser.statement (lex text) with
  | some (operation, []) => some operation
  | _ => none

end Ddl

/-! ## The statements of table changes -/

/-- One more piece that a delimiter ends, and fixed text after it. -/
theorem Closed.spelled {a b : String} {as bs : List Token} (ha : Closed a as) (hb : Spells b bs)
    (after : String) (afterTokens : List Token) (hstart : startsDelimited after)
    (hafter : Closed after afterTokens) : Closed (a ++ b ++ after) (as ++ bs ++ afterTokens) :=
  (ha.append_spells hb).append hstart hafter

theorem Closed.named {a : String} {as : List Token} (ha : Closed a as) (name after : String)
    (afterTokens : List Token) (hstart : startsDelimited after)
    (hafter : Closed after afterTokens) :
    Closed (a ++ identifier name ++ after) (as ++ [.identifier name] ++ afterTokens) :=
  ha.spelled (spells_identifier name) after afterTokens hstart hafter

/-- How columns of a type are stored. -/
def storedAs (type : ColumnType) : Stored where
  type := lex (storage type).type
  default := lex (storage type).default

theorem spells_storedType (type : ColumnType) :
    Spells (storage type).type (storedAs type).type := by
  intro c rest hc
  rcases isDelimiter_iff.1 hc with rfl | rfl | rfl | rfl <;> cases type <;> rfl

theorem spells_storedDefault (type : ColumnType) :
    Spells (storage type).default (storedAs type).default := by
  intro c rest hc
  rcases isDelimiter_iff.1 hc with rfl | rfl | rfl | rfl <;> cases type <;> rfl

namespace TableChange

/-- What a change asks of a database. -/
def operation : TableChange → Ddl
  | .createTable table => .createTable table idColumn (storedAs .primaryKey).type
  | .addColumn table column type => .addColumn table column (storedAs type)
  | .dropColumn table column => .dropColumn table column
  | .createIndex table column => .createIndex (indexName table column) table column
  | .dropIndex table column => .dropIndex (indexName table column)
  | .createUnique table column => .addUnique table (uniqueName table column) column
  | .dropUnique table column => .dropConstraint table (uniqueName table column)

def tokens : TableChange → List Token
  | .createTable table =>
    [.word "CREATE", .word "TABLE", .word "IF", .word "NOT", .word "EXISTS", .identifier table,
      .symbol '(', .identifier idColumn] ++ (storedAs .primaryKey).type ++
    [.word "NOT", .word "NULL", .word "PRIMARY", .word "KEY", .symbol ')', .symbol ';']
  | .addColumn table column type =>
    [.word "ALTER", .word "TABLE", .identifier table, .word "ADD", .word "COLUMN",
      .identifier column] ++ (storedAs type).type ++
    [.word "NOT", .word "NULL", .word "DEFAULT"] ++ (storedAs type).default ++ [.symbol ';']
  | .dropColumn table column =>
    [.word "ALTER", .word "TABLE", .identifier table, .word "DROP", .word "COLUMN",
      .identifier column, .symbol ';']
  | .createIndex table column =>
    [.word "CREATE", .word "INDEX", .identifier (indexName table column), .word "ON",
      .identifier table, .symbol '(', .identifier column, .symbol ')', .symbol ';']
  | .dropIndex table column =>
    [.word "DROP", .word "INDEX", .identifier (indexName table column), .symbol ';']
  | .createUnique table column =>
    [.word "ALTER", .word "TABLE", .identifier table, .word "ADD", .word "CONSTRAINT",
      .identifier (uniqueName table column), .word "UNIQUE", .symbol '(', .identifier column,
      .symbol ')', .symbol ';']
  | .dropUnique table column =>
    [.word "ALTER", .word "TABLE", .identifier table, .word "DROP", .word "CONSTRAINT",
      .identifier (uniqueName table column), .symbol ';']

theorem statement_tokens (change : TableChange) :
    Ddl.Parser.statement change.tokens = some (change.operation, []) := by
  cases change with
  | addColumn table column type => cases type <;> rfl
  | createTable table => rfl
  | dropColumn table column => rfl
  | createIndex table column => rfl
  | dropIndex table column => rfl
  | createUnique table column => rfl
  | dropUnique table column => rfl

theorem closed_render (change : TableChange) : Closed change.render change.tokens := by
  have halter : Closed "ALTER TABLE " [.word "ALTER", .word "TABLE"] := fun _ => rfl
  cases change with
  | createTable table =>
    have hcreate : Closed "CREATE TABLE IF NOT EXISTS "
        [.word "CREATE", .word "TABLE", .word "IF", .word "NOT", .word "EXISTS"] := fun _ => rfl
    have hkey := hcreate.named table " (" [.symbol '('] rfl fun _ => rfl
    have htype := hkey.named idColumn " " [] rfl fun _ => rfl
    exact htype.spelled (spells_storedType .primaryKey) " NOT NULL PRIMARY KEY);"
      [.word "NOT", .word "NULL", .word "PRIMARY", .word "KEY", .symbol ')', .symbol ';']
      rfl fun _ => rfl
  | addColumn table column type =>
    have hadd := halter.named table " ADD COLUMN " [.word "ADD", .word "COLUMN"] rfl fun _ => rfl
    have hcolumn := hadd.named column " " [] rfl fun _ => rfl
    have htype := hcolumn.spelled (spells_storedType type) " NOT NULL DEFAULT "
      [.word "NOT", .word "NULL", .word "DEFAULT"] rfl fun _ => rfl
    exact htype.spelled (spells_storedDefault type) ";" [.symbol ';'] rfl fun _ => rfl
  | dropColumn table column =>
    have hdrop := halter.named table " DROP COLUMN " [.word "DROP", .word "COLUMN"] rfl
      fun _ => rfl
    exact hdrop.named column ";" [.symbol ';'] rfl fun _ => rfl
  | createIndex table column =>
    have hcreate : Closed "CREATE INDEX " [.word "CREATE", .word "INDEX"] := fun _ => rfl
    have hon := hcreate.named (indexName table column) " ON " [.word "ON"] rfl fun _ => rfl
    have htable := hon.named table " (" [.symbol '('] rfl fun _ => rfl
    exact htable.named column ");" [.symbol ')', .symbol ';'] rfl fun _ => rfl
  | dropIndex table column =>
    have hdrop : Closed "DROP INDEX " [.word "DROP", .word "INDEX"] := fun _ => rfl
    exact hdrop.named (indexName table column) ";" [.symbol ';'] rfl fun _ => rfl
  | createUnique table column =>
    have hadd := halter.named table " ADD CONSTRAINT " [.word "ADD", .word "CONSTRAINT"] rfl
      fun _ => rfl
    have hunique := hadd.named (uniqueName table column) " UNIQUE (" [.word "UNIQUE", .symbol '(']
      rfl fun _ => rfl
    exact hunique.named column ");" [.symbol ')', .symbol ';'] rfl fun _ => rfl
  | dropUnique table column =>
    have hdrop := halter.named table " DROP CONSTRAINT " [.word "DROP", .word "CONSTRAINT"] rfl
      fun _ => rfl
    exact hdrop.named (uniqueName table column) ";" [.symbol ';'] rfl fun _ => rfl

/-- A statement spells the change it was written for. -/
theorem ofText?_render (change : TableChange) :
    Ddl.ofText? change.render = some change.operation := by
  rw [Ddl.ofText?, change.closed_render.lex, change.statement_tokens]

end TableChange

end SqlCatalog.Sql
