-- SUMMARY: How columns are stored: physical types, defaults, and the names of indexes and constraints.
import SqlCatalog.ColumnType

/-!
# Storage

The physical type and default of each column type, and the names that indexes
and uniqueness constraints get.
-/

namespace SqlCatalog.Sql

/-- The name of the primary key column. -/
def idColumn : String := "id"

/-- The table that keeps one metadata document per service. -/
def metaTable : String := "__capidb_meta__"

structure Storage where
  type : String
  default : String
deriving DecidableEq, Repr

def storage : ColumnType → Storage
  | .primaryKey => ⟨"varchar(64)", "''"⟩
  | .bool => ⟨"boolean", "false"⟩
  | .int64 => ⟨"bigint", "0"⟩
  | .float64 => ⟨"double precision", "0"⟩
  | .bytes => ⟨"bytea", "''"⟩
  | .string16 => ⟨"varchar(16)", "''"⟩
  | .string32 => ⟨"varchar(32)", "''"⟩
  | .string64 => ⟨"varchar(64)", "''"⟩
  | .string256 => ⟨"varchar(256)", "''"⟩
  | .string => ⟨"text", "''"⟩
  | .stringList => ⟨"text", "'[]'"⟩
  | .stringMap => ⟨"text", "'\x7b\x7d'"⟩
  | .linkedKey => ⟨"varchar(64)", "''"⟩
  | .linkedKeyList => ⟨"text", "'[]'"⟩
  | .linkedKeyMap => ⟨"text", "'\x7b\x7d'"⟩

def indexName (table column : String) : String := table ++ "__index__" ++ column

def uniqueName (table column : String) : String := table ++ "__unique__" ++ column

end SqlCatalog.Sql
