-- SUMMARY: Column types: tags, names, and the types that declarations may write.
import SqlCatalog.TableName

/-!
# Column types

Every column has one of fifteen types. Twelve are written by their tag. The
three link types are written through the table they link to: `DB.shop.users`,
`List<DB.shop.users>` or `Map<DB.shop.users>`.
-/

namespace SqlCatalog

inductive ColumnType where
  | primaryKey
  | bool
  | int64
  | float64
  | bytes
  | string16
  | string32
  | string64
  | string256
  | string
  | stringList
  | stringMap
  | linkedKey
  | linkedKeyList
  | linkedKeyMap
deriving DecidableEq, Repr

namespace ColumnType

def all : List ColumnType :=
  [.primaryKey, .bool, .int64, .float64, .bytes, .string16, .string32, .string64, .string256,
   .string, .stringList, .stringMap, .linkedKey, .linkedKeyList, .linkedKeyMap]

theorem mem_all (t : ColumnType) : t ∈ all := by cases t <;> decide

def tag : ColumnType → String
  | .primaryKey => "PK"
  | .bool => "Bool"
  | .int64 => "Int64"
  | .float64 => "Float64"
  | .bytes => "Bytes"
  | .string16 => "String16"
  | .string32 => "String32"
  | .string64 => "String64"
  | .string256 => "String256"
  | .string => "String"
  | .stringList => "List<String>"
  | .stringMap => "Map<String>"
  | .linkedKey => "LK"
  | .linkedKeyList => "LKList"
  | .linkedKeyMap => "LKMap"

/-- The name under which catalogs record the type. -/
def name : ColumnType → String
  | .primaryKey => "PrimaryKey"
  | .bool => "Bool"
  | .int64 => "Int64"
  | .float64 => "Float64"
  | .bytes => "Bytes"
  | .string16 => "String16"
  | .string32 => "String32"
  | .string64 => "String64"
  | .string256 => "String256"
  | .string => "String"
  | .stringList => "StringList"
  | .stringMap => "StringMap"
  | .linkedKey => "LinkedKey"
  | .linkedKeyList => "LinkedKeyList"
  | .linkedKeyMap => "LinkedKeyMap"

def names : List (String × ColumnType) := all.map fun t => (t.name, t)

def isLinked : ColumnType → Bool
  | .linkedKey => true
  | .linkedKeyList => true
  | .linkedKeyMap => true
  | _ => false

def ofTag? (text : String) : Option ColumnType := all.find? fun t => t.tag = text

def unknownMessage (text : String) : String := "unknown semantic type: '" ++ text ++ "'"

/-! ## Types in declarations -/

/-- The link path inside `List<…>` or `Map<…>`. -/
def linkInside? (opening : String) (text : List Char) : Option String :=
  ((opening.toList.isPrefixOf? text).bind ['>'].isSuffixOf?).bind TableName.ofLink?

/-- The type a declaration writes, with the table it links to. The tags of the link
types are no declarations: they do not name a table. -/
def ofDeclaration? (text : String) : Option (ColumnType × Option String) :=
  match ofTag? text with
  | some t => if t.isLinked then none else some (t, none)
  | none =>
    let cs := text.toList
    match TableName.ofLink? cs with
    | some table => some (.linkedKey, some table)
    | none =>
      match linkInside? "List<" cs with
      | some table => some (.linkedKeyList, some table)
      | none => (linkInside? "Map<" cs).map fun table => (.linkedKeyMap, some table)

end ColumnType

end SqlCatalog
