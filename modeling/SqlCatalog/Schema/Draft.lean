-- SUMMARY: Drafts: declarations checked one by one and collected until they become a catalog.
import SqlCatalog.Catalog
import SqlCatalog.Lifetime
import SqlCatalog.Error

/-!
# Drafts

A draft collects tables. Each declaration is checked on its own when it is
added; the links between tables are checked once all are in.
-/

namespace SqlCatalog

/-! ## Columns -/

namespace ColumnDeclaration

/-- The operators a column lists; a child query is no operator of a column. -/
def operators (table column : String) : List String → Except SchemaError (List Operator)
  | [] => .ok []
  | text :: rest =>
    match Operator.ofText? text with
    | none => .error (.unknownQueryOperator table column text)
    | some .child => .error (.unknownQueryOperator table column text)
    | some op => (operators table column rest).map (op :: ·)

/-- The column before its flags and operators: `id` starts as the primary key. -/
def base (table name : String) (d : ColumnDeclaration) : Except SchemaError Column :=
  match ColumnType.ofDeclaration? d.type with
  | none => .error (.invalidColumnType table name d.type)
  | some (type, linkedTable) =>
    if name = Sql.idColumn then
      if type = .primaryKey then .ok .primaryKey else .error (.invalidIdColumn table d.type)
    else if type = .primaryKey then .error (.misplacedPrimaryKey table name)
    else .ok { Column.new name type with linkedTable := linkedTable }

def build (table name : String) (d : ColumnDeclaration) : Except SchemaError Column := do
  let column ← d.base table name
  let ops ← operators table name d.query
  return { column with
    unique := column.unique || d.unique
    indexed := column.indexed || d.index
    orderable := column.orderable || d.order
    required := column.required || d.required
    queryable := column.queryable.union ops }

end ColumnDeclaration

/-! ## Views -/

namespace ViewDeclaration

/-- A view entry names a column, and after `@` a view of the table it links to. -/
def entry (table view : String) (columns : Dict Column) (text : String) :
    Except SchemaError ViewColumn :=
  let find (name : String) : Except SchemaError Column :=
    match columns.find? name with
    | some column => .ok column
    | none => .error (.viewColumnNotFound table view name)
  match (Text.splitAt '@' text.toList).map String.ofList with
  | [name] =>
    if name = "" then .error (.invalidViewColumn table view text)
    else (find name).map fun _ => .plain name
  | [name, linkedView] =>
    if name = "" ∨ linkedView = "" then .error (.invalidViewColumn table view text)
    else do
      let column ← find name
      match column.linkedTable with
      | some linkedTable =>
        if column.type.isLinked then return .linked name linkedTable linkedView
        else throw (.linkOnPlainColumn table view name)
      | none => throw (.linkOnPlainColumn table view name)
  | _ => .error (.invalidViewColumn table view text)

def entries (table view : String) (columns : Dict Column) :
    List String → Except SchemaError (List ViewColumn)
  | [] => .ok []
  | text :: rest => do
    let column ← entry table view columns text
    let others ← entries table view columns rest
    return column :: others

def build (table name : String) (columns : Dict Column) (names : List String)
    (d : ViewDeclaration) : Except SchemaError View := do
  let viewColumns ← entries table name columns d.columns
  if viewColumns = [] then throw (.emptyView table name)
  match Lifetime.ofText? d.cache with
  | none => throw (.invalidLifetime table name d.cache)
  | some seconds =>
    return {
      name := name
      columns := viewColumns
      selectList := ",".intercalate (viewColumns.map ViewColumn.name)
      cacheSeconds := Int64.ofNat seconds
      identity := View.identityOf (View.ordinal names name) viewColumns }

end ViewDeclaration

/-! ## Tables -/

namespace Declaration

/-- The declared columns in order, inserted into `built`. -/
def buildColumns (table : String) (built : Dict Column) :
    List (String × ColumnDeclaration) → Except SchemaError (Dict Column) :=
  built.collect fun name d => d.build table name

/-- The declared views in order, inserted into `built`. -/
def buildViews (table : String) (columns : Dict Column) (names : List String)
    (built : Dict View) : List (String × ViewDeclaration) → Except SchemaError (Dict View) :=
  built.collect fun name d => d.build table name columns names

/-- The columns a table starts with: the primary key, unless it is declared. -/
def initialColumns (d : Declaration) : Dict Column :=
  if d.columns.contains Sql.idColumn then .empty
  else Dict.empty.insert Sql.idColumn .primaryKey

def checkVersion (table : String) : Option String → Except SchemaError Unit
  | none => .ok ()
  | some version =>
    if version = currentVersion then .ok () else .error (.unsupportedVersion table version)

/-- The table a declaration describes. -/
def build (d : Declaration) : Except SchemaError Table := do
  let name := TableName.ofNamespace d.table
  if name = "" then throw .emptyTableName
  checkVersion name d.version
  let columns ← buildColumns name d.initialColumns d.columns.entries
  let views ← buildViews name columns d.views.keys .empty d.views.entries
  return ⟨name, d.table, columns, views⟩

end Declaration

/-! ## Links -/

namespace Table

def danglingTables (tables : Dict Table) (t : Table) : List SchemaError :=
  t.columns.values.filterMap fun c =>
    match c.linkedTable with
    | none => none
    | some linked =>
      if tables.contains linked then none else some (.danglingLinkTable t.name c.name linked)

/-- A link into a view of a missing table is reported with its column already. -/
def danglingViews (tables : Dict Table) (t : Table) : List SchemaError :=
  t.views.values.flatMap fun v =>
    v.links.filterMap fun c =>
      match c.linkedTable, c.linkedView with
      | some linkedTable, some linkedView =>
        match tables.find? linkedTable with
        | none => none
        | some target =>
          if target.views.contains linkedView then none
          else some (.danglingLinkView t.name v.name c.name linkedTable linkedView)
      | _, _ => none

def danglingLinks (tables : Dict Table) (t : Table) : List SchemaError :=
  t.danglingTables tables ++ t.danglingViews tables

end Table

/-! ## Drafts -/

structure Draft where
  tables : Dict Table
deriving DecidableEq

namespace Draft

def empty : Draft := ⟨.empty⟩

instance : Inhabited Draft := ⟨empty⟩

/-- Check a declaration and add its table; the table is returned too. -/
def add (draft : Draft) (d : Declaration) : Except SchemaError (Table × Draft) := do
  let table ← d.build
  if draft.tables.contains table.name then throw (.duplicateTable table.name)
  return (table, ⟨draft.tables.insert table.name table⟩)

/-- Add the declaration that was read, if one could be read. -/
def addRead (draft : Draft) : Option Declaration → Except SchemaError (Table × Draft)
  | none => .error .malformed
  | some d => draft.add d

def addJson (draft : Draft) (text : String) : Except SchemaError (Table × Draft) :=
  draft.addRead (Declaration.ofJson? text)

def addToml (draft : Draft) (text : String) : Except SchemaError (Table × Draft) :=
  draft.addRead (Declaration.ofToml? text)

def linkErrors (draft : Draft) : List SchemaError :=
  draft.tables.values.flatMap (Table.danglingLinks draft.tables)

/-- The catalog of the collected tables, or every dangling link. -/
def build (draft : Draft) : Except (List SchemaError) Catalog :=
  match draft.linkErrors with
  | [] => .ok ⟨draft.tables⟩
  | errors => .error errors

end Draft

end SqlCatalog
