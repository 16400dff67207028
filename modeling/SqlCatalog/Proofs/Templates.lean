-- SUMMARY: Every statement reads as its template, with names and values intact and one semicolon at its end.
import SqlCatalog.Proofs.Ddl
import SqlCatalog.Sql.Database
import SqlCatalog.Sql.RowChange

/-!
# Statement templates

The tokens of each statement, written down without regard to how its text is put
together. A template has a token for every keyword and symbol and one token for
every argument: a quoted name stands for the name itself, a literal for the
value itself, whatever characters they hold. The text of a statement reads as
its template, and a semicolon ends it and occurs nowhere else.
-/

namespace SqlCatalog.Sql

/-! ## Column types -/

def varchar (width : String) : List Token :=
  [.word "varchar", .symbol '(', .word width, .symbol ')']

/-- The tokens that declare how a column is stored. -/
def storedTokens : ColumnType → Stored
  | .primaryKey => ⟨varchar "64", [.literal ""]⟩
  | .bool => ⟨[.word "boolean"], [.word "false"]⟩
  | .int64 => ⟨[.word "bigint"], [.word "0"]⟩
  | .float64 => ⟨[.word "double", .word "precision"], [.word "0"]⟩
  | .bytes => ⟨[.word "bytea"], [.literal ""]⟩
  | .string16 => ⟨varchar "16", [.literal ""]⟩
  | .string32 => ⟨varchar "32", [.literal ""]⟩
  | .string64 => ⟨varchar "64", [.literal ""]⟩
  | .string256 => ⟨varchar "256", [.literal ""]⟩
  | .string => ⟨[.word "text"], [.literal ""]⟩
  | .stringList => ⟨[.word "text"], [.literal "[]"]⟩
  | .stringMap => ⟨[.word "text"], [.literal "\x7b\x7d"]⟩
  | .linkedKey => ⟨varchar "64", [.literal ""]⟩
  | .linkedKeyList => ⟨[.word "text"], [.literal "[]"]⟩
  | .linkedKeyMap => ⟨[.word "text"], [.literal "\x7b\x7d"]⟩

theorem storedAs_eq (type : ColumnType) : storedAs type = storedTokens type := by
  cases type <;> rfl

/-! ## Databases and metadata -/

theorem spells_literal (text : String) : Spells (literal text) [.literal text] :=
  spells_enclosed (.inr rfl) text

theorem Closed.valued {a : String} {as : List Token} (ha : Closed a as) (text after : String)
    (afterTokens : List Token) (hstart : startsDelimited after)
    (hafter : Closed after afterTokens) :
    Closed (a ++ literal text ++ after) (as ++ [.literal text] ++ afterTokens) :=
  ha.spelled (spells_literal text) after afterTokens hstart hafter

namespace DatabaseCommand

def tokens : DatabaseCommand → List Token
  | .exists_ database =>
    [.word "SELECT", .word "1", .word "FROM", .word "pg_database", .word "WHERE", .word "datname",
      .symbol '=', .literal database, .symbol ';']
  | .create database => [.word "CREATE", .word "DATABASE", .identifier database, .symbol ';']
  | .drop database => [.word "DROP", .word "DATABASE", .identifier database, .symbol ';']
  | .createMetadata =>
    [.word "CREATE", .word "TABLE", .word "IF", .word "NOT", .word "EXISTS",
      .identifier "__capidb_meta__", .symbol '(', .identifier "id", .word "text", .word "NOT",
      .word "NULL", .word "PRIMARY", .word "KEY", .symbol ',', .identifier "meta", .word "text",
      .symbol ')', .symbol ';']
  | .readMetadata =>
    [.word "SELECT", .identifier "meta", .word "FROM", .identifier "__capidb_meta__",
      .word "WHERE", .identifier "id", .symbol '=', .placeholder "1", .symbol ';']
  | .insertMetadata id document =>
    [.word "INSERT", .word "INTO", .identifier "__capidb_meta__", .symbol '(', .identifier "id",
      .symbol ',', .identifier "meta", .symbol ')', .word "VALUES", .symbol '(', .literal id,
      .symbol ',', .literal document, .symbol ')', .symbol ';']
  | .updateMetadata id document =>
    [.word "UPDATE", .identifier "__capidb_meta__", .word "SET", .identifier "meta", .symbol '=',
      .literal document, .word "WHERE", .identifier "id", .symbol '=', .literal id, .symbol ';']

theorem closed_render (command : DatabaseCommand) : Closed command.render command.tokens := by
  cases command with
  | exists_ database =>
    have hselect : Closed "SELECT 1 FROM pg_database WHERE datname = "
        [.word "SELECT", .word "1", .word "FROM", .word "pg_database", .word "WHERE",
          .word "datname", .symbol '='] := fun _ => rfl
    exact hselect.valued database ";" [.symbol ';'] rfl fun _ => rfl
  | create database =>
    have hcreate : Closed "CREATE DATABASE " [.word "CREATE", .word "DATABASE"] := fun _ => rfl
    exact hcreate.named database ";" [.symbol ';'] rfl fun _ => rfl
  | drop database =>
    have hdrop : Closed "DROP DATABASE " [.word "DROP", .word "DATABASE"] := fun _ => rfl
    exact hdrop.named database ";" [.symbol ';'] rfl fun _ => rfl
  | createMetadata =>
    have hcreate : Closed "CREATE TABLE IF NOT EXISTS "
        [.word "CREATE", .word "TABLE", .word "IF", .word "NOT", .word "EXISTS"] := fun _ => rfl
    have htable := hcreate.named metaTable " (" [.symbol '('] rfl fun _ => rfl
    have hkey := htable.named idColumn " text NOT NULL PRIMARY KEY, "
      [.word "text", .word "NOT", .word "NULL", .word "PRIMARY", .word "KEY", .symbol ','] rfl
      fun _ => rfl
    exact hkey.named "meta" " text);" [.word "text", .symbol ')', .symbol ';'] rfl fun _ => rfl
  | readMetadata =>
    have hselect : Closed "SELECT " [.word "SELECT"] := fun _ => rfl
    have hfrom := hselect.named "meta" " FROM " [.word "FROM"] rfl fun _ => rfl
    have hwhere := hfrom.named metaTable " WHERE " [.word "WHERE"] rfl fun _ => rfl
    exact hwhere.named idColumn " = $1;" [.symbol '=', .placeholder "1", .symbol ';'] rfl
      fun _ => rfl
  | insertMetadata id document =>
    have hinsert : Closed "INSERT INTO " [.word "INSERT", .word "INTO"] := fun _ => rfl
    have htable := hinsert.named metaTable " (" [.symbol '('] rfl fun _ => rfl
    have hkey := htable.named idColumn ", " [.symbol ','] rfl fun _ => rfl
    have hvalues := hkey.named "meta" ") VALUES (" [.symbol ')', .word "VALUES", .symbol '('] rfl
      fun _ => rfl
    have hid := hvalues.valued id ", " [.symbol ','] rfl fun _ => rfl
    exact hid.valued document ");" [.symbol ')', .symbol ';'] rfl fun _ => rfl
  | updateMetadata id document =>
    have hupdate : Closed "UPDATE " [.word "UPDATE"] := fun _ => rfl
    have hset := hupdate.named metaTable " SET " [.word "SET"] rfl fun _ => rfl
    have hmeta := hset.named "meta" " = " [.symbol '='] rfl fun _ => rfl
    have hwhere := hmeta.valued document " WHERE " [.word "WHERE"] rfl fun _ => rfl
    have hkey := hwhere.named idColumn " = " [.symbol '='] rfl fun _ => rfl
    exact hkey.valued id ";" [.symbol ';'] rfl fun _ => rfl

end DatabaseCommand

/-! ## Rows -/

namespace RowChange

/-- The tokens that set a column to the value bound at a position. -/
def assignmentTokens (assigned : String × Nat) : List Token :=
  [.identifier assigned.1, .symbol '=', .placeholder (toString assigned.2)]

/-- The tokens that set the columns to the values bound at the first positions. -/
def setTokens (columns : List String) : List Token :=
  if columns = [] then [.identifier "id", .symbol '=', .identifier "id"]
  else separated ((columns.zip (Placeholder.positions 1 columns.length)).map assignmentTokens)

def tokens : RowChange → List Token
  | .insert table columns =>
    if columns = [] then
      [.word "INSERT", .word "INTO", .identifier table, .word "DEFAULT", .word "VALUES",
        .symbol ';']
    else
      [.word "INSERT", .word "INTO", .identifier table, .symbol '('] ++
        separated (columns.map fun name => [.identifier name]) ++
      [.symbol ')', .word "VALUES", .symbol '('] ++
        placeholderList (Placeholder.positions 1 columns.length) ++ [.symbol ')', .symbol ';']
  | .update table columns =>
    [.word "UPDATE", .identifier table, .word "SET"] ++ setTokens columns ++
    [.word "WHERE", .identifier "id", .symbol '=',
      .placeholder (toString (Placeholder.advance 1 columns.length)), .symbol ';']
  | .delete table =>
    [.word "DELETE", .word "FROM", .identifier table, .word "WHERE", .identifier "id",
      .symbol '=', .placeholder "1", .symbol ';']

theorem assignments_eq_map (columns : List String) :
    assignments columns = (columns.zip (Placeholder.positions 1 columns.length)).map
      fun a => identifier a.1 ++ " = " ++ Placeholder.token a.2 := by
  rw [assignments, Placeholder.tokens_eq_map, List.zip_map_right, List.map_map]
  rfl

theorem spells_setList (columns : List String) : Spells (setList columns) (setTokens columns) := by
  have hequals (name : String) : Closed (identifier name ++ " = ")
      [.identifier name, .symbol '='] :=
    (spells_identifier name).append rfl fun _ => rfl
  by_cases hnone : columns = []
  · simp only [setList, setTokens, if_pos hnone]
    exact (hequals idColumn).append_spells (spells_identifier idColumn)
  · simp only [setList, setTokens, if_neg hnone, assignments_eq_map]
    apply spells_intercalate rfl fun _ => rfl
    intro a ha
    have hposition : 1 ≤ a.2 :=
      Placeholder.one_le_of_mem_positions (Nat.le_refl 1) (List.of_mem_zip ha).2
    exact (hequals a.1).append_spells (spells_token hposition)

theorem closed_render (change : RowChange) : Closed change.render change.tokens := by
  cases change with
  | insert table columns =>
    have hinsert : Closed "INSERT INTO " [.word "INSERT", .word "INTO"] := fun _ => rfl
    -- Not by the equations of `render`: making them computes the tokens that are kept ready.
    change Closed (if columns = [] then _ else _) (if columns = [] then _ else _)
    by_cases hnone : columns = []
    · rw [if_pos hnone, if_pos hnone]
      exact hinsert.named table " DEFAULT VALUES;"
        [.word "DEFAULT", .word "VALUES", .symbol ';'] rfl fun _ => rfl
    · rw [if_neg hnone, if_neg hnone]
      have htable := hinsert.named table " (" [.symbol '('] rfl fun _ => rfl
      have hcolumns := htable.spelled (spells_columnList columns) ") VALUES ("
        [.symbol ')', .word "VALUES", .symbol '('] rfl fun _ => rfl
      exact hcolumns.spelled (spells_tokens (Nat.le_refl 1) columns.length) ");"
        [.symbol ')', .symbol ';'] rfl fun _ => rfl
  | update table columns =>
    have hupdate : Closed "UPDATE " [.word "UPDATE"] := fun _ => rfl
    have hset := hupdate.named table " SET " [.word "SET"] rfl fun _ => rfl
    have hwhere := hset.spelled (spells_setList columns) " WHERE " [.word "WHERE"] rfl fun _ => rfl
    have hkey := hwhere.named idColumn " = " [.symbol '='] rfl fun _ => rfl
    have hlast := Placeholder.one_le_advance (Nat.le_refl 1) columns.length
    have hend := hkey.spelled (spells_token hlast) ";" [.symbol ';'] rfl fun _ => rfl
    simp only [List.append_assoc] at hend
    exact hend
  | delete table =>
    have hdelete : Closed "DELETE FROM " [.word "DELETE", .word "FROM"] := fun _ => rfl
    have hwhere := hdelete.named table " WHERE " [.word "WHERE"] rfl fun _ => rfl
    have hkey := hwhere.named idColumn " = " [.symbol '='] rfl fun _ => rfl
    exact hkey.spelled (spells_token (Nat.le_refl 1)) ";" [.symbol ';'] rfl fun _ => rfl

end RowChange

/-! ## Single statements -/

/-- One statement and no more: a semicolon ends it, and there is no other. -/
def IsStatement (tokens : List Token) : Prop :=
  ∃ body, tokens = body ++ [.symbol ';'] ∧ .symbol ';' ∉ body

namespace IsStatement

theorem of_dropLast {tokens : List Token} (hlast : tokens.getLast? = some (.symbol ';'))
    (hbody : .symbol ';' ∉ tokens.dropLast) : IsStatement tokens :=
  ⟨tokens.dropLast, (List.dropLast_append_getLast? _ hlast).symm, hbody⟩

theorem append {before after : List Token} (hbefore : .symbol ';' ∉ before)
    (hafter : IsStatement after) : IsStatement (before ++ after) := by
  obtain ⟨body, rfl, hbody⟩ := hafter
  exact ⟨before ++ body, (List.append_assoc before body _).symm, by simp [hbefore, hbody]⟩

end IsStatement

theorem Closed.lex_statement {text : String} {tokens : List Token} (h : Closed text tokens)
    (hone : IsStatement tokens) : Sql.lex text = tokens ∧ IsStatement (Sql.lex text) := by
  rw [h.lex]
  exact ⟨rfl, hone⟩

theorem DatabaseCommand.isStatement_tokens (command : DatabaseCommand) :
    IsStatement command.tokens := by
  cases command <;> exact .of_dropLast rfl (by simp [tokens])

theorem semicolon_notMem_stored (type : ColumnType) :
    .symbol ';' ∉ (storedAs type).type ∧ .symbol ';' ∉ (storedAs type).default := by
  rw [storedAs_eq]
  cases type <;> simp [storedTokens, varchar]

theorem TableChange.isStatement_tokens (change : TableChange) : IsStatement change.tokens := by
  cases change with
  | createTable table =>
    have htype := (semicolon_notMem_stored .primaryKey).1
    exact .append (by simp [htype]) (.of_dropLast rfl (by simp))
  | addColumn table column type =>
    obtain ⟨htype, hdefault⟩ := semicolon_notMem_stored type
    exact .append (by simp [htype, hdefault]) (.of_dropLast rfl (by simp))
  | dropColumn | createIndex | dropIndex | createUnique | dropUnique =>
    exact .of_dropLast rfl (by simp [tokens])

theorem RowChange.isStatement_tokens (change : RowChange) : IsStatement change.tokens := by
  cases change with
  | insert table columns =>
    simp only [tokens]
    split
    · exact .of_dropLast rfl (by simp)
    · have hcolumns : .symbol ';' ∉ separated (columns.map fun name => [Token.identifier name]) :=
        notMem_separated (by decide) (by simp)
      have hvalues : .symbol ';' ∉ placeholderList (Placeholder.positions 1 columns.length) :=
        notMem_separated (by decide) (by simp)
      exact .append (by simp [hcolumns, hvalues]) (.of_dropLast rfl (by simp))
  | update table columns =>
    have hset : .symbol ';' ∉ setTokens columns := by
      unfold setTokens
      split
      · simp
      · exact notMem_separated (by decide) (by simp [assignmentTokens])
    exact .append (by simp [hset]) (.of_dropLast rfl (by simp))
  | delete table => exact .of_dropLast rfl (by simp [tokens])

/-- The text of every statement on databases, metadata, tables and rows reads as its template,
whatever the names and values are, and is one statement. -/
theorem lex_render_statement :
    (∀ command : DatabaseCommand,
      lex command.render = command.tokens ∧ IsStatement (lex command.render)) ∧
    (∀ change : TableChange,
      lex change.render = change.tokens ∧ IsStatement (lex change.render)) ∧
    (∀ change : RowChange,
      lex change.render = change.tokens ∧ IsStatement (lex change.render)) ∧
    ∀ type, storedAs type = storedTokens type := by
  refine ⟨?_, ?_, ?_, storedAs_eq⟩
  · intro command
    exact command.closed_render.lex_statement command.isStatement_tokens
  · intro change
    exact change.closed_render.lex_statement change.isStatement_tokens
  · intro change
    exact change.closed_render.lex_statement change.isStatement_tokens

example : lex (TableChange.dropColumn "a\x22; DROP TABLE b; --" "$1'").render =
    [.word "ALTER", .word "TABLE", .identifier "a\x22; DROP TABLE b; --", .word "DROP",
      .word "COLUMN", .identifier "$1'", .symbol ';'] := by decide

end SqlCatalog.Sql
