-- SUMMARY: Row statements as operations: which column takes the value bound at which position.
import SqlCatalog.Proofs.Templates

/-!
# DML operations

What a statement on rows asks of a database, read from its text alone: the
columns an insertion lists and the values listed for them, the assignments of an
update and the comparison that finds its row. A value is a placeholder or, where
an update has nothing to set, a column.

While there are fewer columns than positions, the columns take the positions from
the first on, in the order in which they are listed, and the primary key takes
the position after them.
-/

namespace SqlCatalog.Sql

/-- What a column is set to or compared with. -/
inductive Operand where
  | bound (digits : String)
  | column (name : String)
deriving DecidableEq

/-- The value bound at a position. -/
def Operand.position (p : Nat) : Operand := .bound (toString p)

inductive Dml where
  | insertDefaults (table : String)
  | insert (table : String) (columns : List String) (values : List Operand)
  | update (table : String) (assignments : List (String × Operand)) (key : String × Operand)
  | delete (table : String) (key : String × Operand)
deriving DecidableEq

/-! ## Reading -/

namespace Dml

namespace Parser

open Ddl.Parser (exactly words name upTo)

def listedName : List Token → Option String
  | [.identifier name] => some name
  | _ => none

def operand : List Token → Option Operand
  | [.placeholder digits] => some (.bound digits)
  | [.identifier name] => some (.column name)
  | _ => none

def equation : List Token → Option (String × Operand)
  | .identifier column :: .symbol '=' :: rest => (operand rest).map fun value => (column, value)
  | _ => none

/-- The items that commas separate. -/
def items {α : Type} (item : List Token → Option α) (tokens : List Token) : Option (List α) :=
  (tokens.splitOn (.symbol ',')).mapM item

/-- What stands before the next `stop`, which is passed over. -/
def before {α : Type} (stop : Token) (read : List Token → Option α) : Ddl.Parser α := do
  let tokens ← upTo stop
  read tokens

def insertDefaults (table : String) : Ddl.Parser Dml := do
  words ["DEFAULT", "VALUES"]
  exactly [.symbol ';']
  return .insertDefaults table

def insertValues (table : String) : Ddl.Parser Dml := do
  exactly [.symbol '(']
  let columns ← before (.symbol ')') (items listedName)
  words ["VALUES"]
  exactly [.symbol '(']
  let values ← before (.symbol ')') (items operand)
  exactly [.symbol ';']
  return .insert table columns values

def insert : Ddl.Parser Dml := do
  words ["INSERT", "INTO"]
  let table ← name
  insertDefaults table <|> insertValues table

def update : Ddl.Parser Dml := do
  words ["UPDATE"]
  let table ← name
  words ["SET"]
  let assignments ← before (.word "WHERE") (items equation)
  let key ← before (.symbol ';') equation
  return .update table assignments key

def delete : Ddl.Parser Dml := do
  words ["DELETE", "FROM"]
  let table ← name
  words ["WHERE"]
  let key ← before (.symbol ';') equation
  return .delete table key

def statement : Ddl.Parser Dml := insert <|> update <|> delete

end Parser

/-- The operation a text spells, if it is one statement and nothing else. -/
def ofText? (text : String) : Option Dml :=
  match Parser.statement (lex text) with
  | some (operation, []) => some operation
  | _ => none

/-! ## Steps of the reader -/

namespace Parser

open Ddl.Parser (exactly upTo)

variable {α β : Type} {tokens rest : List Token}

theorem bind_of_eq_some {first : Ddl.Parser α} {next : α → Ddl.Parser β} {a : α}
    (h : first tokens = some (a, rest)) : (first >>= next) tokens = next a rest := by
  change (first tokens).bind _ = _
  rw [h]
  rfl

theorem orElse_of_eq_some {first second : Ddl.Parser α} {a : α × List Token}
    (h : first tokens = some a) : (first <|> second) tokens = some a := by
  change (first tokens).orElse _ = _
  rw [h]
  rfl

theorem orElse_of_eq_none {first second : Ddl.Parser α} (h : first tokens = none) :
    (first <|> second) tokens = second tokens := by
  change (first tokens).orElse _ = _
  rw [h]
  rfl

theorem exactly_append (expected rest : List Token) :
    exactly expected (expected ++ rest) = some ((), rest) := by
  rw [exactly, List.dropPrefix?_eq_some_iff.2 ⟨expected, rfl, beq_self_eq_true expected⟩]
  rfl

theorem upTo_append {stop : Token} (h : stop ∉ tokens) (rest : List Token) :
    upTo stop (tokens ++ stop :: rest) = some (tokens, rest) := by
  induction tokens with
  | nil => simp [upTo]
  | cons token tokens ih =>
    obtain ⟨hne, hrest⟩ := not_or.1 (mt List.mem_cons.2 h)
    rw [List.cons_append, upTo, if_neg (Ne.symm hne), ih hrest]
    rfl

theorem before_append {stop : Token} {read : List Token → Option α} {a : α}
    (hstop : stop ∉ tokens) (hread : read tokens = some a) (rest : List Token) :
    before stop read (tokens ++ stop :: rest) = some (a, rest) := by
  refine (bind_of_eq_some (upTo_append hstop rest)).trans ?_
  change (read tokens).bind _ = _
  rw [hread]
  rfl

/-! ## Reading lists back -/

theorem separated_eq_intercalate (groups : List (List Token)) :
    separated groups = [.symbol ','].intercalate groups := by
  induction groups with
  | nil => rfl
  | cons group rest ih =>
    cases rest with
    | nil => simp [separated]
    | cons next rest =>
      rw [separated, ih, List.intercalate_cons_cons, List.append_assoc, List.singleton_append]

theorem mapM_map_eq_some {item : List Token → Option β} {spell : α → List Token} {read : α → β}
    {as : List α} (hitem : ∀ a ∈ as, item (spell a) = some (read a)) :
    (as.map spell).mapM item = some (as.map read) := by
  induction as with
  | nil => rfl
  | cons a rest ih =>
    obtain ⟨ha, hrest⟩ := List.forall_mem_cons.1 hitem
    simp [ha, ih hrest]

/-- Items that commas separate are read back one by one, up to a token that none of them holds. -/
theorem before_separated {stop : Token} (hstop : stop ≠ .symbol ',')
    {item : List Token → Option β} {spell : α → List Token} {read : α → β} {as : List α}
    (hne : as ≠ []) (hfree : ∀ a ∈ as, stop ∉ spell a ∧ .symbol ',' ∉ spell a)
    (hitem : ∀ a ∈ as, item (spell a) = some (read a)) (rest : List Token) :
    before stop (items item) (separated (as.map spell) ++ stop :: rest) =
      some (as.map read, rest) := by
  have hgroups : as.map spell ≠ [] := by simpa using hne
  have hcommas : ∀ group ∈ as.map spell, .symbol ',' ∉ group := by
    simpa using fun a ha => (hfree a ha).2
  apply before_append
  · exact notMem_separated hstop fun a ha => (hfree a ha).1
  · rw [items, separated_eq_intercalate, List.splitOn_intercalate _ hcommas hgroups,
      mapM_map_eq_some hitem]

end Parser

end Dml

/-! ## The statements of row changes -/

namespace RowChange

open Dml.Parser

/-- The assignments of an update, one by one. -/
def assigned (columns : List String) : List (String × Operand) :=
  if columns = [] then [("id", .column "id")]
  else columns.zip ((Placeholder.positions 1 columns.length).map Operand.position)

/-- What a change asks of a database. -/
def operation : RowChange → Dml
  | .insert table columns =>
    if columns = [] then .insertDefaults table
    else .insert table columns ((Placeholder.positions 1 columns.length).map Operand.position)
  | .update table columns =>
    .update table (assigned columns) ("id", .position (Placeholder.advance 1 columns.length))
  | .delete table => .delete table ("id", .position 1)

theorem positions_ne_nil {columns : List String} (hne : columns ≠ []) :
    Placeholder.positions 1 columns.length ≠ [] := by
  rw [← List.length_pos_iff, Placeholder.length_positions, List.length_pos_iff]
  exact hne

theorem before_columns {columns : List String} (hne : columns ≠ []) (rest : List Token) :
    before (.symbol ')') (items listedName)
      (separated (columns.map fun name => [.identifier name]) ++ .symbol ')' :: rest) =
      some (columns, rest) := by
  conv_rhs => rw [← List.map_id columns]
  refine before_separated ?_ hne ?_ ?_ rest
  · decide
  · simp
  · exact fun _ _ => rfl

theorem before_placeholders {positions : List Nat} (hne : positions ≠ []) (rest : List Token) :
    before (.symbol ')') (items operand) (placeholderList positions ++ .symbol ')' :: rest) =
      some (positions.map Operand.position, rest) := by
  refine before_separated ?_ hne ?_ ?_ rest
  · decide
  · simp
  · exact fun _ _ => rfl

theorem before_setTokens (columns : List String) (rest : List Token) :
    before (.word "WHERE") (items equation) (setTokens columns ++ .word "WHERE" :: rest) =
      some (assigned columns, rest) := by
  by_cases hnone : columns = []
  · simp only [setTokens, assigned, if_pos hnone]
    rfl
  · have hzip : columns.zip (Placeholder.positions 1 columns.length) ≠ [] := by
      simpa using ⟨hnone, positions_ne_nil hnone⟩
    simp only [setTokens, assigned, if_neg hnone, List.zip_map_right]
    refine before_separated ?_ hzip ?_ ?_ rest
    · decide
    · simp [assignmentTokens]
    · exact fun _ _ => rfl

theorem insert_tokens (table : String) (columns : List String) :
    Dml.Parser.insert (insert table columns).tokens =
      some ((insert table columns).operation, []) := by
  by_cases hnone : columns = []
  · subst hnone
    rfl
  · simp only [tokens, operation, if_neg hnone, List.append_assoc]
    refine (bind_of_eq_some (exactly_append [.word "INSERT", .word "INTO"] _)).trans ?_
    refine (bind_of_eq_some rfl).trans ?_
    refine (orElse_of_eq_none rfl).trans ?_
    refine (bind_of_eq_some (exactly_append [.symbol '('] _)).trans ?_
    refine (bind_of_eq_some (before_columns hnone _)).trans ?_
    refine (bind_of_eq_some (exactly_append [.word "VALUES"] _)).trans ?_
    refine (bind_of_eq_some (exactly_append [.symbol '('] _)).trans ?_
    refine (bind_of_eq_some (before_placeholders (positions_ne_nil hnone) _)).trans ?_
    exact bind_of_eq_some (exactly_append [.symbol ';'] [])

theorem update_tokens (table : String) (columns : List String) :
    Dml.Parser.update (update table columns).tokens =
      some ((update table columns).operation, []) := by
  simp only [tokens, operation, List.append_assoc]
  refine (bind_of_eq_some (exactly_append [.word "UPDATE"] _)).trans ?_
  refine (bind_of_eq_some rfl).trans ?_
  refine (bind_of_eq_some (exactly_append [.word "SET"] _)).trans ?_
  refine (bind_of_eq_some (before_setTokens columns _)).trans ?_
  rfl

theorem statement_tokens (change : RowChange) :
    Dml.Parser.statement change.tokens = some (change.operation, []) := by
  cases change with
  | insert table columns => exact orElse_of_eq_some (insert_tokens table columns)
  | update table columns =>
    refine (orElse_of_eq_none rfl).trans ?_
    exact orElse_of_eq_some (update_tokens table columns)
  | delete table => rfl

/-- A statement spells the change it was written for. -/
theorem ofText?_render (change : RowChange) :
    Dml.ofText? change.render = some change.operation := by
  rw [Dml.ofText?, change.closed_render.lex, change.statement_tokens]

/-! ## Placeholders -/

theorem placeholders_columns (columns : List String) :
    (separated (columns.map fun name => [.identifier name])).filterMap Token.placeholder? = [] := by
  rw [filterMap_separated_eq_flatMap rfl, List.flatMap_map, List.flatMap_eq_nil_iff]
  exact fun _ _ => rfl

theorem placeholders_placeholderList (positions : List Nat) :
    (placeholderList positions).filterMap Token.placeholder? =
      positions.map Placeholder.numbered :=
  filterMap_separated rfl (fun _ => rfl) positions

theorem placeholders_setTokens (columns : List String) :
    (setTokens columns).filterMap Token.placeholder? =
      (Placeholder.positions 1 columns.length).map Placeholder.numbered := by
  have hlength : (Placeholder.positions 1 columns.length).length ≤ columns.length :=
    Nat.le_of_eq (Placeholder.length_positions 1 columns.length)
  by_cases hnone : columns = []
  · subst hnone
    rfl
  · rw [setTokens, if_neg hnone, filterMap_separated rfl fun _ => rfl]
    conv_rhs => rw [← List.map_snd_zip hlength, List.map_map]
    rfl

theorem placeholders_insert (table : String) (columns : List String) :
    placeholders (insert table columns).render =
      (Placeholder.positions 1 columns.length).map Placeholder.numbered := by
  rw [placeholders, (closed_render _).lex, tokens]
  by_cases hnone : columns = []
  · subst hnone
    rfl
  · simp only [if_neg hnone, List.filterMap_append, placeholders_columns,
      placeholders_placeholderList]
    exact List.append_nil _

theorem placeholders_update (table : String) (columns : List String) :
    placeholders (update table columns).render =
      (Placeholder.positions 1 columns.length).map Placeholder.numbered ++
        [Placeholder.numbered (Placeholder.advance 1 columns.length)] := by
  rw [placeholders, (closed_render _).lex, tokens, List.filterMap_append, List.filterMap_append,
    placeholders_setTokens]
  rfl

/-- Columns take the positions from the first on in the order in which they are listed, in the
text of an insertion and of an update. An update compares the primary key with the value at the
position after them, which it uses nowhere else. -/
theorem bound_in_order (table : String) (columns : List String)
    (h : columns.length < Placeholder.maxPosition) :
    let n := columns.length
    let insertion := (insert table columns).render
    let change := (update table columns).render
    (placeholders insertion = (List.range' 1 n).map Placeholder.numbered ∧
      Dml.ofText? insertion = some (if columns = [] then .insertDefaults table
        else .insert table columns ((List.range' 1 n).map Operand.position))) ∧
    placeholders change = (List.range' 1 (n + 1)).map Placeholder.numbered ∧
    Dml.ofText? change = some (.update table
      (if columns = [] then [("id", .column "id")]
        else columns.zip ((List.range' 1 n).map Operand.position))
      ("id", .position (n + 1))) ∧
    (placeholders change).count (Placeholder.numbered (n + 1)) = 1 := by
  intro n insertion change
  have hpositions : Placeholder.positions 1 n = List.range' 1 n :=
    Placeholder.positions_eq_range' (by decide) (by omega)
  have hkey : Placeholder.advance 1 n = n + 1 := by
    rw [Placeholder.advance_eq_min (by decide), Nat.min_eq_left (by omega), Nat.add_comm]
  have hlast : Placeholder.numbered (n + 1) ∉ (List.range' 1 n).map Placeholder.numbered := by
    intro hmem
    obtain ⟨p, hp, hsame⟩ := List.mem_map.1 hmem
    have hp := List.mem_range'_1.1 hp
    have hsame := Placeholder.numbered_injective hsame
    omega
  have hchange : placeholders change =
      (List.range' 1 n).map Placeholder.numbered ++ [Placeholder.numbered (n + 1)] := by
    rw [← hpositions, ← hkey]
    exact placeholders_update table columns
  refine ⟨⟨?_, ?_⟩, ?_, ?_, ?_⟩
  · rw [← hpositions]
    exact placeholders_insert table columns
  · rw [← hpositions]
    exact ofText?_render (insert table columns)
  · rw [hchange, List.range'_1_concat, List.map_append, Nat.add_comm 1 n]
    rfl
  · rw [← hpositions, ← hkey]
    exact ofText?_render (update table columns)
  · rw [hchange, List.count_append, List.count_eq_zero.2 hlast, List.count_singleton_self]

/-- More columns than tokens are kept ready, with names that hold quotes, keywords and
placeholders. -/
theorem bound_in_order_beyond_ready :
    let columns := "VALUES ($9" :: List.replicate 65536 "\x22 WHERE $1,"
    columns.length < Placeholder.maxPosition ∧
      Dml.ofText? (insert "a\x22 (" columns).render =
        some (.insert "a\x22 (" columns ((List.range' 1 65537).map Operand.position)) ∧
      Dml.ofText? (update "a\x22 (" columns).render =
        some (.update "a\x22 (" (columns.zip ((List.range' 1 65537).map Operand.position))
          ("id", .bound "65538")) ∧
      (placeholders (update "a\x22 (" columns).render).count "$65538" = 1 := by
  intro columns
  have hlength : columns.length = 65537 := by rw [List.length_cons, List.length_replicate]
  have hroom : columns.length < Placeholder.maxPosition := by
    rw [hlength]
    decide
  obtain ⟨⟨-, hinsert⟩, -, hupdate, hlast⟩ := bound_in_order "a\x22 (" columns hroom
  rw [if_neg (List.cons_ne_nil _ _), hlength] at hinsert hupdate
  rw [hlength] at hlast
  exact ⟨hroom, hinsert, hupdate, hlast⟩

end RowChange

end SqlCatalog.Sql
