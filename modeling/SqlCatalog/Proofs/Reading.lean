-- SUMMARY: The tokens of compiled predicates and of SELECT statements.
import SqlCatalog.Proofs.Compiled

/-!
# Reading compiled texts

The tokens of a skeleton, and the proof that the text of a query's skeleton
reads as them. Names may hold any characters: a quoted name is one token, so
nothing in it can be taken for a placeholder, a connective or a parenthesis.
-/

namespace SqlCatalog

open Sql

/-! ## Tokens of skeletons -/

namespace Skeleton

def leadTokens : Option Connective → List Token
  | none => []
  | some c => [.word c.symbol]

def operandTokens (operator : Operator) (position : Nat) : List Token :=
  if operator = .like then
    [.literal "%", .symbol '|', .symbol '|', .placeholder (toString position), .symbol '|',
      .symbol '|', .literal "%"]
  else [.placeholder (toString position)]

mutual

def tokens (position : Nat) : Skeleton → List Token
  | .comparison lead operator column =>
    leadTokens lead ++
      .identifier column :: (lex operator.symbol ++ operandTokens operator position)
  | .membership lead operator column count =>
    leadTokens lead ++
      .identifier column :: (lex operator.symbol ++
        .symbol '(' :: (placeholderList (Placeholder.positions position count) ++ [.symbol ')']))
  | .group lead parts =>
    leadTokens lead ++ .symbol '(' :: (tokensAll position parts ++ [.symbol ')'])

def tokensAll (position : Nat) : List Skeleton → List Token
  | [] => []
  | s :: rest =>
    s.tokens position ++ tokensAll (Placeholder.advance position s.columns.length) rest

end

def levelTokens (position : Nat) : List Skeleton → List Token
  | [] => []
  | s :: rest => .symbol '(' :: (tokensAll position (s :: rest) ++ [.symbol ')'])

/-! ## Pieces -/

theorem closed_leadText (lead : Option Connective) : Closed (leadText lead) (leadTokens lead) := by
  cases lead with
  | none => exact Closed.nil
  | some c => cases c <;> exact fun _ => rfl

theorem startsDelimited_leadText (c : Connective) (text : String) :
    startsDelimited (leadText (some c) ++ text) := by
  apply startsDelimited_append
  cases c <;> rfl

theorem spells_symbol (operator : Operator) : Spells operator.symbol (lex operator.symbol) := by
  intro c rest hc
  rcases isDelimiter_iff.1 hc with rfl | rfl | rfl | rfl <;> cases operator <;> rfl

theorem spells_operand (operator : Operator) {position : Nat} (h : 1 ≤ position) :
    Spells (operand operator position) (operandTokens operator position) := by
  unfold operand operandTokens
  by_cases hlike : operator = .like
  · rw [if_pos hlike, if_pos hlike]
    have hopen : Closed "'%' || " [.literal "%", .symbol '|', .symbol '|'] := fun _ => rfl
    have hclose : Spells " || '%'" [.symbol '|', .symbol '|', .literal "%"] := by
      intro c rest hc
      rcases isDelimiter_iff.1 hc with rfl | rfl | rfl | rfl <;> rfl
    exact (hopen.append_spells (spells_token h)).append_spells rfl hclose
  · rw [if_neg hlike, if_neg hlike]
    exact spells_token h

/-- A column, a blank and an operator. -/
theorem spells_column_symbol (column : String) (operator : Operator) :
    Spells (identifier column ++ " " ++ operator.symbol)
      (.identifier column :: lex operator.symbol) := by
  have hblank : Closed " " [] := fun _ => rfl
  exact ((spells_identifier column).append rfl hblank).append_spells (spells_symbol operator)

theorem spells_comparison (lead : Option Connective) (operator : Operator) (column : String)
    {position : Nat} (h : 1 ≤ position) :
    Spells ((comparison lead operator column).text position)
      ((comparison lead operator column).tokens position) := by
  have hblank : Closed " " [] := fun _ => rfl
  have hbody := ((spells_column_symbol column operator).append rfl hblank).append_spells
    (spells_operand operator h)
  simpa [text, tokens] using (closed_leadText lead).append_spells hbody

theorem closed_membership (lead : Option Connective) (operator : Operator) (column : String)
    (count : Nat) {position : Nat} (h : 1 ≤ position) :
    Closed ((membership lead operator column count).text position)
      ((membership lead operator column count).tokens position) := by
  have hopen : Closed " (" [.symbol '('] := fun _ => rfl
  have hclose : Closed ")" [.symbol ')'] := fun _ => rfl
  have hlist := ((spells_column_symbol column operator).append rfl hopen).append_spells
    (spells_tokens h count)
  simpa [text, tokens] using (closed_leadText lead).append (hlist.append rfl hclose)

theorem closed_group (lead : Option Connective) {parts : List Skeleton} {position : Nat}
    (h : Spells (textAll position parts) (tokensAll position parts)) :
    Closed ((group lead parts).text position) ((group lead parts).tokens position) := by
  have hopen : Closed "(" [.symbol '('] := fun _ => rfl
  have hclose : Closed ")" [.symbol ')'] := fun _ => rfl
  have hbody := (hopen.append_spells h).append rfl hclose
  simpa [text, tokens] using (closed_leadText lead).append hbody

end Skeleton

/-! ## Texts of queries -/

namespace Predicate

open Skeleton

/-- Every part but the first is led by its connective, so a blank follows the part before. -/
theorem spells_parts {p : Predicate} {lead : Option Connective} {ps : List Predicate}
    {position : Nat}
    (hfirst : Spells ((p.skeleton lead).text position) ((p.skeleton lead).tokens position))
    (hrest : Spells
      (textAll (Placeholder.advance position (p.skeleton lead).columns.length) (skeletonRest ps))
      (tokensAll (Placeholder.advance position (p.skeleton lead).columns.length)
        (skeletonRest ps))) :
    Spells (textAll position (p.skeleton lead :: skeletonRest ps))
      (tokensAll position (p.skeleton lead :: skeletonRest ps)) := by
  cases ps with
  | nil => simpa [textAll, tokensAll, skeletonRest] using hfirst
  | cons next ps =>
    refine hfirst.append_spells ?_ hrest
    rw [skeletonRest, textAll, text_skeleton, String.append_assoc]
    exact startsDelimited_leadText _ _

mutual

theorem spells_query (q : Query) {position : Nat} (h : 1 ≤ position) :
    Spells (textAll position q.skeleton) (tokensAll position q.skeleton) := by
  cases q with
  | mk predicates orders =>
    cases predicates with
    | nil => exact Closed.nil.spells
    | cons p ps =>
      exact spells_parts (spells_skeleton p none h)
        (spells_rest ps (Placeholder.one_le_advance h _))

theorem spells_rest (ps : List Predicate) {position : Nat} (h : 1 ≤ position) :
    Spells (textAll position (skeletonRest ps)) (tokensAll position (skeletonRest ps)) := by
  cases ps with
  | nil => exact Closed.nil.spells
  | cons p ps =>
    exact spells_parts (spells_skeleton p (some p.connective) h)
      (spells_rest ps (Placeholder.one_le_advance h _))

theorem spells_skeleton (p : Predicate) (lead : Option Connective) {position : Nat}
    (h : 1 ≤ position) :
    Spells ((p.skeleton lead).text position) ((p.skeleton lead).tokens position) := by
  obtain ⟨operator, column, value, connective, kid⟩ := p
  cases operator with
  | child => exact (closed_group lead (spells_child kid h)).spells
  | isIn | notIn => exact (closed_membership lead _ column value.items.length h).spells
  | eq | ne | gt | lt | ge | le | like => exact spells_comparison lead _ column h

theorem spells_child (kid : Option Query) {position : Nat} (h : 1 ≤ position) :
    Spells (textAll position (childSkeleton kid)) (tokensAll position (childSkeleton kid)) := by
  cases kid with
  | none => exact Closed.nil.spells
  | some q => exact spells_query q h

end

end Predicate

theorem Query.closed_levelText (q : Query) {position : Nat} (h : 1 ≤ position) :
    Closed (Skeleton.levelText position q.skeleton) (Skeleton.levelTokens position q.skeleton) := by
  have hgroup := Skeleton.closed_group none (Predicate.spells_query q h)
  cases hskeleton : q.skeleton with
  | nil => exact Closed.nil
  | cons s rest =>
    rw [hskeleton, Skeleton.text, Skeleton.leadText, String.empty_append] at hgroup
    exact hgroup

/-! ## SELECT statements -/

namespace Statement

/-- The clause that a query's predicates become. -/
def whereText (parts : List Skeleton) : String := clause " WHERE " (Skeleton.levelText 1 parts)

def orderText (orders : List SortKey) : String := clause " ORDER BY " (orderList orders)

/-- What a SELECT statement says: no value occurs in it. -/
def selectText (table : String) (columns : List String) (parts : List Skeleton)
    (orders : List SortKey) : String :=
  "SELECT " ++ columnList columns ++ " FROM " ++ identifier table ++ whereText parts ++
    orderText orders ++ ";"

theorem select_eq_ok {table : String} {view : View} {q : Query} {s : Statement} :
    select table view q = .ok s ↔ (q.Shaped Query.maxNesting ∧ q.Listed) ∧
      s = ⟨selectText table view.columnNames q.skeleton q.orders,
        q.bindings.map Binding.value⟩ := by
  unfold select
  simp only [bind_eq_ok, Query.compileWhere_eq_ok]
  constructor
  · rintro ⟨compiled, ⟨-, hcompiles, rfl⟩, hs⟩
    cases hs
    exact ⟨hcompiles, rfl⟩
  · rintro ⟨hcompiles, rfl⟩
    exact ⟨_, ⟨by decide, hcompiles, rfl⟩, rfl⟩

def whereTokens : List Skeleton → List Token
  | [] => []
  | s :: rest => .word "WHERE" :: Skeleton.levelTokens 1 (s :: rest)

def orderTokens : List SortKey → List Token
  | [] => []
  | key :: rest => .word "ORDER" :: .word "BY" :: separated ((key :: rest).map sortTokens)

def selectTokens (table : String) (columns : List String) (parts : List Skeleton)
    (orders : List SortKey) : List Token :=
  .word "SELECT" :: (separated (columns.map fun name => [.identifier name]) ++
    .word "FROM" :: .identifier table ::
      (whereTokens parts ++ (orderTokens orders ++ [.symbol ';'])))

theorem closed_whereText (q : Query) : Closed (whereText q.skeleton) (whereTokens q.skeleton) := by
  have hlevel := q.closed_levelText (Nat.le_refl 1)
  have hkeyword : Closed " WHERE " [.word "WHERE"] := fun _ => rfl
  cases hskeleton : q.skeleton with
  | nil => exact Closed.nil
  | cons s rest =>
    rw [hskeleton] at hlevel
    have htext : Skeleton.levelText 1 (s :: rest) ≠ "" := by
      simp [Skeleton.levelText, String.ext_iff]
    rw [whereText, clause, if_neg htext]
    exact hkeyword.append hlevel

/-- The end of the statement is part of the piece: an ordering is over where it comes. -/
theorem closed_orderText (orders : List SortKey) :
    Closed (orderText orders ++ ";") (orderTokens orders ++ [.symbol ';']) := by
  have hend : Closed ";" [.symbol ';'] := fun _ => rfl
  have hkeyword : Closed " ORDER BY " [.word "ORDER", .word "BY"] := fun _ => rfl
  cases orders with
  | nil => exact hend
  | cons key rest =>
    have htext : orderList (key :: rest) ≠ "" := by
      cases rest <;> simp [orderList, sortText, identifier, enclosed, String.ext_iff]
    rw [orderText, clause, if_neg htext]
    exact (hkeyword.append_spells (spells_orderList (key :: rest))).append rfl hend

theorem startsDelimited_clause {keyword rest : String} (hkeyword : startsDelimited keyword)
    (hrest : startsDelimited rest) (text : String) :
    startsDelimited (clause keyword text ++ rest) := by
  unfold clause
  split
  · rwa [String.empty_append]
  · rw [String.append_assoc]
    exact startsDelimited_append hkeyword _

theorem closed_selectText (table : String) (columns : List String) (q : Query) :
    Closed (selectText table columns q.skeleton q.orders)
      (selectTokens table columns q.skeleton q.orders) := by
  have hselect : Closed "SELECT " [.word "SELECT"] := fun _ => rfl
  have hfrom : Closed " FROM " [.word "FROM"] := fun _ => rfl
  have htable := ((hselect.append_spells (spells_columnList columns)).append rfl
    hfrom).append_spells (spells_identifier table)
  have hclauses := (closed_whereText q).append (closed_orderText q.orders)
  have hstart : startsDelimited (whereText q.skeleton ++ (orderText q.orders ++ ";")) :=
    startsDelimited_clause rfl (startsDelimited_clause rfl rfl _) _
  have hwhole := htable.append hstart hclauses
  simpa [selectText, selectTokens, String.append_assoc] using hwhole

end Statement

end SqlCatalog
