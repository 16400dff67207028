-- SUMMARY: A SELECT text determines its table, columns, predicate skeletons and orderings.
import SqlCatalog.Proofs.Reading

/-!
# Unambiguous statements

Two SELECT statements have the same text only if they ask the same thing of the
same table, whatever characters their names hold. The texts are compared as
tokens, and equal beginnings are taken off both sides: each part of a statement
either has its length fixed by its first tokens or ends at a token that cannot
occur in it.
-/

namespace SqlCatalog

open Sql

/-! ## Taking tokens off both sides -/

namespace Sql

def Token.name? : Token → Option String
  | .identifier name => some name
  | _ => none

def Token.word? : Token → Option String
  | .word text => some text
  | _ => none

/-- Both sides stop at their first token of a class. -/
theorem split_first {p : Token → Bool} {as bs : List Token} {a b : Token} {rest rest' : List Token}
    (has : ∀ t ∈ as, p t = false) (hbs : ∀ t ∈ bs, p t = false) (ha : p a = true) (hb : p b = true)
    (h : as ++ a :: rest = bs ++ b :: rest') : as = bs ∧ a = b ∧ rest = rest' := by
  induction as generalizing bs with
  | nil =>
    cases bs with
    | nil => simpa using h
    | cons t bs =>
      obtain ⟨rfl, -⟩ := List.cons.inj h
      rw [hbs a List.mem_cons_self] at ha
      cases ha
  | cons s as ih =>
    cases bs with
    | nil =>
      obtain ⟨rfl, -⟩ := List.cons.inj h
      rw [has s List.mem_cons_self] at hb
      cases hb
    | cons t bs =>
      obtain ⟨rfl, htail⟩ := List.cons.inj h
      obtain ⟨hsame, hrest⟩ := ih (fun x hx => has x (List.mem_cons_of_mem s hx))
        (fun x hx => hbs x (List.mem_cons_of_mem s hx)) htail
      exact ⟨by rw [hsame], hrest⟩

theorem columnTokens_injective {columns columns' : List String}
    (h : separated (columns.map fun name => [.identifier name]) =
      separated (columns'.map fun name => [.identifier name])) : columns = columns' := by
  have hread := congrArg (List.filterMap Token.name?) h
  rw [filterMap_separated rfl (fun _ => rfl), filterMap_separated rfl (fun _ => rfl)] at hread
  simpa using hread

theorem length_eq_of_placeholderList_eq {ps ps' : List Nat}
    (h : placeholderList ps = placeholderList ps') : ps.length = ps'.length := by
  have hread := congrArg (fun tokens => (tokens.filterMap Token.placeholder?).length) h
  simp only [placeholderList] at hread
  rw [filterMap_separated rfl (fun _ => rfl), filterMap_separated rfl (fun _ => rfl)] at hread
  simpa using hread

theorem orderTokens_injective {orders orders' : List SortKey}
    (h : separated (orders.map sortTokens) = separated (orders'.map sortTokens)) :
    orders = orders' := by
  have hcolumns := congrArg (List.filterMap Token.name?) h
  have hwords := congrArg (List.filterMap Token.word?) h
  rw [filterMap_separated rfl (fun _ => rfl), filterMap_separated rfl (fun _ => rfl)] at hcolumns
  rw [filterMap_separated rfl (fun _ => rfl), filterMap_separated rfl (fun _ => rfl)] at hwords
  have hpairs := congr (congrArg List.zip hcolumns) hwords
  rw [List.zip_map', List.zip_map'] at hpairs
  refine (List.map_inj_right fun key key' hkey => ?_).1 hpairs
  obtain ⟨column, ascending⟩ := key
  obtain ⟨column', ascending'⟩ := key'
  obtain ⟨rfl, hword⟩ := Prod.mk.inj hkey
  have hdirection : ascending = ascending' := by
    cases ascending <;> cases ascending' <;> simp at hword ⊢
  rw [hdirection]

end Sql

/-! ## Skeletons -/

namespace Skeleton

def lead : Skeleton → Option Connective
  | .comparison lead _ _ => lead
  | .membership lead _ _ _ => lead
  | .group lead _ => lead

/-- The first token after the lead. -/
def head : Skeleton → Token
  | .comparison _ _ column => .identifier column
  | .membership _ _ column _ => .identifier column
  | .group _ _ => .symbol '('

def body (position : Nat) : Skeleton → List Token
  | .comparison _ operator _ => lex operator.symbol ++ operandTokens operator position
  | .membership _ operator _ count =>
    lex operator.symbol ++
      .symbol '(' :: (placeholderList (Placeholder.positions position count) ++ [.symbol ')'])
  | .group _ parts => tokensAll position parts ++ [.symbol ')']

theorem tokens_eq (s : Skeleton) (position : Nat) :
    s.tokens position = leadTokens s.lead ++ s.head :: s.body position := by
  cases s <;> rfl

theorem word?_head (s : Skeleton) : s.head.word? = none := by
  cases s <;> rfl

/-- The lead is a word and the head is not, so both can be told. -/
theorem leadTokens_cancel {lead lead' : Option Connective} {a b : Token} {rest rest' : List Token}
    (ha : a.word? = none) (hb : b.word? = none)
    (h : leadTokens lead ++ a :: rest = leadTokens lead' ++ b :: rest') :
    lead = lead' ∧ a = b ∧ rest = rest' := by
  cases lead with
  | none =>
    cases lead' with
    | none => exact ⟨rfl, List.cons.inj h⟩
    | some c' =>
      obtain ⟨rfl, -⟩ := List.cons.inj h
      cases ha
  | some c =>
    cases lead' with
    | none =>
      obtain ⟨rfl, -⟩ := List.cons.inj h
      cases hb
    | some c' =>
      obtain ⟨hword, hrest⟩ := List.cons.inj h
      refine ⟨?_, List.cons.inj hrest⟩
      cases c <;> cases c' <;> first | rfl | exact absurd hword (by decide)

/-- The tokens that can follow an operator. -/
def startsOperand : Token → Bool
  | .quoted _ _ => true
  | .placeholder _ => true
  | .symbol c => c = '('
  | _ => false

theorem startsOperand_of_mem_symbol {operator : Operator} :
    ∀ t ∈ lex operator.symbol, startsOperand t = false := by
  cases operator <;> decide

theorem symbol_injective {operator operator' : Operator}
    (h : lex operator.symbol = lex operator'.symbol) : operator = operator' := by
  cases operator <;> cases operator' <;> first | rfl | exact absurd h (by decide)

theorem symbol_cancel {operator operator' : Operator} {a b : Token} {rest rest' : List Token}
    (ha : startsOperand a = true) (hb : startsOperand b = true)
    (h : lex operator.symbol ++ a :: rest = lex operator'.symbol ++ b :: rest') :
    operator = operator' ∧ a = b ∧ rest = rest' := by
  obtain ⟨hsymbol, hrest⟩ :=
    split_first startsOperand_of_mem_symbol startsOperand_of_mem_symbol ha hb h
  exact ⟨symbol_injective hsymbol, hrest⟩

/-- An operand starts with a literal or a placeholder, never with a parenthesis. -/
theorem operandTokens_eq_cons (operator : Operator) (position : Nat) :
    ∃ t ts, operandTokens operator position = t :: ts ∧ startsOperand t = true ∧
      t ≠ .symbol '(' := by
  unfold operandTokens
  split
  · exact ⟨_, _, rfl, rfl, nofun⟩
  · exact ⟨_, _, rfl, rfl, nofun⟩

theorem comparison_cancel {operator operator' : Operator} {position position' : Nat}
    {rest rest' : List Token}
    (h : lex operator.symbol ++ (operandTokens operator position ++ rest) =
      lex operator'.symbol ++ (operandTokens operator' position' ++ rest')) :
    operator = operator' ∧ rest = rest' := by
  obtain ⟨t, ts, hoperand, ht, -⟩ := operandTokens_eq_cons operator position
  obtain ⟨t', ts', hoperand', ht', -⟩ := operandTokens_eq_cons operator' position'
  have hcons := h
  rw [hoperand, hoperand'] at hcons
  obtain ⟨rfl, -⟩ := symbol_cancel ht ht' hcons
  have hlength : (operandTokens operator position).length =
      (operandTokens operator position').length := by
    unfold operandTokens
    split <;> rfl
  exact ⟨rfl, List.append_inj_right (List.append_cancel_left h) hlength⟩

theorem membership_cancel {operator operator' : Operator} {ps ps' : List Nat}
    {rest rest' : List Token}
    (h : lex operator.symbol ++ .symbol '(' :: (placeholderList ps ++ .symbol ')' :: rest) =
      lex operator'.symbol ++ .symbol '(' :: (placeholderList ps' ++ .symbol ')' :: rest')) :
    operator = operator' ∧ ps.length = ps'.length ∧ rest = rest' := by
  obtain ⟨rfl, -, hlist⟩ := symbol_cancel rfl rfl h
  have hclose : ∀ qs : List Nat, ∀ t ∈ placeholderList qs, (t = .symbol ')' : Bool) = false := by
    intro qs t ht
    rcases mem_separated ht with rfl | ⟨item, hitem, hmem⟩
    · rfl
    · obtain ⟨p, -, rfl⟩ := List.mem_map.1 hitem
      obtain rfl := List.mem_singleton.1 hmem
      rfl
  obtain ⟨hsame, -, hrest⟩ := split_first (hclose ps) (hclose ps') rfl rfl hlist
  exact ⟨rfl, length_eq_of_placeholderList_eq hsame, hrest⟩

/-- No predicate starts where a level ends. -/
theorem tokens_ne_close (s : Skeleton) (position : Nat) (rest rest' : List Token) :
    s.tokens position ++ rest ≠ .symbol ')' :: rest' := by
  rw [tokens_eq, List.append_assoc, List.cons_append]
  intro h
  have hclose : leadTokens none ++ .symbol ')' :: rest' = .symbol ')' :: rest' := rfl
  obtain ⟨-, hhead, -⟩ := leadTokens_cancel s.word?_head rfl (h.trans hclose.symm)
  cases s with
  | comparison lead operator column => cases hhead
  | membership lead operator column count => cases hhead
  | group lead parts => exact absurd hhead (by simp [head])

mutual

-- Positions may differ on the two sides: placeholders are counted, their numbers not compared.
theorem tokens_cancel (s s' : Skeleton) {position position' : Nat} {rest rest' : List Token}
    (h : s.tokens position ++ rest = s'.tokens position' ++ rest') : s = s' ∧ rest = rest' := by
  rw [tokens_eq, tokens_eq, List.append_assoc, List.append_assoc, List.cons_append,
    List.cons_append] at h
  obtain ⟨hlead, hhead, hbody⟩ := leadTokens_cancel s.word?_head s'.word?_head h
  cases s with
  | comparison lead operator column =>
    cases s' with
    | comparison lead' operator' column' =>
      cases hlead
      cases hhead
      simp only [body, List.append_assoc] at hbody
      obtain ⟨rfl, hrest⟩ := comparison_cancel hbody
      exact ⟨rfl, hrest⟩
    | membership lead' operator' column' count' =>
      obtain ⟨t, ts, hoperand, ht, hne⟩ := operandTokens_eq_cons operator position
      simp only [body, List.append_assoc, List.cons_append, hoperand] at hbody
      exact absurd (symbol_cancel ht rfl hbody).2.1 hne
    | group lead' parts' => cases hhead
  | membership lead operator column count =>
    cases s' with
    | comparison lead' operator' column' =>
      obtain ⟨t, ts, hoperand, ht, hne⟩ := operandTokens_eq_cons operator' position'
      simp only [body, List.append_assoc, List.cons_append, hoperand] at hbody
      exact absurd (symbol_cancel rfl ht hbody).2.1.symm hne
    | membership lead' operator' column' count' =>
      cases hlead
      cases hhead
      simp only [body, List.append_assoc, List.cons_append, List.nil_append] at hbody
      obtain ⟨rfl, hcount, hrest⟩ := membership_cancel hbody
      rw [Placeholder.length_positions, Placeholder.length_positions] at hcount
      exact ⟨by rw [hcount], hrest⟩
    | group lead' parts' => cases hhead
  | group lead parts =>
    cases s' with
    | comparison lead' operator' column' => cases hhead
    | membership lead' operator' column' count' => cases hhead
    | group lead' parts' =>
      cases hlead
      simp only [body, List.append_assoc, List.cons_append, List.nil_append] at hbody
      obtain ⟨rfl, hrest⟩ := tokensAll_cancel parts parts' hbody
      exact ⟨rfl, hrest⟩

theorem tokensAll_cancel (parts parts' : List Skeleton) {position position' : Nat}
    {rest rest' : List Token}
    (h : tokensAll position parts ++ .symbol ')' :: rest =
      tokensAll position' parts' ++ .symbol ')' :: rest') : parts = parts' ∧ rest = rest' := by
  cases parts with
  | nil =>
    cases parts' with
    | nil => exact ⟨rfl, (List.cons.inj h).2⟩
    | cons s' parts' =>
      rw [tokensAll, tokensAll, List.append_assoc] at h
      exact absurd h.symm (tokens_ne_close s' position' _ rest)
  | cons s parts =>
    cases parts' with
    | nil =>
      rw [tokensAll, tokensAll, List.append_assoc] at h
      exact absurd h (tokens_ne_close s position _ rest')
    | cons s' parts' =>
      rw [tokensAll, tokensAll, List.append_assoc, List.append_assoc] at h
      obtain ⟨rfl, htail⟩ := tokens_cancel s s' h
      obtain ⟨rfl, hrest⟩ := tokensAll_cancel parts parts' htail
      exact ⟨rfl, hrest⟩

end

end Skeleton

/-! ## Statements -/

namespace Statement

theorem whereTokens_cancel {parts parts' : List Skeleton} {rest rest' : List Token}
    (hrest : ∀ tokens, rest ≠ .word "WHERE" :: tokens)
    (hrest' : ∀ tokens, rest' ≠ .word "WHERE" :: tokens)
    (h : whereTokens parts ++ rest = whereTokens parts' ++ rest') :
    parts = parts' ∧ rest = rest' := by
  cases parts with
  | nil =>
    cases parts' with
    | nil => exact ⟨rfl, h⟩
    | cons s' parts' => exact absurd h (hrest _)
  | cons s parts =>
    cases parts' with
    | nil => exact absurd h.symm (hrest' _)
    | cons s' parts' =>
      simp only [whereTokens, Skeleton.levelTokens, List.cons_append, List.append_assoc,
        List.nil_append, List.cons.injEq, true_and] at h
      exact Skeleton.tokensAll_cancel (s :: parts) (s' :: parts') h

theorem orderTokens_ne_where (orders : List SortKey) (tokens : List Token) :
    orderTokens orders ++ [.symbol ';'] ≠ .word "WHERE" :: tokens := by
  cases orders with
  | nil => exact nofun
  | cons key rest =>
    intro h
    exact absurd (List.cons.inj h).1 (by decide)

theorem orderTokens_cancel {orders orders' : List SortKey}
    (h : orderTokens orders ++ [.symbol ';'] = orderTokens orders' ++ [.symbol ';']) :
    orders = orders' := by
  have hsame := List.append_cancel_right h
  cases orders with
  | nil =>
    cases orders' with
    | nil => rfl
    | cons key' rest' => cases hsame
  | cons key rest =>
    cases orders' with
    | nil => cases hsame
    | cons key' rest' =>
      simp only [orderTokens, List.cons.injEq, true_and] at hsame
      exact orderTokens_injective hsame

theorem selectTokens_injective {table table' : String} {columns columns' : List String}
    {parts parts' : List Skeleton} {orders orders' : List SortKey}
    (h : selectTokens table columns parts orders = selectTokens table' columns' parts' orders') :
    table = table' ∧ columns = columns' ∧ parts = parts' ∧ orders = orders' := by
  have hname : ∀ names : List String,
      ∀ t ∈ separated (names.map fun name => [Token.identifier name]), t.word?.isSome = false := by
    intro names t ht
    rcases mem_separated ht with rfl | ⟨item, hitem, hmem⟩
    · rfl
    · obtain ⟨name, -, rfl⟩ := List.mem_map.1 hitem
      obtain rfl := List.mem_singleton.1 hmem
      rfl
  obtain ⟨hcolumns, -, htail⟩ :=
    split_first (p := fun t => t.word?.isSome) (hname columns) (hname columns') rfl rfl
      (List.cons.inj h).2
  obtain ⟨htable, hclauses⟩ := List.cons.inj htail
  obtain ⟨hparts, horders⟩ := whereTokens_cancel (orderTokens_ne_where orders)
    (orderTokens_ne_where orders') hclauses
  refine ⟨?_, columnTokens_injective hcolumns, hparts, orderTokens_cancel horders⟩
  cases htable
  rfl

/-- Two statements have the same text if and only if they name the same table, list the same
columns, test the same way but for the values, and order the same way. -/
theorem select_sql_eq_iff {table table' : String} {view view' : View} {q q' : Query}
    {s s' : Statement} (h : select table view q = .ok s) (h' : select table' view' q' = .ok s') :
    s.sql = s'.sql ↔ table = table' ∧ view.columnNames = view'.columnNames ∧
      q.skeleton = q'.skeleton ∧ q.orders = q'.orders := by
  obtain ⟨-, rfl⟩ := select_eq_ok.1 h
  obtain ⟨-, rfl⟩ := select_eq_ok.1 h'
  constructor
  · intro hsql
    have htokens := congrArg lex hsql
    simp only at htokens
    rw [(closed_selectText table view.columnNames q).lex,
      (closed_selectText table' view'.columnNames q').lex] at htokens
    exact selectTokens_injective htokens
  · rintro ⟨htable, hcolumns, hparts, horders⟩
    rw [htable, hcolumns, hparts, horders]

/-- A name that spells out a second predicate is not taken for one; other values make no
difference. -/
theorem select_sql_eq_iff_hostile :
    let view : View := ⟨"v", [.plain "a\x22 FROM \x22b"], "", 0, ""⟩
    let honest : Query := ⟨[⟨.eq, "x", .null, .and, none⟩, ⟨.gt, "y", .null, .or, none⟩], []⟩
    let other : Query := ⟨[⟨.eq, "x", .bool true, .or, none⟩, ⟨.gt, "y", .null, .or, none⟩], []⟩
    let hostile : Query := ⟨[⟨.eq, "x\x22 = $1 OR \x22y", .null, .and, none⟩], []⟩
    ∃ s t u, select "t" view honest = .ok s ∧ select "t" view other = .ok t ∧
      select "t" view hostile = .ok u ∧ s.sql = t.sql ∧ s.sql ≠ u.sql := by
  intro view honest other hostile
  have hselect : ∀ q : Query, q.Shaped Query.maxNesting ∧ q.Listed → select "t" view q =
      .ok ⟨selectText "t" view.columnNames q.skeleton q.orders, q.bindings.map Binding.value⟩ :=
    fun q hq => select_eq_ok.2 ⟨hq, rfl⟩
  have hhonest := hselect honest (by decide)
  have hother := hselect other (by decide)
  have hhostile := hselect hostile (by decide)
  refine ⟨_, _, _, hhonest, hother, hhostile, ?_, ?_⟩
  · exact (select_sql_eq_iff hhonest hother).2 ⟨rfl, rfl, rfl, rfl⟩
  · intro hsame
    obtain ⟨-, -, hskeleton, -⟩ := (select_sql_eq_iff hhonest hhostile).1 hsame
    exact absurd (congrArg List.length hskeleton) (by decide)

end Statement

end SqlCatalog
