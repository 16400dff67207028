-- SUMMARY: SQL text as tokens: quoted names and literals, placeholders, words and symbols.
import SqlCatalog.Proofs.Placeholder
import SqlCatalog.Sql.Clause

/-!
# Lexing SQL

A second reading of the texts that the library writes. Double quotes enclose an
identifier and single quotes a literal, the enclosing character doubled inside.
A dollar sign with digits is a placeholder; letters, digits and underscores make
words; blanks separate; any other character is a symbol.

The scanner takes one character at a time. Texts are put together from pieces,
and what is known about a piece does not depend on the pieces around it: either
it reads the same whatever follows (`Closed`), or it does so once a delimiter
follows (`Spells`).
-/

namespace SqlCatalog.Sql

/-! ## Tokens -/

inductive Token where
  | quoted (mark : Char) (text : String)
  | placeholder (digits : String)
  | word (text : String)
  | symbol (c : Char)
  | unclosed (mark : Char) (text : String)
deriving DecidableEq, Repr

namespace Token

@[match_pattern] abbrev identifier (name : String) : Token := .quoted '\x22' name

@[match_pattern] abbrev literal (text : String) : Token := .quoted '\x27' text

/-- The text of a placeholder. -/
def placeholder? : Token → Option String
  | .placeholder digits => some ("$" ++ digits)
  | _ => none

end Token

/-! ## Scanning -/

def isWordChar (c : Char) : Bool := c.isAlphanum || c = '_'

/-- What the scanner has seen of the token it is in. -/
inductive Mode where
  | between
  | inside (mark : Char) (seen : List Char)
  | closing (mark : Char) (seen : List Char)
  | dollar (digits : List Char)
  | word (letters : List Char)

namespace Mode

/-- The token that ends here. -/
def finish : Mode → List Token
  | .between => []
  | .inside mark seen => [.unclosed mark (String.ofList seen)]
  | .closing mark seen => [.quoted mark (String.ofList seen)]
  | .dollar digits =>
    if digits = [] then [.symbol '$'] else [.placeholder (String.ofList digits)]
  | .word letters => [.word (String.ofList letters)]

/-- The token goes on with `c`, or ends before it. -/
def extend? : Mode → Char → Option Mode
  | .between, _ => none
  | .inside mark seen, c =>
    if c = mark then some (.closing mark seen) else some (.inside mark (seen ++ [c]))
  | .closing mark seen, c => if c = mark then some (.inside mark (seen ++ [c])) else none
  | .dollar digits, c => if c.isDigit then some (.dollar (digits ++ [c])) else none
  | .word letters, c => if isWordChar c then some (.word (letters ++ [c])) else none

end Mode

/-- Begin a token with `c`; blanks and symbols are done at once. -/
def begin (c : Char) : List Token × Mode :=
  if c = '\x22' ∨ c = '\x27' then ([], .inside c [])
  else if c = '$' then ([], .dollar [])
  else if isWordChar c then ([], .word [c])
  else if c.isWhitespace then ([], .between)
  else ([.symbol c], .between)

def scan : Mode → List Char → List Token
  | mode, [] => mode.finish
  | mode, c :: cs =>
    match mode.extend? c with
    | some longer => scan longer cs
    | none => mode.finish ++ ((begin c).1 ++ scan (begin c).2 cs)

def lex (text : String) : List Token := scan .between text.toList

/-- The placeholders of a text from left to right, leaving out what is quoted. -/
def placeholders (text : String) : List String := (lex text).filterMap Token.placeholder?

example : lex "\x22a $1 \x22\x22b\x22 LIKE '%' || $12;" =
    [.identifier "a $1 \x22b", .word "LIKE", .literal "%", .symbol '|', .symbol '|',
      .placeholder "12", .symbol ';'] := by decide

/-! ## What the scanner does in each mode -/

theorem scan_extend {mode longer : Mode} {c : Char} (h : mode.extend? c = some longer)
    (cs : List Char) : scan mode (c :: cs) = scan longer cs := by
  simp only [scan, h]

/-- Where a token cannot go on it ends, and the next begins. -/
theorem scan_stop {mode : Mode} {c : Char} (h : mode.extend? c = none) (cs : List Char) :
    scan mode (c :: cs) = mode.finish ++ scan .between (c :: cs) := by
  have hbegin : scan .between (c :: cs) = (begin c).1 ++ scan (begin c).2 cs := rfl
  rw [hbegin, scan, h]

/-- A doubled mark is read back as one; the mark after it all closes. -/
theorem scan_doubled (mark : Char) (seen text rest : List Char) :
    scan (.inside mark seen) (doubled mark text ++ mark :: rest) =
      scan (.closing mark (seen ++ text)) rest := by
  induction text generalizing seen with
  | nil => simp [doubled, scan, Mode.extend?]
  | cons c text ih =>
    have hnext := ih (seen ++ [c])
    rw [List.append_assoc, List.singleton_append] at hnext
    rw [← hnext]
    by_cases hc : c = mark
    · subst hc
      simp [doubled, scan, Mode.extend?]
    · simp [doubled, scan, Mode.extend?, hc]

theorem scan_digits {digits : List Char} (h : ∀ c ∈ digits, c.isDigit) (seen rest : List Char) :
    scan (.dollar seen) (digits ++ rest) = scan (.dollar (seen ++ digits)) rest := by
  induction digits generalizing seen with
  | nil => simp
  | cons c digits ih =>
    have hc : c.isDigit := h c List.mem_cons_self
    have hdigits : ∀ d ∈ digits, d.isDigit := fun d hd => h d (List.mem_cons_of_mem c hd)
    have hextend : (Mode.dollar seen).extend? c = some (.dollar (seen ++ [c])) := by
      simp [Mode.extend?, hc]
    rw [List.cons_append, scan_extend hextend, ih hdigits, List.append_assoc,
      List.singleton_append]

/-! ## Pieces of text -/

/-- The characters that follow a name, a literal, a placeholder or a word. -/
def isDelimiter (c : Char) : Bool := c = ' ' || c = ',' || c = ')' || c = ';'

theorem isDelimiter_iff {c : Char} :
    isDelimiter c ↔ c = ' ' ∨ c = ',' ∨ c = ')' ∨ c = ';' := by
  simp [isDelimiter, or_assoc]

def startsDelimited (text : String) : Bool := text.toList.head?.any isDelimiter

theorem startsDelimited_append {a : String} (h : startsDelimited a) (b : String) :
    startsDelimited (a ++ b) := by
  unfold startsDelimited at h ⊢
  rw [String.toList_append]
  cases htext : a.toList with
  | nil => simp [htext] at h
  | cons c cs => simpa [htext] using h

/-- `text` reads as `tokens` whatever follows it. -/
def Closed (text : String) (tokens : List Token) : Prop :=
  ∀ rest, scan .between (text.toList ++ rest) = tokens ++ scan .between rest

/-- `text` reads as `tokens` when a delimiter follows it. -/
def Spells (text : String) (tokens : List Token) : Prop :=
  ∀ c rest, isDelimiter c →
    scan .between (text.toList ++ c :: rest) = tokens ++ scan .between (c :: rest)

theorem Closed.lex {text : String} {tokens : List Token} (h : Closed text tokens) :
    lex text = tokens := by
  have hend := h []
  rwa [List.append_nil, scan, Mode.finish, List.append_nil] at hend

theorem Closed.spells {text : String} {tokens : List Token} (h : Closed text tokens) :
    Spells text tokens := fun c rest _ => h (c :: rest)

theorem Closed.nil : Closed "" [] := fun _ => rfl

theorem Closed.append {a b : String} {as bs : List Token} (ha : Closed a as) (hb : Closed b bs) :
    Closed (a ++ b) (as ++ bs) := by
  intro rest
  rw [String.toList_append, List.append_assoc, ha, hb, List.append_assoc]

theorem Closed.append_spells {a b : String} {as bs : List Token} (ha : Closed a as)
    (hb : Spells b bs) : Spells (a ++ b) (as ++ bs) := by
  intro c rest hc
  rw [String.toList_append, List.append_assoc, ha, hb c rest hc, List.append_assoc]

theorem Spells.scan_append {a b : String} {as : List Token} (ha : Spells a as)
    (hstart : startsDelimited b) (rest : List Char) :
    scan .between ((a ++ b).toList ++ rest) = as ++ scan .between (b.toList ++ rest) := by
  unfold startsDelimited at hstart
  rw [String.toList_append, List.append_assoc]
  cases htext : b.toList with
  | nil => simp [htext] at hstart
  | cons c cs => exact ha c (cs ++ rest) (by simpa [htext] using hstart)

theorem Spells.append {a b : String} {as bs : List Token} (ha : Spells a as)
    (hstart : startsDelimited b) (hb : Closed b bs) : Closed (a ++ b) (as ++ bs) := by
  intro rest
  rw [ha.scan_append hstart, hb, List.append_assoc]

theorem Spells.append_spells {a b : String} {as bs : List Token} (ha : Spells a as)
    (hstart : startsDelimited b) (hb : Spells b bs) : Spells (a ++ b) (as ++ bs) := by
  intro c rest hc
  rw [ha.scan_append hstart, hb c rest hc, List.append_assoc]

/-! ## Names, literals and placeholders -/

theorem spells_enclosed {mark : Char} (hmark : mark = '\x22' ∨ mark = '\x27')
    (text : String) : Spells (enclosed mark text) [.quoted mark text] := by
  intro c rest hc
  have hopen : begin mark = ([], .inside mark []) := by simp [begin, hmark]
  have hne : c ≠ mark := by
    rintro rfl
    rcases hmark with rfl | rfl <;> exact absurd hc (by decide)
  have hstop : (Mode.closing mark text.toList).extend? c = none := by simp [Mode.extend?, hne]
  calc scan .between ((enclosed mark text).toList ++ c :: rest)
      = scan (.inside mark []) (doubled mark text.toList ++ mark :: c :: rest) := by
        simp [enclosed, scan, Mode.extend?, Mode.finish, hopen]
    _ = scan (.closing mark text.toList) (c :: rest) := by rw [scan_doubled, List.nil_append]
    _ = [.quoted mark text] ++ scan .between (c :: rest) := by
        rw [scan_stop hstop, Mode.finish, String.ofList_toList]

theorem spells_identifier (name : String) : Spells (identifier name) [.identifier name] :=
  spells_enclosed (.inl rfl) name

theorem spells_token {p : Nat} (h : 1 ≤ p) :
    Spells (Placeholder.token p) [.placeholder (toString p)] := by
  intro c rest hc
  have hdigit : c.isDigit = false := by
    rcases isDelimiter_iff.1 hc with rfl | rfl | rfl | rfl <;> decide
  have hstop : (Mode.dollar (toString p).toList).extend? c = none := by simp [Mode.extend?, hdigit]
  calc scan .between ((Placeholder.token p).toList ++ c :: rest)
      = scan (.dollar []) ((toString p).toList ++ c :: rest) := by
        rw [Placeholder.token_eq_numbered h, Placeholder.numbered, String.toList_append]
        rfl
    _ = scan (.dollar (toString p).toList) (c :: rest) := by
        rw [scan_digits fun _ => Text.isDigit_of_mem_digits, List.nil_append]
    _ = [.placeholder (toString p)] ++ scan .between (c :: rest) := by
        rw [scan_stop hstop, Mode.finish, if_neg (Text.digits_ne_nil p),
          String.ofList_toList]

/-! ## Lists -/

/-- Items with a comma after each but the last. -/
def separated : List (List Token) → List Token
  | [] => []
  | [item] => item
  | item :: next :: rest => item ++ .symbol ',' :: separated (next :: rest)

theorem mem_separated {items : List (List Token)} {t : Token} (h : t ∈ separated items) :
    t = .symbol ',' ∨ ∃ item ∈ items, t ∈ item := by
  induction items with
  | nil => cases h
  | cons item rest ih =>
    cases rest with
    | nil => exact .inr ⟨item, List.mem_cons_self, h⟩
    | cons next rest =>
      rcases List.mem_append.1 h with hitem | hrest
      · exact .inr ⟨item, List.mem_cons_self, hitem⟩
      · rcases List.mem_cons.1 hrest with hcomma | hrest
        · exact .inl hcomma
        · rcases ih hrest with hcomma | ⟨other, hother, hmem⟩
          · exact .inl hcomma
          · exact .inr ⟨other, List.mem_cons_of_mem item hother, hmem⟩

theorem notMem_separated {α : Type} {t : Token} (ht : t ≠ .symbol ',') {tokens : α → List Token}
    {items : List α} (h : ∀ a ∈ items, t ∉ tokens a) : t ∉ separated (items.map tokens) := by
  intro hmem
  rcases mem_separated hmem with hcomma | ⟨_, hitem, htoken⟩
  · exact ht hcomma
  · obtain ⟨a, ha, rfl⟩ := List.mem_map.1 hitem
    exact h a ha htoken

/-- What is read off a list is what is read off its items; the commas give nothing. -/
theorem filterMap_separated_eq_flatMap {β : Type} {f : Token → Option β}
    (hcomma : f (.symbol ',') = none) (items : List (List Token)) :
    (separated items).filterMap f = items.flatMap (List.filterMap f) := by
  induction items with
  | nil => rfl
  | cons item rest ih =>
    cases rest with
    | nil => rw [separated, List.flatMap_singleton]
    | cons next rest =>
      rw [separated, List.filterMap_append, List.filterMap_cons_none hcomma, List.flatMap_cons, ih]

theorem filterMap_separated {α β : Type} {f : Token → Option β} (hcomma : f (.symbol ',') = none)
    {tokens : α → List Token} {reading : α → β} (h : ∀ a, (tokens a).filterMap f = [reading a])
    (items : List α) : (separated (items.map tokens)).filterMap f = items.map reading := by
  rw [filterMap_separated_eq_flatMap hcomma, List.flatMap_map, List.map_eq_flatMap]
  simp only [h]

theorem spells_intercalate {α : Type} {sep : String} (hstart : startsDelimited sep)
    (hsep : Closed sep [.symbol ',']) {text : α → String} {tokens : α → List Token}
    {items : List α} (h : ∀ a ∈ items, Spells (text a) (tokens a)) :
    Spells (sep.intercalate (items.map text)) (separated (items.map tokens)) := by
  induction items with
  | nil => exact Closed.nil.spells
  | cons a rest ih =>
    obtain ⟨ha, hrest⟩ := List.forall_mem_cons.1 h
    cases rest with
    | nil => exact ha
    | cons b rest =>
      have hjoined := (ha.append hstart hsep).append_spells (ih hrest)
      rw [List.append_assoc] at hjoined
      rw [List.map_cons, List.map_cons, String.intercalate_cons_cons]
      exact hjoined

theorem spells_columnList (columns : List String) :
    Spells (columnList columns) (separated (columns.map fun name => [.identifier name])) :=
  spells_intercalate rfl (fun _ => rfl) fun name _ => spells_identifier name

/-- The tokens of placeholders at the given positions, as a list. -/
def placeholderList (positions : List Nat) : List Token :=
  separated (positions.map fun p => [.placeholder (toString p)])

theorem spells_tokens {p : Nat} (h : 1 ≤ p) (count : Nat) :
    Spells (",".intercalate (Placeholder.tokens p count))
      (placeholderList (Placeholder.positions p count)) := by
  rw [Placeholder.tokens_eq_map]
  exact spells_intercalate rfl (fun _ => rfl)
    fun _ hmem => spells_token (Placeholder.one_le_of_mem_positions h hmem)

def sortTokens (key : SortKey) : List Token :=
  [.identifier key.column, .word (if key.ascending then "ASC" else "DESC")]

theorem spells_sortText (key : SortKey) : Spells (sortText key) (sortTokens key) := by
  obtain ⟨column, ascending⟩ := key
  have hdirection : Spells (if ascending then " ASC" else " DESC")
      [.word (if ascending then "ASC" else "DESC")] := by
    intro c rest hc
    rcases isDelimiter_iff.1 hc with rfl | rfl | rfl | rfl <;> cases ascending <;> rfl
  have hstart : startsDelimited (if ascending then " ASC" else " DESC") := by
    cases ascending <;> rfl
  exact (spells_identifier column).append_spells hstart hdirection

theorem spells_orderList (orders : List SortKey) :
    Spells (orderList orders) (separated (orders.map sortTokens)) :=
  spells_intercalate rfl (fun _ => rfl) fun key _ => spells_sortText key

end SqlCatalog.Sql
