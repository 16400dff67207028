-- SUMMARY: Each bound value of a compiled query belongs to one placeholder of its text.
import SqlCatalog.Proofs.Reading

/-!
# Alignment of values and placeholders

The values of a compiled query are handed over as a list, and its text refers to
them by position. Reading the text back, each placeholder stands after the column
it is compared with; the placeholders from left to right, with their columns, are
those of the bindings in their order.
-/

namespace SqlCatalog

open Sql

/-! ## Placements -/

namespace Sql

/-- The placeholders among the tokens, each with the last identifier before it; `column` is
the one before them all. -/
def placed (column : String) : List Token → List (String × String)
  | [] => []
  | .identifier name :: rest => placed name rest
  | .placeholder digits :: rest => (column, "$" ++ digits) :: placed column rest
  | _ :: rest => placed column rest

/-- The placeholders of a text from left to right, each with the column it stands after. -/
def placements (text : String) : List (String × String) := placed "" (lex text)

theorem map_snd_placed (column : String) (tokens : List Token) :
    (placed column tokens).map Prod.snd = tokens.filterMap Token.placeholder? := by
  fun_induction placed column tokens with
  | case1 => rfl
  | case2 column name rest ih => exact ih
  | case3 column digits rest ih => rw [List.map_cons, ih]; rfl
  | case4 column token rest hident hplace ih =>
    cases token with
    | placeholder digits => exact absurd rfl (hplace digits)
    | quoted mark text => exact ih
    | word text => exact ih
    | symbol c => exact ih
    | unclosed mark text => exact ih

theorem map_snd_placements (text : String) :
    (placements text).map Prod.snd = placeholders text := map_snd_placed "" (lex text)

/-- Wherever `tokens` stand, they contribute `slots`. -/
def Places (tokens : List Token) (slots : List (String × String)) : Prop :=
  ∀ column rest, ∃ last, placed column (tokens ++ rest) = slots ++ placed last rest

theorem Places.nil : Places [] [] := fun column _ => ⟨column, rfl⟩

theorem Places.append {as bs : List Token} {slots more : List (String × String)}
    (ha : Places as slots) (hb : Places bs more) : Places (as ++ bs) (slots ++ more) := by
  intro column rest
  obtain ⟨middle, hmiddle⟩ := ha column (bs ++ rest)
  obtain ⟨last, hlast⟩ := hb middle rest
  exact ⟨last, by rw [List.append_assoc, hmiddle, hlast, List.append_assoc]⟩

theorem Places.placed_eq {tokens : List Token} {slots : List (String × String)}
    (h : Places tokens slots) (column : String) : placed column tokens = slots := by
  obtain ⟨last, hlast⟩ := h column []
  rwa [List.append_nil, placed, List.append_nil] at hlast

theorem places_symbol (c : Char) : Places [.symbol c] [] := fun column _ => ⟨column, rfl⟩

theorem placed_placeholderList (column : String) (ps : List Nat) (rest : List Token) :
    placed column (placeholderList ps ++ rest) =
      ps.map (fun p => (column, Placeholder.numbered p)) ++ placed column rest := by
  induction ps with
  | nil => rfl
  | cons p ps ih =>
    cases ps with
    | nil => rfl
    | cons next ps =>
      have hcons : placed column (placeholderList (p :: next :: ps) ++ rest) =
          (column, Placeholder.numbered p) ::
            placed column (placeholderList (next :: ps) ++ rest) := rfl
      rw [hcons, ih]
      rfl

end Sql

/-! ## Placements of skeletons -/

namespace Skeleton

/-- The columns with the placeholders from `position` on. -/
def slots (position : Nat) (columns : List String) : List (String × String) :=
  columns.zip ((Placeholder.positions position columns.length).map Placeholder.numbered)

theorem slots_append (position : Nat) (columns more : List String) :
    slots position (columns ++ more) =
      slots position columns ++ slots (Placeholder.advance position columns.length) more := by
  unfold slots
  rw [List.length_append, Placeholder.positions_add, List.map_append, List.zip_append]
  rw [List.length_map, Placeholder.length_positions]

theorem slots_replicate (position count : Nat) (column : String) :
    slots position (List.replicate count column) =
      (Placeholder.positions position count).map fun p => (column, Placeholder.numbered p) := by
  unfold slots
  rw [List.length_replicate]
  induction count generalizing position with
  | zero => rfl
  | succ count ih =>
    rw [List.replicate_succ, Placeholder.positions, List.map_cons, List.zip_cons_cons, ih,
      List.map_cons]

theorem map_snd_slots (position : Nat) (columns : List String) :
    (slots position columns).map Prod.snd =
      (Placeholder.positions position columns.length).map Placeholder.numbered := by
  refine List.map_snd_zip (Nat.le_of_eq ?_)
  rw [List.length_map, Placeholder.length_positions]

theorem places_leadTokens (lead : Option Connective) : Places (leadTokens lead) [] := by
  cases lead with
  | none => exact Places.nil
  | some c => exact fun column _ => ⟨column, rfl⟩

theorem placed_symbol (operator : Operator) (column : String) (rest : List Token) :
    placed column (lex operator.symbol ++ rest) = placed column rest := by
  cases operator <;> rfl

theorem placed_operandTokens (operator : Operator) (position : Nat) (column : String)
    (rest : List Token) :
    placed column (operandTokens operator position ++ rest) =
      (column, Placeholder.numbered position) :: placed column rest := by
  cases operator <;> rfl

theorem places_comparison (lead : Option Connective) (operator : Operator) (column : String)
    (position : Nat) :
    Places ((comparison lead operator column).tokens position)
      (slots position (comparison lead operator column).columns) := by
  rw [tokens]
  refine (places_leadTokens lead).append fun outer rest => ⟨column, ?_⟩
  rw [List.cons_append, placed, List.append_assoc, placed_symbol, placed_operandTokens]
  rfl

theorem places_membership (lead : Option Connective) (operator : Operator) (column : String)
    (count position : Nat) :
    Places ((membership lead operator column count).tokens position)
      (slots position (membership lead operator column count).columns) := by
  rw [tokens, columns, slots_replicate]
  refine (places_leadTokens lead).append fun outer rest => ⟨column, ?_⟩
  rw [List.cons_append, placed, List.append_assoc, placed_symbol, List.cons_append,
    List.append_assoc]
  exact placed_placeholderList column _ _

theorem places_group (lead : Option Connective) {parts : List Skeleton} {position : Nat}
    (h : Places (tokensAll position parts) (slots position (columnsAll parts))) :
    Places ((group lead parts).tokens position) (slots position (group lead parts).columns) := by
  have hbody := ((places_symbol '(').append h).append (places_symbol ')')
  rw [List.nil_append, List.append_nil] at hbody
  exact (places_leadTokens lead).append hbody

mutual

theorem places_tokens (s : Skeleton) (position : Nat) :
    Places (s.tokens position) (slots position s.columns) := by
  cases s with
  | comparison lead operator column => exact places_comparison lead operator column position
  | membership lead operator column count =>
    exact places_membership lead operator column count position
  | group lead parts => exact places_group lead (places_tokensAll parts position)

theorem places_tokensAll (parts : List Skeleton) (position : Nat) :
    Places (tokensAll position parts) (slots position (columnsAll parts)) := by
  cases parts with
  | nil => exact Places.nil
  | cons s rest =>
    rw [tokensAll, columnsAll, slots_append]
    exact (places_tokens s position).append (places_tokensAll rest _)

end

theorem places_levelTokens (parts : List Skeleton) (position : Nat) :
    Places (levelTokens position parts) (slots position (columnsAll parts)) := by
  cases parts with
  | nil => exact Places.nil
  | cons s rest => exact places_group none (places_tokensAll (s :: rest) position)

end Skeleton

/-! ## Compiled queries -/

namespace Query

theorem placements_compiled (q : Query) {start : Nat} (h : 1 ≤ start) :
    placements (q.compiled start).sql = Skeleton.slots start (q.bindings.map Binding.column) := by
  have hread := (q.closed_levelText h).lex
  have hplaces := Skeleton.places_levelTokens q.skeleton start
  rw [Predicate.columnsAll_query] at hplaces
  rw [placements, compiled, hread]
  exact hplaces.placed_eq ""

theorem placeholders_compiled (q : Query) {start : Nat} (h : 1 ≤ start) :
    placeholders (q.compiled start).sql =
      (Placeholder.positions start q.bindings.length).map Placeholder.numbered := by
  rw [← map_snd_placements, placements_compiled q h, Skeleton.map_snd_slots, List.length_map]

/-- Values, placeholders and the next free position of a compiled query stay in step. The
placeholders stop at the last position; before it each occurs once. -/
theorem compileWhere_aligned {q : Query} {start : Nat} {c : Compiled}
    (hmax : start ≤ Placeholder.maxPosition) (h : q.compileWhere start = .ok c) :
    c.args = q.bindings.map Binding.value ∧
      c.next = min (start + c.args.length) Placeholder.maxPosition ∧
      placeholders c.sql = (List.range c.args.length).map (fun k =>
        Placeholder.numbered (min (start + k) Placeholder.maxPosition)) ∧
      placements c.sql = (q.bindings.map Binding.column).zip (placeholders c.sql) ∧
      (start + c.args.length ≤ Placeholder.maxPosition →
        c.next - start = c.args.length ∧
          placeholders c.sql = (List.range c.args.length).map (fun k =>
            Placeholder.numbered (start + k)) ∧
          (placeholders c.sql).Nodup) := by
  obtain ⟨hzero, -, rfl⟩ := (compileWhere_eq_ok start q c).1 h
  have hstart : 1 ≤ start := Nat.one_le_iff_ne_zero.2 hzero
  have hargs : (q.compiled start).args.length = q.bindings.length := List.length_map _
  have hnext : (q.compiled start).next = min (start + q.bindings.length) Placeholder.maxPosition :=
    Placeholder.advance_eq_min hmax _
  have hplace : placeholders (q.compiled start).sql = (List.range q.bindings.length).map fun k =>
      Placeholder.numbered (min (start + k) Placeholder.maxPosition) := by
    rw [placeholders_compiled q hstart, Placeholder.positions_eq_map_range hmax, List.map_map]
    rfl
  rw [hargs]
  refine ⟨rfl, hnext, hplace, ?_, ?_⟩
  · rw [placements_compiled q hstart, placeholders_compiled q hstart, Skeleton.slots,
      List.length_map]
  · intro hroom
    have hexact : placeholders (q.compiled start).sql =
        (List.range q.bindings.length).map fun k => Placeholder.numbered (start + k) := by
      rw [hplace]
      refine List.map_congr_left fun k hk => ?_
      have hk := List.mem_range.1 hk
      rw [Nat.min_eq_left (by omega)]
    refine ⟨by omega, hexact, ?_⟩
    rw [hexact]
    refine List.Pairwise.map _ (fun j k hne hjk => hne ?_) List.nodup_range
    have hsame := Placeholder.numbered_injective hjk
    omega

/-- A list, a child, and names that hold quotes and placeholders, where positions run out. -/
theorem compileWhere_aligned_at_end :
    let inner : Query := ⟨[⟨.notIn, "b) $2 \x22", .array [.bool true, .null], .and, none⟩], []⟩
    let q : Query := ⟨[⟨.like, "a\x22 $1", .string "x", .and, none⟩,
      ⟨.child, "", .null, .or, some inner⟩], []⟩
    let start := Placeholder.maxPosition - 1
    ∃ c, q.compileWhere start = .ok c ∧ c.args = [.string "x", .bool true, .null] ∧
      c.next = Placeholder.maxPosition ∧
      placements c.sql = [("a\x22 $1", "$18446744073709551614"),
        ("b) $2 \x22", "$18446744073709551615"), ("b) $2 \x22", "$18446744073709551615")] := by
  intro inner q start
  have h : q.compileWhere start = .ok (q.compiled start) :=
    (compileWhere_eq_ok start q _).2 ⟨by decide, by decide, rfl⟩
  obtain ⟨hargs, hnext, hplace, hcolumns, -⟩ := compileWhere_aligned (by decide) h
  refine ⟨_, h, hargs, hnext, ?_⟩
  rw [hcolumns, hplace]
  decide

end Query

end SqlCatalog
