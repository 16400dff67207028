-- SUMMARY: Indented JSON says the same as the compact text.
import SqlCatalog.Proofs.JsonText

/-!
# Indented JSON

The indented text of a value differs from the compact one in blanks between
tokens, and the scanner skips these. So both texts are scanned into the same
tokens and read as the same document, also when a newline ends the indented one.
-/

namespace SqlCatalog.Json

namespace Scan

/-! ## Blanks -/

theorem run_gap {c : Char} (h : isGap c = true) (ts : List Token) (rest : List Char) :
    run (past ts) (c :: rest) = run (past ts) rest := by
  have hstep : step (past ts) c = some (past ts) := if_pos h
  rw [run_cons, hstep, Option.bind_some]

/-- A new line and its indentation say nothing. -/
theorem run_newline (indent : Nat) (ts : List Token) (rest : List Char) :
    run (past ts) (Value.newline indent ++ rest) = run (past ts) rest := by
  have hblanks : run (past ts) (List.replicate indent ' ' ++ rest) = run (past ts) rest := by
    induction indent with
    | zero => rfl
    | succ indent ih =>
      rw [List.replicate_succ, List.cons_append, run_gap rfl]
      exact ih
  rw [Value.newline, List.cons_append, run_gap rfl]
  exact hblanks

theorem Ended.newline (indent : Nat) (rest : List Char) :
    Ended (Value.newline indent ++ rest) :=
  .cons rfl rfl

/-! ## Values -/

mutual

/-- An indented value is scanned into its tokens. -/
theorem run_prettyChars (indent : Nat) (v : Value) (hv : ∀ n ∈ v.numbers, n.isInt = true)
    (ts : List Token) {rest : List Char} (hrest : Ended rest) :
    run (past ts) (v.prettyChars indent ++ rest) = run (past (ts ++ v.tokens)) rest := by
  -- Scalars and empty brackets are written as in the compact text.
  match v with
  | .null => exact run_chars .null hv ts hrest
  | .bool true => exact run_chars (.bool true) hv ts hrest
  | .bool false => exact run_chars (.bool false) hv ts hrest
  | .number n => exact run_chars (.number n) hv ts hrest
  | .string s => exact run_chars (.string s) hv ts hrest
  | .array [] => exact run_chars (.array []) hv ts hrest
  | .object [] => exact run_chars (.object []) hv ts hrest
  | .array (v :: items) =>
    have hitems := run_prettyItems (indent + 2) (v :: items) hv (ts ++ [.openArray])
      (Ended.newline indent (']' :: rest))
    simp only [Value.prettyChars, Value.tokens, List.cons_append, List.append_assoc,
      List.nil_append]
    rw [run_mark (t := .openArray) (fun _ => rfl), hitems, run_newline,
      run_mark (t := .closeArray) (fun _ => rfl)]
    simp
  | .object (m :: members) =>
    have hmembers := run_prettyMembers (indent + 2) (m :: members) hv (ts ++ [.openObject])
      (Ended.newline indent ('\x7d' :: rest))
    simp only [Value.prettyChars, Value.tokens, List.cons_append, List.append_assoc,
      List.nil_append]
    rw [run_mark (t := .openObject) (fun _ => rfl), hmembers, run_newline,
      run_mark (t := .closeObject) (fun _ => rfl)]
    simp

theorem run_prettyItems (indent : Nat) (items : List Value)
    (hv : ∀ n ∈ Value.itemNumbers items, n.isInt = true) (ts : List Token) {rest : List Char}
    (hrest : Ended rest) :
    run (past ts) (Value.prettyItems indent items ++ rest) =
      run (past (ts ++ Value.itemTokens items)) rest := by
  match items with
  | [] => simp [Value.prettyItems, Value.itemTokens]
  | [v] =>
    rw [Value.prettyItems, List.append_assoc, run_newline]
    exact run_prettyChars indent v (by simpa [Value.itemNumbers] using hv) ts hrest
  | v :: w :: items =>
    rw [Value.itemNumbers, List.forall_mem_append] at hv
    have hitem := run_prettyChars indent v hv.1 ts
      (show Ended (',' :: (Value.prettyItems indent (w :: items) ++ rest)) from .cons rfl rfl)
    have hitems := run_prettyItems indent (w :: items) hv.2 (ts ++ v.tokens ++ [.comma]) hrest
    simp only [Value.prettyItems, Value.itemTokens, List.cons_append, List.append_assoc]
    rw [run_newline, hitem, run_mark (t := .comma) (fun _ => rfl), hitems]
    simp

theorem run_prettyMembers (indent : Nat) (members : List (String × Value))
    (hv : ∀ n ∈ Value.memberNumbers members, n.isInt = true) (ts : List Token) {rest : List Char}
    (hrest : Ended rest) :
    run (past ts) (Value.prettyMembers indent members ++ rest) =
      run (past (ts ++ Value.memberTokens members)) rest := by
  match members with
  | [] => simp [Value.prettyMembers, Value.memberTokens]
  | [(k, v)] =>
    have hvalue := run_prettyChars indent v (by simpa [Value.memberNumbers] using hv)
      (ts ++ [.string (some k)] ++ [.colon]) hrest
    simp only [Value.prettyMembers, Value.memberTokens, List.cons_append, List.append_assoc]
    rw [run_newline, run_quoted, run_mark (t := .colon) (fun _ => rfl), run_gap rfl, hvalue]
    simp
  | (k, v) :: m :: members =>
    rw [Value.memberNumbers, List.forall_mem_append] at hv
    have hvalue := run_prettyChars indent v hv.1 (ts ++ [.string (some k)] ++ [.colon])
      (show Ended (',' :: (Value.prettyMembers indent (m :: members) ++ rest)) from .cons rfl rfl)
    have hmembers := run_prettyMembers indent (m :: members) hv.2
      (ts ++ [.string (some k)] ++ [.colon] ++ v.tokens ++ [.comma]) hrest
    simp only [Value.prettyMembers, Value.memberTokens, List.cons_append, List.append_assoc]
    rw [run_newline, run_quoted, run_mark (t := .colon) (fun _ => rfl), run_gap rfl, hvalue,
      run_mark (t := .comma) (fun _ => rfl), hmembers]
    simp

end

end Scan

theorem tokens?_prettyChars {v : Value} (hv : ∀ n ∈ v.numbers, n.isInt = true) :
    tokens? (v.prettyChars 0 ++ ['\n']) = some v.tokens := by
  have hrun := Scan.run_prettyChars 0 v hv [] (Scan.Ended.newline 0 [])
  have hend := Scan.run_newline 0 ([] ++ v.tokens) []
  exact (hrun.trans hend).trans (by simp [Scan.run, Scan.past, Scan.finish])

end SqlCatalog.Json

namespace SqlCatalog

/-- The indented text of a value, ended by a newline, is read as the value's document. -/
theorem Document.ofJson?_pretty {v : Json.Value} (hv : ∀ n ∈ v.numbers, n.isInt = true) :
    Document.ofJson? (v.pretty ++ "\n") = some v.document := by
  have htext : (v.pretty ++ "\n").toList = v.prettyChars 0 ++ ['\n'] := by
    simp [Json.Value.pretty]
  rw [Document.ofJson?, htext, Json.tokens?_prettyChars hv, Option.bind_some,
    Json.document?_tokens]

end SqlCatalog
