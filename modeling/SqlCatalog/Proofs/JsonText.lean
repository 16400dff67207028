-- SUMMARY: Written JSON is read back: the tokens and the document of a value's text.
import Mathlib.Data.List.TakeWhile
import SqlCatalog.Document.Value
import SqlCatalog.Proofs.Digits

/-!
# Written JSON

A value without floating-point numbers is written to a text that is scanned into
the value's tokens and parsed into the value's document. Both readers work from
left to right, so each statement has a text or tokens that follow: what was
written is passed over, and reading goes on with the rest. A word or a numeral
ends only where the next character belongs to neither.
-/

namespace SqlCatalog.Json

/-! ## Parts of a value -/

def Number.isInt : Number → Bool
  | .int _ _ => true
  | .float _ => false

namespace Value

mutual

/-- All numbers in a value. -/
def numbers : Value → List Number
  | .number n => [n]
  | .array items => itemNumbers items
  | .object members => memberNumbers members
  | _ => []

def itemNumbers : List Value → List Number
  | [] => []
  | v :: rest => v.numbers ++ itemNumbers rest

def memberNumbers : List (String × Value) → List Number
  | [] => []
  | (_, v) :: rest => v.numbers ++ memberNumbers rest

end

mutual

/-- The tokens that a value is written with. -/
def tokens : Value → List Token
  | .null => [.null]
  | .bool b => [.bool b]
  | .number n => [.number (some n)]
  | .string s => [.string (some s)]
  | .array items => .openArray :: (itemTokens items ++ [.closeArray])
  | .object members => .openObject :: (memberTokens members ++ [.closeObject])

def itemTokens : List Value → List Token
  | [] => []
  | [v] => v.tokens
  | v :: w :: rest => v.tokens ++ .comma :: itemTokens (w :: rest)

def memberTokens : List (String × Value) → List Token
  | [] => []
  | [(k, v)] => .string (some k) :: .colon :: v.tokens
  | (k, v) :: m :: rest =>
    .string (some k) :: .colon :: (v.tokens ++ .comma :: memberTokens (m :: rest))

end

mutual

/-- What a value says, as a document. -/
def document : Value → Document
  | .null => .null
  | .bool b => .bool b
  | .number n => .number (some n)
  | .string s => .string (some s)
  | .array items => .array (itemDocuments items)
  | .object members => .object (memberDocuments members)

def itemDocuments : List Value → List Document
  | [] => []
  | v :: rest => v.document :: itemDocuments rest

def memberDocuments : List (String × Value) → List (Option String × Document)
  | [] => []
  | (k, v) :: rest => (some k, v.document) :: memberDocuments rest

end

end Value

/-! ## Scanning -/

namespace Scan

/-- Scan the rest of a text. -/
def run (s : Scan) (cs : List Char) : Option (List Token) := (cs.foldlM step s).bind finish

theorem run_cons (s : Scan) (c : Char) (cs : List Char) :
    s.run (c :: cs) = (s.step c).bind fun next => next.run cs := by
  simp only [run, List.foldlM_cons]
  cases s.step c with
  | none => rfl
  | some next => rfl

/-- The scanner after complete tokens. -/
def past (ts : List Token) : Scan := ⟨ts.reverse, .between⟩

theorem emit_past (ts : List Token) (m : Mode) (t : Token) :
    emit ⟨ts.reverse, m⟩ t = past (ts ++ [t]) := by
  simp [emit, past]

/-- No word or numeral goes on in the text. -/
def Ended (rest : List Char) : Prop := ∀ c ∈ rest.head?, c.isLower = false ∧ isNumeral c = false

theorem Ended.nil : Ended [] := fun _ h => nomatch h

theorem Ended.cons {c : Char} {rest : List Char} (hlower : c.isLower = false)
    (hnumeral : isNumeral c = false) : Ended (c :: rest) := by
  rintro _ ⟨⟩
  exact ⟨hlower, hnumeral⟩

/-! ### Words and numerals -/

/-- A kind of token without marks around it: the scanner inside one, the characters that continue
it, and what is made of them at its end. -/
structure Bare where
  mode : List Char → Mode
  inside : Char → Bool
  close : Scan → List Char → Option Scan
  step_mode (ts : List Token) (seen : List Char) (c : Char) :
    step ⟨ts, mode seen⟩ c =
      if inside c then some ⟨ts, mode (c :: seen)⟩
      else (close ⟨ts, mode seen⟩ seen).bind fun s => s.stepBetween c
  finish_mode (ts : List Token) (seen : List Char) :
    finish ⟨ts, mode seen⟩ = (close ⟨ts, mode seen⟩ seen).map fun s => s.tokens.reverse

namespace Bare

def word : Bare := ⟨.word, Char.isLower, closeWord, fun _ _ _ => rfl, fun _ _ => rfl⟩

def numeral : Bare := ⟨.numeral, isNumeral, closeNumeral, fun _ _ _ => rfl, fun _ _ => rfl⟩

variable (b : Bare)

theorem run_inside {cs : List Char} (hcs : ∀ c ∈ cs, b.inside c = true) (ts : List Token)
    (seen rest : List Char) :
    run ⟨ts, b.mode seen⟩ (cs ++ rest) = run ⟨ts, b.mode (cs.reverse ++ seen)⟩ rest := by
  induction cs generalizing seen with
  | nil => rfl
  | cons c cs ih =>
    have hc := hcs c List.mem_cons_self
    have hstep : step ⟨ts, b.mode seen⟩ c = some ⟨ts, b.mode (c :: seen)⟩ := by
      simp [b.step_mode, hc]
    rw [List.cons_append, run_cons, hstep, Option.bind_some,
      ih fun c hc => hcs c (List.mem_cons_of_mem _ hc)]
    simp

theorem run_end {ts : List Token} {seen rest : List Char} {t : Token}
    (hrest : ∀ c ∈ rest.head?, b.inside c = false)
    (hclose : b.close ⟨ts.reverse, b.mode seen⟩ seen = some (past (ts ++ [t]))) :
    run ⟨ts.reverse, b.mode seen⟩ rest = run (past (ts ++ [t])) rest := by
  cases rest with
  | nil =>
    have hfinish : finish ⟨ts.reverse, b.mode seen⟩ = finish (past (ts ++ [t])) := by
      rw [b.finish_mode, hclose]
      rfl
    exact hfinish
  | cons c rest =>
    have hc := hrest c rfl
    have hstep : step ⟨ts.reverse, b.mode seen⟩ c = step (past (ts ++ [t])) c := by
      rw [b.step_mode, hclose, hc]
      rfl
    rw [run_cons, run_cons, hstep]

/-- All characters of a word or numeral, and the token they stand for. -/
theorem run_all {c : Char} {cs rest : List Char} {t : Token} (ts : List Token)
    (hstart : stepBetween (past ts) c = some ⟨ts.reverse, b.mode [c]⟩)
    (hinside : ∀ c ∈ cs, b.inside c = true)
    (hclose : ∀ s, b.close s (cs.reverse ++ [c]) = some (s.emit t))
    (hrest : ∀ c ∈ rest.head?, b.inside c = false) :
    run (past ts) (c :: (cs ++ rest)) = run (past (ts ++ [t])) rest := by
  have hstep : step (past ts) c = some ⟨ts.reverse, b.mode [c]⟩ := hstart
  rw [run_cons, hstep, Option.bind_some, b.run_inside hinside]
  apply b.run_end hrest
  rw [hclose, emit_past]

end Bare

/-- A word and the token it stands for. -/
theorem run_word (c : Char) (word : List Char) {rest : List Char} {t : Token} (ts : List Token)
    (hstart : stepBetween (past ts) c = some ⟨ts.reverse, .word [c]⟩)
    (hword : ∀ c ∈ word, c.isLower = true)
    (hclose : ∀ s, closeWord s (word.reverse ++ [c]) = some (s.emit t)) (hrest : Ended rest) :
    run (past ts) (c :: (word ++ rest)) = run (past (ts ++ [t])) rest :=
  Bare.word.run_all ts hstart hword hclose fun c hc => (hrest c hc).1

theorem stepBetween_numeral {c : Char} (h : c = '-' ∨ c.isDigit = true) (s : Scan) :
    s.stepBetween c = some ⟨s.tokens, .numeral [c]⟩ := by
  rcases h with rfl | h
  · rfl
  · have hne (x : Char) (hx : x.isDigit = false) : c ≠ x := by
      rintro rfl
      rw [hx] at h
      cases h
    simp [stepBetween, isGap, become, h, hne ' ' rfl, hne '\t' rfl, hne '\n' rfl, hne '\r' rfl,
      hne '[' rfl, hne ']' rfl, hne '\x7b' rfl, hne '\x7d' rfl, hne ':' rfl, hne ',' rfl,
      hne '"' rfl]

/-- A numeral and the number it stands for. -/
theorem run_numeral {c : Char} {ds rest : List Char} {n : Numeral} (ts : List Token)
    (hstart : c = '-' ∨ c.isDigit = true) (hds : ∀ c ∈ ds, c.isDigit = true)
    (hread : Numeral.ofChars? (c :: ds) = some n) (hrest : Ended rest) :
    run (past ts) (c :: (ds ++ rest)) = run (past (ts ++ [.number n.number?])) rest := by
  have hnumerals : ∀ c ∈ ds, isNumeral c = true := by
    intro c hc
    simp [isNumeral, hds c hc]
  have hclose (s : Scan) :
      closeNumeral s (ds.reverse ++ [c]) = some (s.emit (.number n.number?)) := by
    simp [closeNumeral, hread]
  exact Bare.numeral.run_all ts (stepBetween_numeral hstart _) hnumerals hclose
    fun c hc => (hrest c hc).2

end Scan

/-! ### Integers -/

namespace Numeral

/-- Only zero itself is written with a zero in front. -/
theorem toDigits_ne_zero_cons (n : Nat) (c : Char) (ds : List Char) :
    Nat.toDigits 10 n ≠ '0' :: c :: ds := by
  intro h
  have hleading := (Text.canonical_toDigits n).leading (by rw [h, List.head?_cons])
  rw [h] at hleading
  cases hleading

theorem spanDigits_toDigits (n : Nat) :
    Text.spanDigits (Nat.toDigits 10 n) = (Nat.toDigits 10 n, []) := by
  have hdigits := (Text.canonical_toDigits n).digits
  rw [Text.spanDigits, List.takeWhile_eq_self_iff.2 hdigits, List.dropWhile_eq_nil_iff.2 hdigits]

/-- The plain numeral of a number, with or without a sign. -/
def ofNat (negative : Bool) (n : Nat) : Numeral := ⟨negative, Nat.toDigits 10 n, [], 0, true⟩

theorem ofUnsigned?_toDigits (negative : Bool) (n : Nat) :
    ofUnsigned? negative (Nat.toDigits 10 n) = some (ofNat negative n) := by
  rw [ofUnsigned?, spanDigits_toDigits]
  dsimp only
  split
  · rename_i hnil
    exact absurd hnil Nat.toDigits_ne_nil
  · rename_i c ds hzero
    exact absurd hzero (toDigits_ne_zero_cons n c ds)
  · rfl

theorem number?_ofNat {value : Int} {negative : Bool} {n : Nat}
    (fits : -9223372036854775808 ≤ value ∧ value < 18446744073709551616)
    (hvalue : value = if negative then -(n : Int) else n) (hzero : ¬ (negative = true ∧ n = 0)) :
    (ofNat negative n).number? = some (.int value fits) := by
  simp only [ofNat, number?, Text.decimalValue_toDigits, true_and]
  rw [if_pos hzero, ← hvalue, Number.ofInt?, dif_pos fits]

end Numeral

namespace Scan

/-- The text of an integer and the integer. -/
theorem run_int (ts : List Token) {rest : List Char} (value : Int)
    (fits : -9223372036854775808 ≤ value ∧ value < 18446744073709551616) (hrest : Ended rest) :
    run (past ts) ((toString value).toList ++ rest) =
      run (past (ts ++ [.number (some (.int value fits))])) rest := by
  have hdigits (n : Nat) := (Text.canonical_toDigits n).digits
  cases value with
  | ofNat n =>
    have htext : (toString (Int.ofNat n)).toList = Nat.toDigits 10 n := Nat.toList_repr
    obtain ⟨c, ds, hcons⟩ := List.exists_cons_of_ne_nil (Nat.toDigits_ne_nil (b := 10) (n := n))
    have hc : c.isDigit = true := hdigits n c (hcons ▸ List.mem_cons_self)
    have hread : Numeral.ofChars? (c :: ds) = some (.ofNat false n) := by
      have hminus : c ≠ '-' := by
        rintro rfl
        cases hc
      rw [← Numeral.ofUnsigned?_toDigits, hcons]
      unfold Numeral.ofChars?
      split
      · rename_i heq
        exact absurd (List.cons.inj heq).1 hminus
      · rfl
    have hds : ∀ c ∈ ds, c.isDigit = true :=
      fun c hc => hdigits n c (hcons ▸ List.mem_cons_of_mem _ hc)
    rw [htext, hcons, List.cons_append, run_numeral ts (.inr hc) hds hread hrest,
      Numeral.number?_ofNat fits rfl (by simp)]
  | negSucc n =>
    have htext : (toString (Int.negSucc n)).toList = '-' :: Nat.toDigits 10 (n + 1) := by
      change ("-" ++ (n + 1).repr).toList = _
      rw [String.toList_append, Nat.toList_repr]
      rfl
    have hread : Numeral.ofChars? ('-' :: Nat.toDigits 10 (n + 1)) = some (.ofNat true (n + 1)) :=
      Numeral.ofUnsigned?_toDigits true (n + 1)
    rw [htext, List.cons_append, run_numeral ts (.inl rfl) (hdigits (n + 1)) hread hrest,
      Numeral.number?_ofNat fits rfl (by simp)]

/-! ### Strings -/

/-- A string whose characters so far are complete. -/
def spelled (reversed : List Char) : Mode := .text ⟨reversed, none, true⟩

theorem hexDigit?_hexChar {n : Nat} (h : n < 16) : Text.hexDigit? (hexChar n) = some n := by
  have hall : ∀ n < 16, Text.hexDigit? (hexChar n) = some n := by decide
  exact hall n h

theorem pushUnit_control {c : Char} (h : c.toNat < 0x20) (seen : List Char) :
    Spelling.pushUnit ⟨seen, none, true⟩ c.toNat = ⟨c :: seen, none, true⟩ := by
  have hfirst : Spelling.isFirstHalf c.toNat = false := by
    simp only [Spelling.isFirstHalf, Bool.and_eq_false_iff, decide_eq_false_iff_not]
    omega
  have hsecond : Spelling.isSecondHalf c.toNat = false := by
    simp only [Spelling.isSecondHalf, Bool.and_eq_false_iff, decide_eq_false_iff_not]
    omega
  simp [Spelling.pushUnit, Spelling.push, hfirst, hsecond]

/-- A control character is read back from its four digits. -/
theorem run_unit (ts : List Token) (seen rest : List Char) {c : Char} (h : c.toNat < 0x20) :
    run ⟨ts, spelled seen⟩
        ('\\' :: 'u' :: '0' :: '0' :: hexChar (c.toNat / 16) :: hexChar (c.toNat % 16) :: rest) =
      run ⟨ts, spelled (c :: seen)⟩ rest := by
  have hopen : run ⟨ts, spelled seen⟩ ('\\' :: 'u' :: '0' :: '0' :: hexChar (c.toNat / 16) ::
      hexChar (c.toNat % 16) :: rest) =
      run ⟨ts, .unit ⟨seen, none, true⟩ 2 0⟩
        (hexChar (c.toNat / 16) :: hexChar (c.toNat % 16) :: rest) := rfl
  have hhigh : step ⟨ts, .unit ⟨seen, none, true⟩ 2 0⟩ (hexChar (c.toNat / 16)) =
      some ⟨ts, .unit ⟨seen, none, true⟩ 3 (c.toNat / 16)⟩ := by
    simp [step, become, hexDigit?_hexChar (show c.toNat / 16 < 16 by omega)]
  have hlow : step ⟨ts, .unit ⟨seen, none, true⟩ 3 (c.toNat / 16)⟩ (hexChar (c.toNat % 16)) =
      some ⟨ts, spelled (c :: seen)⟩ := by
    have hvalue : 16 * (c.toNat / 16) + c.toNat % 16 = c.toNat := Nat.div_add_mod c.toNat 16
    simp [step, become, spelled, hexDigit?_hexChar (show c.toNat % 16 < 16 by omega), hvalue,
      pushUnit_control h]
  rw [hopen, run_cons, hhigh, Option.bind_some, run_cons, hlow, Option.bind_some]

/-- A character of a string is read back from what it is written as. -/
theorem run_escape (ts : List Token) (seen rest : List Char) (c : Char) :
    run ⟨ts, spelled seen⟩ (escape c ++ rest) = run ⟨ts, spelled (c :: seen)⟩ rest := by
  unfold escape
  -- Seven characters have a letter of their own; the other control characters are numbered.
  split_ifs with hquote hslash hcontrol hback htab hline hfeed hreturn
  · rw [hquote]
    rfl
  · rw [hslash]
    rfl
  · rw [hback]
    rfl
  · rw [htab]
    rfl
  · rw [hline]
    rfl
  · rw [hfeed]
    rfl
  · rw [hreturn]
    rfl
  · exact run_unit ts seen rest hcontrol
  · simp [run_cons, step, spelled, become, Spelling.push, hquote, hslash, hcontrol]

theorem run_escapes (ts : List Token) (seen cs rest : List Char) :
    run ⟨ts, spelled seen⟩ (cs.flatMap escape ++ rest) =
      run ⟨ts, spelled (cs.reverse ++ seen)⟩ rest := by
  induction cs generalizing seen with
  | nil => rfl
  | cons c cs ih =>
    rw [List.flatMap_cons, List.append_assoc, run_escape, ih]
    simp

theorem run_quoted (ts : List Token) (text : String) (rest : List Char) :
    run (past ts) (quoted text ++ rest) = run (past (ts ++ [.string (some text)])) rest := by
  have hopen : step (past ts) '"' = some ⟨ts.reverse, spelled []⟩ := rfl
  have hclose : step ⟨ts.reverse, spelled text.toList.reverse⟩ '"' =
      some (past (ts ++ [.string (some text)])) := by
    simp [step, spelled, Spelling.finish, emit_past]
  rw [quoted, List.cons_append, List.append_assoc, run_cons, hopen, Option.bind_some, run_escapes,
    List.append_nil, List.singleton_append, run_cons, hclose, Option.bind_some]

/-! ### Values -/

/-- A mark between values and the token it stands for. -/
theorem run_mark {c : Char} {t : Token} (h : ∀ s : Scan, s.stepBetween c = some (s.emit t))
    (ts : List Token) (rest : List Char) :
    run (past ts) (c :: rest) = run (past (ts ++ [t])) rest := by
  have hstep : step (past ts) c = some (past (ts ++ [t])) := by
    rw [← emit_past ts .between t]
    exact h _
  rw [run_cons, hstep, Option.bind_some]

mutual

/-- A written value is scanned into its tokens. -/
theorem run_chars (v : Value) (hv : ∀ n ∈ v.numbers, n.isInt = true) (ts : List Token)
    {rest : List Char} (hrest : Ended rest) :
    run (past ts) (v.chars ++ rest) = run (past (ts ++ v.tokens)) rest := by
  match v with
  | .null => exact run_word 'n' ['u', 'l', 'l'] ts rfl (by simp) (fun _ => rfl) hrest
  | .bool true => exact run_word 't' ['r', 'u', 'e'] ts rfl (by simp) (fun _ => rfl) hrest
  | .bool false => exact run_word 'f' ['a', 'l', 's', 'e'] ts rfl (by simp) (fun _ => rfl) hrest
  | .number (.int value fits) => exact run_int ts value fits hrest
  | .number (.float value) => exact absurd (hv _ List.mem_cons_self) (by simp [Number.isInt])
  | .string s => exact run_quoted ts s rest
  | .array items =>
    have hitems := run_itemChars items hv (ts ++ [.openArray])
      (show Ended (']' :: rest) from .cons rfl rfl)
    simp only [Value.chars, Value.tokens, List.cons_append, List.append_assoc, List.nil_append]
    rw [run_mark (t := .openArray) (fun _ => rfl), hitems,
      run_mark (t := .closeArray) (fun _ => rfl)]
    simp
  | .object members =>
    have hmembers := run_memberChars members hv (ts ++ [.openObject])
      (show Ended ('\x7d' :: rest) from .cons rfl rfl)
    simp only [Value.chars, Value.tokens, List.cons_append, List.append_assoc, List.nil_append]
    rw [run_mark (t := .openObject) (fun _ => rfl), hmembers,
      run_mark (t := .closeObject) (fun _ => rfl)]
    simp

theorem run_itemChars (items : List Value) (hv : ∀ n ∈ Value.itemNumbers items, n.isInt = true)
    (ts : List Token) {rest : List Char} (hrest : Ended rest) :
    run (past ts) (Value.itemChars items ++ rest) =
      run (past (ts ++ Value.itemTokens items)) rest := by
  match items with
  | [] => simp [Value.itemChars, Value.itemTokens]
  | [v] => exact run_chars v (by simpa [Value.itemNumbers] using hv) ts hrest
  | v :: w :: items =>
    rw [Value.itemNumbers, List.forall_mem_append] at hv
    have hitem := run_chars v hv.1 ts
      (show Ended (',' :: (Value.itemChars (w :: items) ++ rest)) from .cons rfl rfl)
    have hitems := run_itemChars (w :: items) hv.2 (ts ++ v.tokens ++ [.comma]) hrest
    simp only [Value.itemChars, Value.itemTokens, List.cons_append, List.append_assoc]
    rw [hitem, run_mark (t := .comma) (fun _ => rfl), hitems]
    simp

theorem run_memberChars (members : List (String × Value))
    (hv : ∀ n ∈ Value.memberNumbers members, n.isInt = true) (ts : List Token) {rest : List Char}
    (hrest : Ended rest) :
    run (past ts) (Value.memberChars members ++ rest) =
      run (past (ts ++ Value.memberTokens members)) rest := by
  match members with
  | [] => simp [Value.memberChars, Value.memberTokens]
  | [(k, v)] =>
    have hvalue := run_chars v (by simpa [Value.memberNumbers] using hv)
      (ts ++ [.string (some k)] ++ [.colon]) hrest
    simp only [Value.memberChars, Value.memberTokens, List.cons_append, List.append_assoc]
    rw [run_quoted, run_mark (t := .colon) (fun _ => rfl), hvalue]
    simp
  | (k, v) :: m :: members =>
    rw [Value.memberNumbers, List.forall_mem_append] at hv
    have hvalue := run_chars v hv.1 (ts ++ [.string (some k)] ++ [.colon])
      (show Ended (',' :: (Value.memberChars (m :: members) ++ rest)) from .cons rfl rfl)
    have hmembers := run_memberChars (m :: members) hv.2
      (ts ++ [.string (some k)] ++ [.colon] ++ v.tokens ++ [.comma]) hrest
    simp only [Value.memberChars, Value.memberTokens, List.cons_append, List.append_assoc]
    rw [run_quoted, run_mark (t := .colon) (fun _ => rfl), hvalue,
      run_mark (t := .comma) (fun _ => rfl), hmembers]
    simp

end

end Scan

theorem tokens?_chars {v : Value} (hv : ∀ n ∈ v.numbers, n.isInt = true) :
    tokens? v.chars = some v.tokens := by
  have hrun := Scan.run_chars v hv [] Scan.Ended.nil
  rw [List.append_nil] at hrun
  exact hrun.trans (by simp [Scan.run, Scan.past, Scan.finish])

/-! ## Parsing -/

/-- A value does not start like the end of an array. -/
theorem Value.tokens_eq_cons (v : Value) : ∃ t ts, v.tokens = t :: ts ∧ t ≠ .closeArray := by
  cases v <;> simp [Value.tokens]

namespace Stage

/-- Parse the rest of the tokens. -/
def run (s : Stage) (ts : List Token) : Option Document := (ts.foldlM step s).bind finish

theorem run_cons (s : Stage) (t : Token) (ts : List Token) :
    s.run (t :: ts) = (s.step t).bind fun next => next.run ts := by
  simp only [run, List.foldlM_cons]
  cases s.step t with
  | none => rfl
  | some next => rfl

/-- An array that does not end at once goes on with a value. -/
theorem run_arrayStart (v : Value) (open_ : List Frame) (rest : List Token) :
    run (.arrayStart open_) (v.tokens ++ rest) =
      run (.value (.array [] :: open_)) (v.tokens ++ rest) := by
  obtain ⟨t, ts, htokens, hne⟩ := v.tokens_eq_cons
  have hstep : step (.arrayStart open_) t = step (.value (.array [] :: open_)) t := by
    cases t with
    | closeArray => exact absurd rfl hne
    | _ => rfl
  rw [htokens, List.cons_append, run_cons, run_cons, hstep]

mutual

/-- The tokens of a value are parsed into its document, whatever is open around it. -/
theorem run_tokens (v : Value) (open_ : List Frame) (rest : List Token) :
    run (.value open_) (v.tokens ++ rest) = run (.after v.document open_) rest := by
  match v with
  | .null | .bool _ | .number _ | .string _ => rfl
  | .array [] => rfl
  | .array (v :: items) =>
    -- Only before the first item may the array end, which no value's first token does.
    have hitems := run_itemTokens (v :: items) (List.cons_ne_nil _ _) [] open_ rest
    have hstart : run (.arrayStart open_) (Value.itemTokens (v :: items) ++ .closeArray :: rest) =
        run (.value (.array [] :: open_))
          (Value.itemTokens (v :: items) ++ .closeArray :: rest) := by
      cases items with
      | nil => exact run_arrayStart v open_ _
      | cons w items =>
        simp only [Value.itemTokens, List.append_assoc]
        exact run_arrayStart v open_ _
    simp only [Value.tokens, List.cons_append, List.append_assoc, List.nil_append]
    exact hstart.trans hitems
  | .object [] => rfl
  | .object ((k, v) :: members) =>
    have hmembers := run_memberTokens ((k, v) :: members) (List.cons_ne_nil _ _) [] open_ rest
    simp only [Value.tokens, List.cons_append, List.append_assoc, List.nil_append]
    cases members with
    | nil => exact hmembers
    | cons m members => exact hmembers

/-- What is left of an array after the items that are done. -/
theorem run_itemTokens (items : List Value) (hne : items ≠ []) (done : List Document)
    (open_ : List Frame) (rest : List Token) :
    run (.value (.array done :: open_)) (Value.itemTokens items ++ .closeArray :: rest) =
      run (.after (.array (done.reverse ++ Value.itemDocuments items)) open_) rest := by
  match items with
  | [] => exact absurd rfl hne
  | [v] =>
    have hclose : step (.after v.document (.array done :: open_)) .closeArray =
        some (.after (.array (done.reverse ++ [v.document])) open_) := by
      simp [step]
    simp only [Value.itemTokens, Value.itemDocuments]
    rw [run_tokens v, run_cons, hclose, Option.bind_some]
  | v :: w :: items =>
    have hitems :=
      run_itemTokens (w :: items) (List.cons_ne_nil _ _) (v.document :: done) open_ rest
    simp only [Value.itemTokens, List.append_assoc, List.cons_append]
    rw [run_tokens v, run_cons]
    refine hitems.trans ?_
    simp [Value.itemDocuments]

/-- What is left of an object after the members that are done. -/
theorem run_memberTokens (members : List (String × Value)) (hne : members ≠ [])
    (done : List (Option String × Document)) (open_ : List Frame) (rest : List Token) :
    run (.key done open_) (Value.memberTokens members ++ .closeObject :: rest) =
      run (.after (.object (done.reverse ++ Value.memberDocuments members)) open_) rest := by
  match members with
  | [] => exact absurd rfl hne
  | [(k, v)] =>
    have hclose : step (.after v.document (.member done (some k) :: open_)) .closeObject =
        some (.after (.object (done.reverse ++ [(some k, v.document)])) open_) := by
      simp [step]
    have hvalue := run_tokens v (.member done (some k) :: open_) (.closeObject :: rest)
    rw [run_cons, hclose, Option.bind_some] at hvalue
    exact hvalue
  | (k, v) :: m :: members =>
    have hmembers := run_memberTokens (m :: members) (List.cons_ne_nil _ _)
      ((some k, v.document) :: done) open_ rest
    have hvalue := run_tokens v (.member done (some k) :: open_)
      (.comma :: (Value.memberTokens (m :: members) ++ .closeObject :: rest))
    simp only [Value.memberTokens, List.append_assoc, List.cons_append]
    refine hvalue.trans (hmembers.trans ?_)
    simp [Value.memberDocuments]

end

end Stage

theorem document?_tokens (v : Value) : document? v.tokens = some v.document := by
  have hrun := Stage.run_tokens v [] []
  rw [List.append_nil] at hrun
  exact hrun

end SqlCatalog.Json

namespace SqlCatalog

/-- The text of a value is read as the value's document. -/
theorem Document.ofJson?_render {v : Json.Value} (hv : ∀ n ∈ v.numbers, n.isInt = true) :
    Document.ofJson? v.render = some v.document := by
  rw [Document.ofJson?, Json.Value.render, String.toList_ofList, Json.tokens?_chars hv,
    Option.bind_some, Json.document?_tokens]

end SqlCatalog
