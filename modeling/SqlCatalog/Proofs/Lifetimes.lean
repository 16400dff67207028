-- SUMMARY: Which texts are lifetimes, and of how many seconds.
import Mathlib.Data.List.Basic
import SqlCatalog.Lifetime

/-!
# Texts of lifetimes

The notation of lifetimes without the reader: numerals, units, and amounts one
after the other, each with the seconds it stands for. Between blanks, a text is
read exactly when it is written in this notation and its seconds fit 63 bits.
The reader keeps the sum of the amounts so far and the digits of the next one.
It refuses an amount as soon as the sum leaves the range; since no amount is
negative, that happens exactly when the sum of all of them does.
-/

namespace SqlCatalog.Lifetime

/-! ## The notation -/

/-- One or more decimal digits. -/
structure Numeral where
  digits : List Char
  nonempty : digits ≠ []
  decimal : ∀ c ∈ digits, c.isDigit = true

def Numeral.value (m : Numeral) : Nat := Nat.ofDigitChars 10 m.digits 0

inductive TimeUnit where
  | second
  | minute
  | hour
  | day

namespace TimeUnit

def letter : TimeUnit → Char
  | .second => 's'
  | .minute => 'm'
  | .hour => 'h'
  | .day => 'd'

def seconds : TimeUnit → Nat
  | .second => 1
  | .minute => 60
  | .hour => 3600
  | .day => 86400

theorem isDigit_letter (u : TimeUnit) : u.letter.isDigit = false := by
  cases u <;> decide

end TimeUnit

/-- A numeral with a unit. -/
structure Amount where
  number : Numeral
  unit : TimeUnit

namespace Amount

def chars (a : Amount) : List Char := a.number.digits ++ [a.unit.letter]

def seconds (a : Amount) : Nat := a.number.value * a.unit.seconds

end Amount

def total : List Amount → Nat
  | [] => 0
  | a :: rest => a.seconds + total rest

/-- The seconds that a text without blanks around it stands for. -/
inductive Denotes : List Char → Nat → Prop
  | nothing : Denotes [] 0
  | plain (m : Numeral) : m.value ≤ maxSeconds → Denotes m.digits m.value
  | plus (m : Numeral) : m.value ≤ maxSeconds → Denotes ('+' :: m.digits) m.value
  | minus (more : Nat) : Denotes ('-' :: List.replicate (more + 1) '0') 0
  | amounts {as : List Amount} :
    as ≠ [] → total as ≤ maxSeconds → Denotes (as.flatMap Amount.chars) (total as)

/-! ## Numerals -/

theorem bounded?_eq_some {n m : Nat} : bounded? n = some m ↔ n ≤ maxSeconds ∧ n = m := by
  by_cases h : n ≤ maxSeconds <;> simp [bounded?, h]

theorem bounded?_of_le {n : Nat} (h : n ≤ maxSeconds) : bounded? n = some n := if_pos h

theorem bounded?_eq_none {n : Nat} : bounded? n = none ↔ maxSeconds < n := by
  simp [bounded?]

theorem isNumeral_iff {cs : List Char} : isNumeral cs = true ↔ ∃ m : Numeral, m.digits = cs := by
  simp only [isNumeral, Bool.and_eq_true, decide_eq_true_eq, List.all_eq_true]
  constructor
  · rintro ⟨hne, hdigits⟩
    exact ⟨⟨cs, hne, hdigits⟩, rfl⟩
  · rintro ⟨m, rfl⟩
    exact ⟨m.nonempty, m.decimal⟩

theorem Numeral.isNumeral_digits (m : Numeral) : isNumeral m.digits = true :=
  isNumeral_iff.2 ⟨m, rfl⟩

theorem numeral?_digits (m : Numeral) : numeral? m.digits = bounded? m.value :=
  if_pos m.isNumeral_digits

theorem numeral?_eq_some {ds : List Char} {n : Nat} :
    numeral? ds = some n ↔ ∃ m : Numeral, m.digits = ds ∧ m.value = n ∧ n ≤ maxSeconds := by
  constructor
  · intro h
    by_cases hdigits : isNumeral ds = true
    · obtain ⟨m, rfl⟩ := isNumeral_iff.1 hdigits
      rw [numeral?_digits] at h
      obtain ⟨hbound, rfl⟩ := bounded?_eq_some.1 h
      exact ⟨m, rfl, rfl, hbound⟩
    · rw [numeral?, if_neg hdigits] at h
      cases h
  · rintro ⟨m, rfl, rfl, hbound⟩
    rw [numeral?_digits]
    exact bounded?_of_le hbound

theorem ofDigitChars_eq_zero {cs : List Char} (h : ∀ c ∈ cs, c.isDigit = true) {start : Nat} :
    Nat.ofDigitChars 10 cs start = 0 ↔ start = 0 ∧ ∀ c ∈ cs, c = '0' := by
  induction cs generalizing start with
  | nil => simp
  | cons c cs ih =>
    obtain ⟨hc, hcs⟩ := List.forall_mem_cons.1 h
    have hzero : 10 * start + (c.toNat - '0'.toNat) = 0 ↔ start = 0 ∧ c = '0' := by
      have hlow := (Char.isDigit_iff_toNat.1 hc).1
      rw [← Char.toNat_inj]
      omega
    rw [Nat.ofDigitChars_cons, ih hcs, hzero, List.forall_mem_cons, and_assoc]

/-- The numerals of value zero are the runs of zeros. -/
theorem Numeral.value_eq_zero {m : Numeral} :
    m.value = 0 ↔ ∃ more, m.digits = List.replicate (more + 1) '0' := by
  rw [value, ofDigitChars_eq_zero m.decimal]
  constructor
  · rintro ⟨-, hzeros⟩
    have hlength : m.digits.length ≠ 0 := by simpa using m.nonempty
    refine ⟨m.digits.length - 1, List.eq_replicate_iff.2 ⟨by omega, hzeros⟩⟩
  · rintro ⟨more, hmore⟩
    rw [hmore]
    exact ⟨rfl, fun c hc => List.eq_of_mem_replicate hc⟩

/-! ## Plain numbers -/

theorem denotes_of_plain? {cs : List Char} {n : Nat} (h : plain? cs = some n) : Denotes cs n := by
  unfold plain? at h
  split at h
  · obtain ⟨m, rfl, rfl, hbound⟩ := numeral?_eq_some.1 h
    exact .plus m hbound
  · split at h
    · rename_i hdigits
      obtain ⟨hdigits, hzero⟩ := Bool.and_eq_true_iff.1 hdigits
      obtain ⟨m, rfl⟩ := isNumeral_iff.1 hdigits
      obtain ⟨more, hmore⟩ := Numeral.value_eq_zero.1 (of_decide_eq_true hzero)
      cases h
      rw [hmore]
      exact .minus more
    · cases h
  · obtain ⟨m, rfl, rfl, hbound⟩ := numeral?_eq_some.1 h
    exact .plain m hbound

theorem plain?_digits (m : Numeral) : plain? m.digits = bounded? m.value := by
  unfold plain?
  split
  · rename_i heq
    have hsign := m.decimal '+' (by simp [heq])
    cases hsign
  · rename_i heq
    have hsign := m.decimal '-' (by simp [heq])
    cases hsign
  · exact numeral?_digits m

theorem plain?_plus (m : Numeral) : plain? ('+' :: m.digits) = bounded? m.value :=
  numeral?_digits m

theorem plain?_minus (more : Nat) : plain? ('-' :: List.replicate (more + 1) '0') = some 0 := by
  let zeros : Numeral := ⟨List.replicate (more + 1) '0', by simp, by simp⟩
  have hzero : zeros.value = 0 := Numeral.value_eq_zero.2 ⟨more, rfl⟩
  exact if_pos (Bool.and_eq_true_iff.2 ⟨zeros.isNumeral_digits, decide_eq_true hzero⟩)

/-- A text with a unit in it is no plain number. -/
theorem plain?_eq_none {u : TimeUnit} {cs : List Char} (h : u.letter ∈ cs) : plain? cs = none := by
  have hsigns : u.letter ≠ '+' ∧ u.letter ≠ '-' := by
    cases u <;> decide
  have hnumeral {ds : List Char} (hmem : u.letter ∈ ds) : isNumeral ds = false := by
    simp only [isNumeral, Bool.and_eq_false_iff, List.all_eq_false]
    exact .inr ⟨u.letter, hmem, by simp [u.isDigit_letter]⟩
  unfold plain?
  split
  · rw [numeral?, hnumeral ((List.mem_cons.1 h).resolve_left hsigns.1)]
    rfl
  · rw [hnumeral ((List.mem_cons.1 h).resolve_left hsigns.2)]
    rfl
  · rw [numeral?, hnumeral h]
    rfl

/-! ## Amounts -/

theorem unitSeconds?_eq_some {c : Char} {n : Nat} :
    unitSeconds? c = some n ↔ ∃ u : TimeUnit, u.letter = c ∧ u.seconds = n := by
  constructor
  · intro h
    unfold unitSeconds? at h
    split at h
    · exact ⟨.second, rfl, Option.some.inj h⟩
    · exact ⟨.minute, rfl, Option.some.inj h⟩
    · exact ⟨.hour, rfl, Option.some.inj h⟩
    · exact ⟨.day, rfl, Option.some.inj h⟩
    · cases h
  · rintro ⟨u, rfl, rfl⟩
    cases u <;> rfl

theorem amounts?_digits {ds : List Char} (h : ∀ c ∈ ds, c.isDigit = true) (sum : Nat)
    (pending rest : List Char) :
    amounts? sum pending (ds ++ rest) = amounts? sum (ds.reverse ++ pending) rest := by
  induction ds generalizing pending with
  | nil => rfl
  | cons c ds ih =>
    obtain ⟨hc, hds⟩ := List.forall_mem_cons.1 h
    rw [List.cons_append, amounts?, if_pos hc, ih hds, List.reverse_cons, List.append_assoc,
      List.singleton_append]

theorem Amount.number_le_seconds (a : Amount) : a.number.value ≤ a.seconds := by
  have hunit : 0 < a.unit.seconds := by
    cases a.unit <;> decide
  exact Nat.le_mul_of_pos_right a.number.value hunit

/-- The checks of an amount, of its seconds and of the new sum refuse what a check of the sum alone
refuses: neither of the others exceeds it. -/
theorem checked_sum (a : Amount) (sum : Nat) :
    ((bounded? a.number.value).bind fun amount =>
      (bounded? (amount * a.unit.seconds)).bind fun seconds => bounded? (sum + seconds)) =
      bounded? (sum + a.seconds) := by
  have hnumber := a.number_le_seconds
  by_cases hfits : sum + a.seconds ≤ maxSeconds
  · have hseconds : a.number.value * a.unit.seconds ≤ maxSeconds := by
      change a.seconds ≤ maxSeconds
      omega
    rw [bounded?_of_le (by omega), Option.bind_some, bounded?_of_le hseconds, Option.bind_some]
    rfl
  · have hexceeds := Nat.lt_of_not_le hfits
    rw [bounded?_eq_none.2 hexceeds, Option.bind_eq_none_iff]
    intro amount hamount
    obtain ⟨-, rfl⟩ := bounded?_eq_some.1 hamount
    rw [Option.bind_eq_none_iff]
    intro seconds hseconds
    obtain ⟨-, rfl⟩ := bounded?_eq_some.1 hseconds
    exact bounded?_eq_none.2 hexceeds

theorem amounts?_chars (a : Amount) (sum : Nat) (rest : List Char) :
    amounts? sum [] (a.chars ++ rest) =
      (bounded? (sum + a.seconds)).bind fun sum => amounts? sum [] rest := by
  have hunit : unitSeconds? a.unit.letter = some a.unit.seconds :=
    unitSeconds?_eq_some.2 ⟨a.unit, rfl, rfl⟩
  rw [Amount.chars, List.append_assoc, amounts?_digits a.number.decimal, List.append_nil,
    List.singleton_append, amounts?, if_neg (by simp [a.unit.isDigit_letter]), hunit,
    List.reverse_reverse, numeral?_digits, ← checked_sum]
  simp only [Option.bind_eq_bind, Option.bind_some, Option.bind_assoc]

/-- Amounts are read as their sum, unless it leaves the range. -/
theorem amounts?_complete (as : List Amount) {sum : Nat} (h : sum ≤ maxSeconds) :
    amounts? sum [] (as.flatMap Amount.chars) = bounded? (sum + total as) := by
  induction as generalizing sum with
  | nil => exact (bounded?_of_le h).symm
  | cons a rest ih =>
    rw [List.flatMap_cons, amounts?_chars, total, ← Nat.add_assoc]
    by_cases hfits : sum + a.seconds ≤ maxSeconds
    · rw [bounded?_of_le hfits, Option.bind_some, ih hfits]
    · have hafter : maxSeconds < sum + a.seconds + total rest := by omega
      rw [bounded?_eq_none.2 (by omega), bounded?_eq_none.2 hafter]
      rfl

/-- What is read as amounts is written as amounts. -/
theorem amounts?_sound {sum n : Nat} {pending cs : List Char}
    (hpending : ∀ c ∈ pending, c.isDigit = true) (h : amounts? sum pending cs = some n) :
    ∃ as : List Amount, pending.reverse ++ cs = as.flatMap Amount.chars := by
  -- The digits of an unfinished amount go before the rest of the text.
  induction cs generalizing sum pending with
  | nil =>
    unfold amounts? at h
    split at h
    · rename_i hnone
      exact ⟨[], by simp [hnone]⟩
    · cases h
  | cons c rest ih =>
    unfold amounts? at h
    split at h
    · rename_i hc
      obtain ⟨as, has⟩ := ih (List.forall_mem_cons.2 ⟨hc, hpending⟩) h
      exact ⟨as, by simpa using has⟩
    · obtain ⟨unit, hunit, hchecked⟩ := Option.bind_eq_some_iff.1 h
      obtain ⟨amount, hamount, hscaled⟩ := Option.bind_eq_some_iff.1 hchecked
      obtain ⟨seconds, -, hadded⟩ := Option.bind_eq_some_iff.1 hscaled
      obtain ⟨sum, -, hrest⟩ := Option.bind_eq_some_iff.1 hadded
      obtain ⟨u, rfl, -⟩ := unitSeconds?_eq_some.1 hunit
      obtain ⟨number, hdigits, -⟩ := numeral?_eq_some.1 hamount
      obtain ⟨as, has⟩ := ih (by simp) hrest
      refine ⟨⟨number, u⟩ :: as, ?_⟩
      rw [List.flatMap_cons, ← has]
      simp [Amount.chars, hdigits]

theorem total_append (as bs : List Amount) : total (as ++ bs) = total as + total bs := by
  induction as with
  | nil => simp [total]
  | cons a rest ih => rw [List.cons_append, total, total, ih, Nat.add_assoc]

/-- A sum leaves the range where some amount does, or its seconds, or the sum up to it. -/
theorem total_exceeds_iff {as : List Amount} (hne : as ≠ []) :
    maxSeconds < total as ↔ ∃ before a after, as = before ++ a :: after ∧
      (maxSeconds < a.number.value ∨ maxSeconds < a.seconds ∨
        maxSeconds < total (before ++ [a])) := by
  constructor
  · intro h
    have hlast := List.dropLast_append_getLast hne
    exact ⟨as.dropLast, as.getLast hne, [], hlast.symm, .inr (.inr (by rwa [hlast]))⟩
  · rintro ⟨before, a, after, rfl, hexceeds⟩
    have hnumber := a.number_le_seconds
    simp only [total_append, total] at hexceeds ⊢
    omega

/-! ## Texts -/

theorem ofText?_eq (text : String) : ofText? text =
    if Text.trim text.toList = [] then some 0
    else (plain? (Text.trim text.toList)).or (amounts? 0 [] (Text.trim text.toList)) := by
  unfold ofText?
  split
  · rename_i hnone
    rw [if_pos hnone]
  · rename_i c cs hsome
    rw [hsome, if_neg (by simp)]
    cases plain? (c :: cs) <;> rfl

theorem ofText?_amounts {text : String} {as : List Amount} (hne : as ≠ [])
    (h : Text.trim text.toList = as.flatMap Amount.chars) : ofText? text = bounded? (total as) := by
  obtain ⟨a, rest, rfl⟩ := List.exists_cons_of_ne_nil hne
  have hletter : a.unit.letter ∈ (a :: rest).flatMap Amount.chars := by simp [Amount.chars]
  rw [ofText?_eq, h, if_neg (List.ne_nil_of_mem hletter), plain?_eq_none hletter, Option.none_or,
    amounts?_complete _ (Nat.zero_le _), Nat.zero_add]

theorem denotes_of_ofText? {text : String} {n : Nat} (h : ofText? text = some n) :
    Denotes (Text.trim text.toList) n := by
  rw [ofText?_eq] at h
  split at h
  · rename_i hnone
    cases h
    rw [hnone]
    exact .nothing
  · rename_i hne
    rcases Option.or_eq_some_iff.1 h with hplain | ⟨-, hamounts⟩
    · exact denotes_of_plain? hplain
    · obtain ⟨as, has⟩ := amounts?_sound (by simp) hamounts
      rw [List.reverse_nil, List.nil_append] at has
      rw [has] at hamounts hne ⊢
      rw [amounts?_complete as (Nat.zero_le _), Nat.zero_add] at hamounts
      obtain ⟨hbound, rfl⟩ := bounded?_eq_some.1 hamounts
      exact .amounts (by rintro rfl; exact hne rfl) hbound

theorem ofText?_of_plain? {text : String} {n : Nat} (hne : Text.trim text.toList ≠ [])
    (h : plain? (Text.trim text.toList) = some n) : ofText? text = some n := by
  rw [ofText?_eq, if_neg hne, h]
  rfl

theorem ofText?_of_denotes {text : String} {n : Nat} (h : Denotes (Text.trim text.toList) n) :
    ofText? text = some n := by
  generalize htext : Text.trim text.toList = t at h
  cases h with
  | nothing => rw [ofText?_eq, if_pos htext]
  | plain m hbound =>
    apply ofText?_of_plain? <;> rw [htext]
    · exact m.nonempty
    · rw [plain?_digits]
      exact bounded?_of_le hbound
  | plus m hbound =>
    apply ofText?_of_plain? <;> rw [htext]
    · simp
    · rw [plain?_plus]
      exact bounded?_of_le hbound
  | minus more =>
    apply ofText?_of_plain? <;> rw [htext]
    · simp
    · exact plain?_minus more
  | amounts hne hbound =>
    rw [ofText?_amounts hne htext]
    exact bounded?_of_le hbound

/-- A text is read as `n` seconds exactly when it stands for them, and refused in every other case.
A text of amounts is refused exactly when on the way some amount, its seconds or the sum so far
leaves the range. -/
theorem ofText?_exact (text : String) :
    (∀ n, ofText? text = some n ↔ Denotes (Text.trim text.toList) n) ∧
      ∀ as : List Amount, as ≠ [] → Text.trim text.toList = as.flatMap Amount.chars →
        (ofText? text = none ↔ ∃ before a after, as = before ++ a :: after ∧
          (maxSeconds < a.number.value ∨ maxSeconds < a.seconds ∨
            maxSeconds < total (before ++ [a]))) := by
  constructor
  · intro n
    exact ⟨denotes_of_ofText?, ofText?_of_denotes⟩
  · intro as hne htext
    rw [ofText?_amounts hne htext, bounded?_eq_none, total_exceeds_iff hne]

/-- The longest lifetime in days and seconds, and one second more. -/
theorem ofText?_exact_longest :
    ofText? " 106751991167300d55807s\n" = some 9223372036854775807 ∧
      ofText? "106751991167300d55808s" = none := by
  let days : Amount := ⟨⟨"106751991167300".toList, by simp, by simp⟩, .day⟩
  let fits : Amount := ⟨⟨"55807".toList, by simp, by simp⟩, .second⟩
  let exceeds : Amount := ⟨⟨"55808".toList, by simp, by simp⟩, .second⟩
  constructor
  · apply ((ofText?_exact _).1 _).2
    have htotal : total [days, fits] = 9223372036854775807 := by decide
    have hdenotes : Denotes ([days, fits].flatMap Amount.chars) (total [days, fits]) :=
      .amounts (by simp) (by rw [htotal]; decide)
    rwa [htotal] at hdenotes
  · apply ((ofText?_exact _).2 [days, exceeds] (by simp) (by decide)).2
    exact ⟨[days], exceeds, [], rfl, .inr (.inr (by decide))⟩

end SqlCatalog.Lifetime
