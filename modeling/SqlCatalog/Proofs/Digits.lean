-- SUMMARY: The decimal digits of a number are the one text that writes it.
import SqlCatalog.Text

/-!
# Decimal digits

A number is written in digits that have its value, without a zero in front of
another digit. Exactly one text does that: the digits the number is printed with.
Reading from left to right, the digits read so far are those of the value read so
far, as soon as that value is not zero.
-/

namespace SqlCatalog.Text

/-- The digits `cs` write the number `n`. A zero comes first only in the text `0`. -/
structure Canonical (n : Nat) (cs : List Char) : Prop where
  nonempty : cs ≠ []
  digits : ∀ c ∈ cs, c.isDigit = true
  leading : cs.head? = some '0' → cs = ['0']
  value : decimalValue cs = n

theorem canonical_iff_all {n : Nat} {cs : List Char} :
    Canonical n cs ↔ cs ≠ [] ∧ cs.all Char.isDigit = true ∧
      (cs.head? = some '0' → cs = ['0']) ∧ decimalValue cs = n := by
  rw [List.all_eq_true]
  exact ⟨fun h => ⟨h.nonempty, h.digits, h.leading, h.value⟩,
    fun h => ⟨h.1, h.2.1, h.2.2.1, h.2.2.2⟩⟩

instance (n : Nat) (cs : List Char) : Decidable (Canonical n cs) :=
  decidable_of_iff _ canonical_iff_all.symm

/-! ## Printed digits -/

theorem head?_toDigits {n : Nat} (h : n ≠ 0) : (Nat.toDigits 10 n).head? ≠ some '0' := by
  induction n using Nat.strongRecOn with
  | ind n ih =>
    rcases Nat.lt_or_ge n 10 with hlt | hge
    · rw [Nat.toDigits_of_lt_base hlt]
      simpa using h
    · obtain ⟨first, hfirst⟩ : ∃ first, (Nat.toDigits 10 (n / 10)).head? = some first :=
        Option.ne_none_iff_exists'.1 (by simp [Nat.toDigits_ne_nil])
      have hrest := ih (n / 10) (by omega) (by omega)
      rw [Nat.toDigits_of_base_le (by decide) hge, List.head?_append, hfirst]
      rwa [hfirst] at hrest

theorem decimalValue_toDigits (n : Nat) : decimalValue (Nat.toDigits 10 n) = n :=
  Nat.ofDigitChars_ten_toDigits

theorem canonical_toDigits (n : Nat) : Canonical n (Nat.toDigits 10 n) where
  nonempty := Nat.toDigits_ne_nil
  digits := fun _ hc => Nat.isDigit_of_mem_toDigits (by decide) (by decide) hc
  leading := by
    intro hzero
    by_cases hn : n = 0
    · rw [hn, Nat.toDigits_zero]
    · exact absurd hzero (head?_toDigits hn)
  value := decimalValue_toDigits n

/-! ## Digits read back -/

theorem toNat_digit {c : Char} (h : c.isDigit = true) :
    '0'.toNat ≤ c.toNat ∧ c.toNat < '0'.toNat + 10 :=
  have hbounds := Char.isDigit_iff_toNat.1 h
  ⟨hbounds.1, Nat.lt_succ_of_le hbounds.2⟩

theorem digitValue_lt {c : Char} (h : c.isDigit = true) : c.toNat - '0'.toNat < 10 := by
  have hbounds := toNat_digit h
  omega

theorem toDigits_digitValue {c : Char} (h : c.isDigit = true) :
    Nat.toDigits 10 (c.toNat - '0'.toNat) = [c] := by
  have hlt := digitValue_lt h
  have hchar : Nat.digitChar (c.toNat - '0'.toNat) = c := by
    rw [← Char.toNat_inj, Nat.toNat_digitChar_of_lt_ten hlt]
    exact Nat.add_sub_cancel' (toNat_digit h).1
  rw [Nat.toDigits_of_lt_base hlt, hchar]

/-- Digits read after a value other than zero are appended to the digits of that value. -/
theorem toDigits_ofDigitChars {cs : List Char} (h : ∀ c ∈ cs, c.isDigit = true) {start : Nat}
    (hstart : 0 < start) :
    Nat.toDigits 10 (Nat.ofDigitChars 10 cs start) = Nat.toDigits 10 start ++ cs := by
  induction cs generalizing start with
  | nil => rw [Nat.ofDigitChars_nil, List.append_nil]
  | cons c cs ih =>
    obtain ⟨hc, hcs⟩ := List.forall_mem_cons.1 h
    have hread : Nat.toDigits 10 (10 * start + (c.toNat - '0'.toNat)) =
        Nat.toDigits 10 start ++ [c] := by
      rw [← Nat.toDigits_append_toDigits (by decide) hstart (digitValue_lt hc),
        toDigits_digitValue hc]
    rw [Nat.ofDigitChars_cons, ih hcs (by omega), hread, List.append_assoc, List.singleton_append]

/-- Only the printed digits write a number. -/
theorem canonical_iff {n : Nat} {cs : List Char} : Canonical n cs ↔ cs = Nat.toDigits 10 n := by
  constructor
  · intro h
    obtain ⟨first, rest, rfl⟩ := List.exists_cons_of_ne_nil h.nonempty
    obtain ⟨hfirst, hrest⟩ := List.forall_mem_cons.1 h.digits
    rw [← h.value]
    by_cases hzero : first = '0'
    · rw [h.leading (by rw [hzero, List.head?_cons])]
      exact (Nat.toDigits_zero 10).symm
    · -- The first digit is a value to start from; the rest follow it.
      have hne : first.toNat ≠ '0'.toNat := fun heq => hzero (Char.toNat_inj.1 heq)
      have hstart : 0 < first.toNat - '0'.toNat := by
        have hbounds := toNat_digit hfirst
        omega
      have hvalue : decimalValue (first :: rest) =
          Nat.ofDigitChars 10 rest (first.toNat - '0'.toNat) := by
        change Nat.ofDigitChars 10 (first :: rest) 0 = _
        rw [Nat.ofDigitChars_cons, Nat.mul_zero, Nat.zero_add]
      rw [hvalue, toDigits_ofDigitChars hrest hstart, toDigits_digitValue hfirst,
        List.singleton_append]
  · rintro rfl
    exact canonical_toDigits n

/-! ## Printed numbers -/

theorem canonical_toString (n : Nat) : Canonical n (toString n).toList := by
  rw [Nat.toString_eq_repr, Nat.toList_repr]
  exact canonical_toDigits n

theorem digits_injective {p q : Nat} (h : toString p = toString q) : p = q := by
  rw [← (canonical_toString p).value, h, (canonical_toString q).value]

theorem digits_ne_nil (p : Nat) : (toString p).toList ≠ [] := (canonical_toString p).nonempty

theorem isDigit_of_mem_digits {p : Nat} {c : Char} (h : c ∈ (toString p).toList) : c.isDigit :=
  (canonical_toString p).digits c h

end SqlCatalog.Text
