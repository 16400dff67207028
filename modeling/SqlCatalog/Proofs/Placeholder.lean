-- SUMMARY: Arithmetic of placeholder positions, and the text of their tokens.
import SqlCatalog.Proofs.Digits
import SqlCatalog.Sql.Placeholder

/-!
# Placeholder positions

Advancing stops at the last position, so `count` places after `p` is the smaller
of `p + count` and that position. A token is the same text whether it was made
in advance or when needed: a dollar sign and the decimal digits of its position.
-/

namespace SqlCatalog.Sql.Placeholder

/-! ## Positions -/

theorem one_le_next (p : Nat) : 1 ≤ next p := by
  simp only [next, maxPosition]
  omega

theorem next_le_maxPosition (p : Nat) : next p ≤ maxPosition := Nat.min_le_right _ _

theorem one_le_advance {p : Nat} (h : 1 ≤ p) (count : Nat) : 1 ≤ advance p count := by
  induction count generalizing p with
  | zero => exact h
  | succ count ih => exact ih (one_le_next p)

theorem advance_add (p m n : Nat) : advance p (m + n) = advance (advance p m) n := by
  induction m generalizing p with
  | zero => rw [Nat.zero_add, advance]
  | succ m ih => rw [Nat.succ_add, advance, advance, ih]

theorem advance_eq_min {p : Nat} (h : p ≤ maxPosition) (count : Nat) :
    advance p count = min (p + count) maxPosition := by
  induction count generalizing p with
  | zero => simp only [advance]; omega
  | succ count ih =>
    rw [advance, ih (next_le_maxPosition p)]
    simp only [next]
    omega

/-- The positions of `count` placeholders from `p` on. -/
def positions (p : Nat) : Nat → List Nat
  | 0 => []
  | count + 1 => p :: positions (next p) count

theorem length_positions (p count : Nat) : (positions p count).length = count := by
  induction count generalizing p with
  | zero => rfl
  | succ count ih => rw [positions, List.length_cons, ih]

theorem one_le_of_mem_positions {p q count : Nat} (h : 1 ≤ p) (hq : q ∈ positions p count) :
    1 ≤ q := by
  induction count generalizing p with
  | zero => cases hq
  | succ count ih =>
    cases hq with
    | head => exact h
    | tail _ hq => exact ih (one_le_next p) hq

theorem positions_add (p m n : Nat) :
    positions p (m + n) = positions p m ++ positions (advance p m) n := by
  induction m generalizing p with
  | zero => rw [Nat.zero_add, positions, advance, List.nil_append]
  | succ m ih => rw [Nat.succ_add, positions, positions, advance, ih, List.cons_append]

theorem positions_eq_map_range {p : Nat} (h : p ≤ maxPosition) (count : Nat) :
    positions p count = (List.range count).map fun k => min (p + k) maxPosition := by
  induction count generalizing p with
  | zero => rfl
  | succ count ih =>
    rw [positions, ih (next_le_maxPosition p), List.range_succ_eq_map, List.map_cons,
      List.map_map, Nat.add_zero, Nat.min_eq_left h]
    congr 2
    funext k
    simp only [Function.comp_apply, next]
    omega

/-- Positions that do not reach the end count up. -/
theorem positions_eq_range' {p count : Nat} (h : p ≤ maxPosition)
    (hroom : p + count ≤ maxPosition + 1) : positions p count = List.range' p count := by
  rw [positions_eq_map_range h, List.range'_eq_map_range]
  apply List.map_congr_left
  intro k hk
  have hk := List.mem_range.1 hk
  exact Nat.min_eq_left (by omega)

/-! ## Tokens -/

/-- Stated for a table of any size, so that nothing computes the one in use. -/
private theorem getElem?_made (count : Nat) {p : Nat} (h : 1 ≤ p) :
    (Array.ofFn fun i : Fin count => numbered (i.val + 1))[p - 1]? =
      if p ≤ count then some (numbered p) else none := by
  rw [Array.getElem?_ofFn]
  by_cases hp : p ≤ count
  · rw [dif_pos (by omega), if_pos hp, Nat.sub_add_cancel h]
  · rw [dif_neg (by omega), if_neg hp]

/-- The table holds the tokens of the positions from one up to its size. -/
theorem getElem?_ready {p : Nat} (h : 1 ≤ p) :
    ready[p - 1]? = if p ≤ readyCount then some (numbered p) else none :=
  getElem?_made readyCount h

/-- The tokens made in advance are those made when needed. -/
theorem token_eq_numbered {p : Nat} (h : 1 ≤ p) : token p = numbered p := by
  change ready[p - 1]?.getD (numbered p) = numbered p
  rw [getElem?_ready h]
  by_cases hp : p ≤ readyCount
  · rw [if_pos hp, Option.getD_some]
  · rw [if_neg hp, Option.getD_none]

theorem numbered_injective {p q : Nat} (h : numbered p = numbered q) : p = q := by
  have hchars : "$".toList ++ (toString p).toList = "$".toList ++ (toString q).toList := by
    simpa only [numbered, String.toList_append] using congrArg String.toList h
  exact Text.digits_injective (String.toList_inj.1 (List.append_cancel_left hchars))

theorem tokens_eq_map (p count : Nat) : tokens p count = (positions p count).map token := by
  induction count generalizing p with
  | zero => rfl
  | succ count ih => rw [tokens, positions, List.map_cons, ih]

theorem eq_numbered_iff {p : Nat} {text : String} :
    text = numbered p ↔ ∃ digits, Text.Canonical p digits ∧ text = "$" ++ String.ofList digits := by
  constructor
  · rintro rfl
    exact ⟨_, Text.canonical_toString p, by rw [String.ofList_toList, numbered]⟩
  · rintro ⟨digits, hdigits, rfl⟩
    rw [Text.canonical_iff.1 hdigits, numbered, Nat.toString_eq_ofList_toDigits]

/-- The token of a position is a dollar sign and the decimal digits of the position, without a zero
in front. Up to its size the table holds this very token; past its end there is no entry, and the
token made when needed follows the same rule. So the token tells the position. -/
theorem token_decimal {p : Nat} (h : 1 ≤ p) :
    (∀ text, text = token p ↔
      ∃ digits, Text.Canonical p digits ∧ text = "$" ++ String.ofList digits) ∧
    ready[p - 1]? = (if p ≤ readyCount then some (token p) else none) ∧
    numbered p = token p ∧
    ∀ q, 1 ≤ q → (token q = token p ↔ q = p) := by
  rw [token_eq_numbered h]
  refine ⟨fun text => eq_numbered_iff, getElem?_ready h, rfl, fun q hq => ?_⟩
  rw [token_eq_numbered hq]
  constructor
  · exact numbered_injective
  · rintro rfl
    rfl

/-- The last entry of the table, the first position past it, and the last position of all. -/
theorem token_decimal_ends :
    1 ≤ readyCount ∧
    ready[readyCount - 1]? = some "$65536" ∧
    ready[readyCount + 1 - 1]? = none ∧
    token (readyCount + 1) = "$65537" ∧
    token maxPosition = "$18446744073709551615" ∧
    token (readyCount + 1) ≠ token readyCount := by
  have hlast := token_decimal (p := readyCount) (by decide)
  have hpast := token_decimal (p := readyCount + 1) (by decide)
  have hmax := token_decimal (p := maxPosition) (by decide)
  have htoken : "$65536" = token readyCount :=
    (hlast.1 _).2 ⟨"65536".toList, by decide, by decide⟩
  refine ⟨by decide, ?_, ?_, ?_, ?_, ?_⟩
  · rw [hlast.2.1, if_pos (Nat.le_refl _), htoken]
  · rw [hpast.2.1, if_neg (Nat.not_succ_le_self _)]
  · exact ((hpast.1 _).2 ⟨"65537".toList, by decide, by decide⟩).symm
  · exact ((hmax.1 _).2 ⟨"18446744073709551615".toList, by decide, by decide⟩).symm
  · exact fun heq => absurd ((hlast.2.2.2 _ (by decide)).1 heq) (by decide)

end SqlCatalog.Sql.Placeholder
