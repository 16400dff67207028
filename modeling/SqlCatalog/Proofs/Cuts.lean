-- SUMMARY: Cutting texts at separators and at marks, in one way only.
import Mathlib.Data.Set.Insert
import SqlCatalog.Text

/-!
# Cuts

A text made from parts is read back by cutting it. At a single character, a cut is
known by how many of these characters come before it. At marks of several
characters it is the first place where one occurs, provided that no mark starts
inside another.
-/

namespace SqlCatalog.Text

/-! ## Separators -/

theorem notMem_of_mem_splitAt {sep : Char} {cs segment : List Char}
    (h : segment ∈ splitAt sep cs) : sep ∉ segment := by
  induction cs generalizing segment with
  | nil =>
    obtain rfl : segment = [] := by simpa [splitAt] using h
    exact List.not_mem_nil
  | cons c rest ih =>
    unfold splitAt at h
    split at h
    · rcases List.mem_cons.1 h with rfl | h
      · exact List.not_mem_nil
      · exact ih h
    · rename_i hne
      split at h
      · obtain rfl := List.mem_singleton.1 h
        simpa using fun heq => hne heq.symm
      · rename_i first others hsplit
        rw [hsplit] at ih
        rcases List.mem_cons.1 h with rfl | h
        · rw [List.mem_cons, not_or]
          exact ⟨fun heq => hne heq.symm, ih List.mem_cons_self⟩
        · exact ih (List.mem_cons_of_mem first h)

/-- Two cuts of one text after the same number of separators are the same cut. -/
theorem cut_unique {sep : Char} {as bs rest rest' : List Char}
    (hcount : as.count sep = bs.count sep)
    (h : as ++ sep :: rest = bs ++ sep :: rest') : as = bs ∧ rest = rest' := by
  induction as generalizing bs with
  | nil =>
    cases bs with
    | nil => simpa using h
    | cons b bs =>
      obtain ⟨rfl, -⟩ := List.cons.inj h
      simp at hcount
  | cons a as ih =>
    cases bs with
    | nil =>
      obtain ⟨rfl, -⟩ := List.cons.inj h
      simp at hcount
    | cons b bs =>
      obtain ⟨rfl, htail⟩ := List.cons.inj h
      have hcount' : as.count sep = bs.count sep := by simpa [List.count_cons] using hcount
      obtain ⟨rfl, hrest⟩ := ih hcount' htail
      exact ⟨rfl, hrest⟩

/-! ## Marks -/

/-- Texts that end a value. None of them starts inside another. -/
structure Marks where
  texts : Set (List Char)
  nonempty : ∀ m ∈ texts, m ≠ []
  apart : ∀ m ∈ texts, ∀ m' ∈ texts, ∀ x y rest rest',
    m = x ++ y → m' ++ rest = y ++ rest' → x = [] ∨ y = []

namespace Marks

variable (M : Marks) {a a' m m' x rest rest' : List Char}

/-- No mark occurs in the text. -/
def Free (text : List Char) : Prop := ∀ m ∈ M.texts, ¬ m <:+: text

variable {M}

theorem Free.of_isInfix {text : List Char} (h : M.Free text) (hx : x <:+: text) : M.Free x :=
  fun m hm hpart => h m hm (hpart.trans hx)

/-- Of two marks, one at the start and one after a text without marks, the second is at the start
too. -/
theorem eq_nil_of_free (hm : m ∈ M.texts) (hm' : m' ∈ M.texts) (hfree : M.Free x)
    (h : m ++ rest = x ++ (m' ++ rest')) : x = [] := by
  rcases List.append_eq_append_iff.1 h with ⟨z, rfl, -⟩ | ⟨z, hsplit, hrest⟩
  · exact absurd (List.prefix_append m z).isInfix (hfree m hm)
  · rcases M.apart m hm m' hm' x z rest' rest hsplit hrest with hx | rfl
    · exact hx
    · rw [List.append_nil] at hsplit
      exact absurd (hsplit ▸ List.infix_refl m) (hfree m hm)

/-- A text is cut at its first mark in one way. -/
theorem cut_unique (hm : m ∈ M.texts) (hm' : m' ∈ M.texts) (ha : M.Free a) (ha' : M.Free a')
    (h : a ++ (m ++ rest) = a' ++ (m' ++ rest')) : a = a' ∧ m ++ rest = m' ++ rest' := by
  rcases List.append_eq_append_iff.1 h with ⟨x, rfl, hx⟩ | ⟨x, rfl, hx⟩
  · obtain rfl := eq_nil_of_free hm hm' (ha'.of_isInfix (List.suffix_append a x).isInfix) hx
    exact ⟨(List.append_nil a).symm, hx⟩
  · obtain rfl := eq_nil_of_free hm' hm (ha.of_isInfix (List.suffix_append a' x).isInfix) hx
    exact ⟨List.append_nil a', hx.symm⟩

/-- A text that holds a mark is cut at its first one, which leaves what follows the other. -/
theorem exists_first (a : List Char) {m : List Char} (hm : m ∈ M.texts) (rest : List Char) :
    ∃ first mark more, mark ∈ M.texts ∧ M.Free first ∧
      a ++ (m ++ rest) = first ++ (mark ++ (more ++ rest)) := by
  by_cases hfree : M.Free a
  · exact ⟨a, m, [], hm, hfree, rfl⟩
  · simp only [Free, not_forall, not_not] at hfree
    obtain ⟨k, hk, before, after, hsplit⟩ := hfree
    obtain ⟨first, mark, more, hmark, hfirst, hcut⟩ :=
      exists_first before hk (after ++ (m ++ rest))
    refine ⟨first, mark, more ++ (after ++ m), hmark, hfirst, ?_⟩
    simpa [← hsplit] using hcut
termination_by a.length
decreasing_by
  have hpos := List.length_pos_iff.2 (M.nonempty k hk)
  rw [← hsplit, List.length_append, List.length_append]
  omega

/-- A mark that begins with a blank can start inside another only at a further blank of it. -/
theorem exists_blank_of_overlap {letters letters' y : List Char} (hx : x ≠ []) (hy : y ≠ [])
    (hsplit : ' ' :: letters = x ++ y) (hnext : ' ' :: letters' ++ rest = y ++ rest') :
    ∃ before after, letters = before ++ ' ' :: after ∧ letters' ++ rest = after ++ rest' := by
  obtain ⟨c, before, rfl⟩ := List.exists_cons_of_ne_nil hx
  obtain ⟨c', after, rfl⟩ := List.exists_cons_of_ne_nil hy
  obtain ⟨rfl, hrest⟩ := List.cons.inj hnext
  obtain ⟨-, hletters⟩ := List.cons.inj hsplit
  exact ⟨before, after, hletters, hrest⟩

/-- A blank and letters without blanks. -/
def word (letters : List Char) (h : ' ' ∉ letters) : Marks where
  texts := {' ' :: letters}
  nonempty := by simp
  apart := by
    rintro _ rfl _ rfl x y rest rest' hsplit hnext
    by_contra hboth
    obtain ⟨hx, hy⟩ := not_or.1 hboth
    obtain ⟨before, after, rfl, -⟩ := exists_blank_of_overlap hx hy hsplit hnext
    simp at h

end Marks

end SqlCatalog.Text
