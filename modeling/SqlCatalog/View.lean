-- SUMMARY: Views of a table: projected columns, cache lifetime and identity.
import SqlCatalog.Digest.Md5
import SqlCatalog.Text

/-!
# Views

A view lists columns of its table. A column that links to another table may be
followed into a view of that table. The identity of a view is a digest of its
ordinal and of its columns, in whatever order they are listed; it serves as a
cache key.
-/

namespace SqlCatalog

structure ViewColumn where
  name : String
  linkedTable : Option String
  linkedView : Option String
deriving DecidableEq, Repr

namespace ViewColumn

def plain (name : String) : ViewColumn := ⟨name, none, none⟩

def linked (name table view : String) : ViewColumn := ⟨name, some table, some view⟩

/-- The column, with the table and view it follows when it follows one. -/
def signature (c : ViewColumn) : String :=
  match c.linkedTable, c.linkedView with
  | some table, some view => c.name ++ "@" ++ table ++ "@" ++ view
  | _, _ => c.name

end ViewColumn

structure View where
  name : String
  columns : List ViewColumn
  selectList : String
  cacheSeconds : Int64
  identity : String
deriving DecidableEq

namespace View

def columnNames (v : View) : List String := v.columns.map ViewColumn.name

/-- The columns that follow a link. -/
def links (v : View) : List ViewColumn := v.columns.filter fun c => c.linkedView.isSome

/-! ## Identity -/

def sorted (texts : List String) : List String := texts.mergeSort (fun a b => a ≤ b)

theorem sorted_perm (texts : List String) : (sorted texts).Perm texts := List.mergeSort_perm texts _

theorem pairwise_sorted (texts : List String) : (sorted texts).Pairwise (· ≤ ·) := by
  have h : (sorted texts).Pairwise fun a b => decide (a ≤ b) = true := by
    apply List.pairwise_mergeSort
    · intro a b c hab hbc
      simp only [decide_eq_true_eq] at hab hbc ⊢
      exact String.le_trans hab hbc
    · intro a b
      simpa using String.le_total a b
  simpa using h

/-- Sorted names without duplicates come strictly before and after the one they are split at. -/
theorem split_sorted {names before after : List String} {name : String} (hnodup : names.Nodup)
    (hsplit : sorted names = before ++ name :: after) :
    (∀ n ∈ before, n < name) ∧ ∀ n ∈ after, ¬ n < name := by
  have hsorted := pairwise_sorted names
  have hdistinct := (sorted_perm names).nodup_iff.2 hnodup
  rw [hsplit] at hsorted hdistinct
  obtain ⟨-, hafter, hbefore⟩ := List.pairwise_append.1 hsorted
  obtain ⟨-, -, hapart⟩ := List.nodup_append.1 hdistinct
  refine ⟨?_, ?_⟩
  · intro n hn
    have hle : n ≤ name := hbefore n hn name List.mem_cons_self
    exact Std.lt_of_le_of_ne hle (hapart n hn name List.mem_cons_self)
  · intro n hn
    exact Std.not_lt.2 ((List.pairwise_cons.1 hafter).1 n hn)

/-- The text whose digest identifies the view at `ordinal` with the given columns. -/
def identityInput (ordinal : Nat) (columns : List ViewColumn) : String :=
  toString ordinal ++ ":" ++ ":".intercalate (sorted (columns.map ViewColumn.signature))

def identityOf (ordinal : Nat) (columns : List ViewColumn) : String :=
  Md5.ofText (identityInput ordinal columns)

/-- The place of a view among the views of its table, ordered by name and counted from one. -/
def ordinal (names : List String) (name : String) : Nat :=
  1 + (names.filter fun n => n < name).length

/-- The names below a name are those before it once all are sorted. So its ordinal is the place,
counted from one, at which it is found among the sorted names. -/
theorem ordinal_eq_idxOf_sorted {names : List String} (hnodup : names.Nodup) {name : String}
    (hname : name ∈ names) : ordinal names name = 1 + (sorted names).idxOf name := by
  obtain ⟨before, after, hsplit⟩ := List.append_of_mem ((sorted_perm names).mem_iff.2 hname)
  obtain ⟨hbefore, hafter⟩ := split_sorted hnodup hsplit
  have hbelow : (sorted names).filter (fun n => n < name) = before := by
    rw [hsplit, List.filter_append, List.filter_eq_self.2 (by simpa using hbefore),
      List.filter_cons_of_neg (by simp), List.filter_eq_nil_iff.2 (by simpa using hafter),
      List.append_nil]
  have hplace : (sorted names).idxOf name = before.length := by
    have hnot : name ∉ before := fun hmem => Std.lt_irrefl (hbefore name hmem)
    rw [hsplit, List.idxOf_append, if_neg hnot, List.idxOf_cons_self, Nat.zero_add]
  rw [ordinal, ← ((sorted_perm names).filter _).length_eq, hbelow, hplace]

end View

end SqlCatalog
