-- SUMMARY: Namespaces and the physical table names they stand for.
import SqlCatalog.Text

/-!
# Table names

A table is declared under a namespace such as `DB.shop.orders`; its physical
name drops the leading `DB.` and joins the segments with underscores. A link
names its table by a path `DB.` and one or more segments, none empty.
-/

namespace SqlCatalog.TableName

def root : List Char := ['D', 'B', '.']

def underscored (c : Char) : Char := if c = '.' then '_' else c

/-- The physical name of a namespace; the leading `DB.` may be missing. -/
def ofNamespace (space : String) : String :=
  let cs := space.toList
  String.ofList (((root.isPrefixOf? cs).getD cs).map underscored)

theorem dot_notMem_ofNamespace (space : String) : '.' ∉ (ofNamespace space).toList := by
  intro h
  simp only [ofNamespace, String.toList_ofList, List.mem_map] at h
  obtain ⟨c, -, hc⟩ := h
  unfold underscored at hc
  split at hc
  · exact absurd hc (by decide)
  · contradiction

/-- The physical name of the table that a link path names. -/
def ofLink? (path : List Char) : Option String :=
  match root.isPrefixOf? path with
  | none => none
  | some segments =>
    if (Text.splitAt '.' segments).all (fun s => s ≠ []) then
      some (String.ofList (segments.map underscored))
    else none

end SqlCatalog.TableName
