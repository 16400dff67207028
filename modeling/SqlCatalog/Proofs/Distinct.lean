-- SUMMARY: Columns of views are told apart by their signatures, and views of a table by their ordinals.
import SqlCatalog.Proofs.Identity

/-!
# Columns and views told apart

A signature joins up to three texts with `@`, and the one in the middle, the name
of a table, may hold that character itself. Entries of views are cut at every
`@`, so the others hold none, and a signature still belongs to one column.

The ordinal of a view is the place of its name among the sorted names. Different
views of a table have different places, so their identities are digests of
different texts even where they list the same columns.
-/

namespace SqlCatalog

/-! ## Columns of views -/

/-- Two entries, of whatever views and tables, have one signature only if they stand for the same
column, which follows the same link or none. -/
theorem ViewDeclaration.entry_signature_eq_iff {table table' view view' text text' : String}
    {columns columns' : Dict Column} {c c' : ViewColumn}
    (h : entry table view columns text = .ok c) (h' : entry table' view' columns' text' = .ok c') :
    c.signature = c'.signature ↔
      c.name = c'.name ∧ c.linkedTable = c'.linkedTable ∧ c.linkedView = c'.linkedView := by
  constructor
  · intro hsignature
    obtain rfl := (entered_of_entry h).signature_injective (entered_of_entry h') hsignature
    exact ⟨rfl, rfl, rfl⟩
  · rintro ⟨hname, htable, hview⟩
    rw [ViewColumn.signature, ViewColumn.signature, hname, htable, hview]

/-- A link to the table `a@v:b` from one table, and links to `a` from another. -/
theorem ViewDeclaration.entry_signature_eq_iff_marked :
    let marked := Dict.ofList [("up", (Column.new "up" .linkedKey).linkedTo "a@v:b")]
    let other := Dict.ofList [("up", (Column.new "up" .linkedKeyMap).linkedTo "a"),
      ("up:", Column.new "up:" .int64)]
    ∃ c c' c'', entry "t" "w" marked "up@v" = .ok c ∧ entry "u" "w" other "up@v:b" = .ok c' ∧
      entry "u" "w" other "up:" = .ok c'' ∧ c.signature = "up@a@v:b@v" ∧
      c.signature ≠ c'.signature ∧ c.signature ≠ c''.signature := by
  intro marked other
  have h : entry "t" "w" marked "up@v" = .ok (.linked "up" "a@v:b" "v") := by decide +kernel
  have h' : entry "u" "w" other "up@v:b" = .ok (.linked "up" "a" "v:b") := by decide +kernel
  have h'' : entry "u" "w" other "up:" = .ok (.plain "up:") := by decide +kernel
  refine ⟨_, _, _, h, h', h'', by decide +kernel, ?_, ?_⟩
  · intro hsignature
    obtain ⟨-, htable, -⟩ := (entry_signature_eq_iff h h').1 hsignature
    exact absurd htable (by decide)
  · intro hsignature
    obtain ⟨hname, -⟩ := (entry_signature_eq_iff h h'').1 hsignature
    exact absurd hname (by decide)

/-! ## Ordinals -/

namespace View

theorem ordinal_injective {names : List String} (hnodup : names.Nodup) {name name' : String}
    (hname : name ∈ names) (hname' : name' ∈ names) (h : ordinal names name = ordinal names name') :
    name = name' := by
  rw [ordinal_eq_idxOf_sorted hnodup hname, ordinal_eq_idxOf_sorted hnodup hname'] at h
  exact (List.idxOf_inj ((sorted_perm names).mem_iff.2 hname)).1 (Nat.add_left_cancel h)

end View

/-! ## Views of a table -/

theorem Declaration.ordinal_eq_of_identityInput_eq {d d' : Declaration} {t t' : Table}
    (h : d.build = .ok t) (h' : d'.build = .ok t') {name name' : String} {v v' : View}
    (hfind : t.views.find? name = some v) (hfind' : t'.views.find? name' = some v')
    (hinput : t.identityInput v = t'.identityInput v') :
    View.ordinal d.views.keys name = View.ordinal d'.views.keys name' := by
  rw [identityInput_of_find? h hfind, identityInput_of_find? h' hfind'] at hinput
  exact (View.identityInput_eq_iff.1 hinput).1

/-- Inputs tell the views of a table apart: those of two views differ, whatever names and columns
they have. Between two tables, views with one input have one ordinal. -/
theorem Declaration.identityInput_tells_ordinals {d d' : Declaration} {t t' : Table}
    (h : d.build = .ok t) (h' : d'.build = .ok t') :
    (∀ v ∈ t.views.values, v.identity = Md5.ofText (t.identityInput v)) ∧
      (∀ name name' v v', t.views.find? name = some v → t.views.find? name' = some v' →
        name ≠ name' → t.identityInput v ≠ t.identityInput v') ∧
      ∀ name name' v v', t.views.find? name = some v → t'.views.find? name' = some v' →
        t.identityInput v = t'.identityInput v' →
        View.ordinal d.views.keys name = View.ordinal d'.views.keys name' := by
  refine ⟨fun v => identity_of_view h, ?_, ?_⟩
  · intro name name' v v' hfind hfind' hne hinput
    have hname : name ∈ d.views.keys := keys_views h ▸ Dict.mem_keys.2 ⟨v, hfind⟩
    have hname' : name' ∈ d.views.keys := keys_views h ▸ Dict.mem_keys.2 ⟨v', hfind'⟩
    apply hne
    apply View.ordinal_injective d.views.distinct hname hname'
    exact ordinal_eq_of_identityInput_eq h h hfind hfind' hinput
  · intro name name' v v' hfind hfind' hinput
    exact ordinal_eq_of_identityInput_eq h h' hfind hfind' hinput

/-- Views `1` and `1:1` with the same columns, whose names start with digits and hold colons, and
a view of another table with these columns too. -/
theorem Declaration.identityInput_tells_ordinals_digits :
    let d : Declaration := ⟨none, "DB.1:@",
      Dict.ofList [("1:1", ⟨"Int64", [], false, false, false, false⟩),
        ("11", ⟨"DB.1:@", [], false, false, false, false⟩)],
      Dict.ofList [("1:1", ⟨"", ["1:1", "11@1"]⟩), ("1", ⟨"", ["11@1", "1:1"]⟩)]⟩
    let d' : Declaration := ⟨none, "DB.1",
      Dict.ofList [("11", ⟨"List<DB.1:@>", [], false, false, false, false⟩),
        ("1:1", ⟨"Bool", [], false, false, false, false⟩)],
      Dict.ofList [("1:1", ⟨"", ["1:1", "11@1"]⟩)]⟩
    ∃ t t' first second other, d.build = .ok t ∧ d'.build = .ok t' ∧
      t.views.find? "1" = some first ∧ t.views.find? "1:1" = some second ∧
      t'.views.find? "1:1" = some other ∧ first.columns.Perm second.columns ∧
      second.columns = other.columns ∧ t.identityInput first ≠ t.identityInput second ∧
      t.identityInput second ≠ t'.identityInput other := by
  intro d d'
  obtain ⟨t, h⟩ := exists_of_isOk (x := d.build) (by decide +kernel)
  obtain ⟨t', h'⟩ := exists_of_isOk (x := d'.build) (by decide +kernel)
  obtain ⟨first, hfirst, hcolumns⟩ := view_of_declared h (show d.views.find? "1" = some _ from rfl)
  obtain ⟨second, hsecond, hcolumns'⟩ :=
    view_of_declared h (show d.views.find? "1:1" = some _ from rfl)
  obtain ⟨other, hother, hcolumns''⟩ :=
    view_of_declared h' (show d'.views.find? "1:1" = some _ from rfl)
  obtain ⟨-, hviews, hordinals⟩ := identityInput_tells_ordinals h h'
  refine ⟨t, t', first, second, other, h, h', hfirst, hsecond, hother, ?_, ?_, ?_, ?_⟩
  · rw [hcolumns, hcolumns']
    decide +kernel
  · rw [hcolumns', hcolumns'']
    decide +kernel
  · exact hviews "1" "1:1" first second hfirst hsecond (by decide)
  · intro hinput
    exact absurd (hordinals "1:1" "1:1" second other hsecond hother hinput) (by decide +kernel)

end SqlCatalog
