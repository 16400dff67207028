-- SUMMARY: Identities of views: what they depend on, and when they tell projections apart.
import Mathlib.Data.Set.Function
import SqlCatalog.Proofs.Cuts
import SqlCatalog.Proofs.WellFormed

/-!
# Identities of views

The identity of a view is the digest of its input: its ordinal and the sorted
signatures of its columns, joined with colons. So it depends on how many views
of the table come before it by name, and on its columns as a multiset, but on
nothing else of the declaration.

The other way around, equal inputs come from equal ordinals; they come from the
same columns exactly when the signatures hold the same numbers of colons, since
a colon inside a name looks like one between two signatures.
-/

namespace SqlCatalog

/-! ## Joined texts -/

namespace Text

/-- How many colons a text holds. -/
def colons (text : String) : Nat := text.toList.count ':'

theorem colons_eq_zero {text : String} : colons text = 0 ↔ ':' ∉ text.toList :=
  List.count_eq_zero

theorem toList_intercalate_cons (s t : String) (rest : List String) :
    (":".intercalate (s :: t :: rest)).toList =
      s.toList ++ ':' :: (":".intercalate (t :: rest)).toList := by
  simp

theorem colons_intercalate_cons (s t : String) (rest : List String) :
    colons (":".intercalate (s :: t :: rest)) =
      colons s + (colons (":".intercalate (t :: rest)) + 1) := by
  rw [colons, toList_intercalate_cons, List.count_append, List.count_cons_self]
  rfl

/-- Texts without colons are joined by one colon less than there are texts. -/
theorem colons_intercalate {texts : List String} (hne : texts ≠ [])
    (hfree : ∀ s ∈ texts, colons s = 0) :
    colons (":".intercalate texts) + 1 = texts.length := by
  induction texts with
  | nil => exact absurd rfl hne
  | cons s rest ih =>
    have hs := hfree s List.mem_cons_self
    cases rest with
    | nil => simpa using hs
    | cons t rest =>
      have hrest := ih (List.cons_ne_nil t rest) fun s hs => hfree s (List.mem_cons_of_mem _ hs)
      rw [colons_intercalate_cons, hs, List.length_cons]
      omega

/-- Texts that hold the same numbers of colons can be told from what they are joined to. -/
theorem eq_of_intercalate_eq {texts texts' : List String}
    (hcolons : texts.map colons = texts'.map colons)
    (h : ":".intercalate texts = ":".intercalate texts') : texts = texts' := by
  induction texts generalizing texts' with
  | nil => simpa [eq_comm] using hcolons
  | cons s rest ih =>
    cases texts' with
    | nil => cases hcolons
    | cons s' rest' =>
      obtain ⟨hfirst, hrest⟩ := List.cons.inj hcolons
      cases rest with
      | nil =>
        obtain rfl : rest' = [] := by simpa [eq_comm] using hrest
        simpa using h
      | cons t rest =>
        cases rest' with
        | nil => cases hrest
        | cons t' rest' =>
          have hchars := congrArg String.toList h
          rw [toList_intercalate_cons, toList_intercalate_cons] at hchars
          obtain ⟨hs, hjoined⟩ := cut_unique hfirst hchars
          rw [String.toList_inj] at hs hjoined
          rw [hs, ih hrest hjoined]

end Text

/-! ## Sorted signatures -/

namespace View

theorem sorted_of_pairwise {texts : List String} (h : texts.Pairwise (· ≤ ·)) :
    sorted texts = texts :=
  List.mergeSort_of_pairwise (h.imp fun hle => decide_eq_true hle)

theorem sorted_eq_iff {texts texts' : List String} :
    sorted texts = sorted texts' ↔ texts.Perm texts' := by
  constructor
  · intro h
    exact (sorted_perm texts).symm.trans (h ▸ sorted_perm texts')
  · intro h
    refine List.Perm.eq_of_pairwise (fun a b _ _ => String.le_antisymm) (pairwise_sorted texts)
      (pairwise_sorted texts') ?_
    exact (sorted_perm texts).trans (h.trans (sorted_perm texts').symm)

def signatures (columns : List ViewColumn) : List String :=
  sorted (columns.map ViewColumn.signature)

theorem signatures_of_perm {columns columns' : List ViewColumn} (h : columns.Perm columns') :
    signatures columns = signatures columns' :=
  sorted_eq_iff.2 (h.map ViewColumn.signature)

theorem toList_identityInput (n : Nat) (columns : List ViewColumn) :
    (identityInput n columns).toList =
      (toString n).toList ++ ':' :: (":".intercalate (signatures columns)).toList := by
  simp [identityInput, signatures]

/-- An ordinal holds no colon, so the input tells it from the signatures. -/
theorem identityInput_eq_iff {n n' : Nat} {columns columns' : List ViewColumn} :
    identityInput n columns = identityInput n' columns' ↔
      n = n' ∧
        ":".intercalate (signatures columns) = ":".intercalate (signatures columns') := by
  constructor
  · intro h
    have hchars := congrArg String.toList h
    rw [toList_identityInput, toList_identityInput] at hchars
    have hcolons (k : Nat) : (toString k).toList.count ':' = 0 := by
      rw [List.count_eq_zero]
      intro hmem
      exact absurd (Text.isDigit_of_mem_digits hmem) (by decide)
    obtain ⟨hdigits, hjoined⟩ := Text.cut_unique ((hcolons n).trans (hcolons n').symm) hchars
    rw [String.toList_inj] at hdigits hjoined
    exact ⟨Text.digits_injective hdigits, hjoined⟩
  · rintro ⟨rfl, hjoined⟩
    rw [identityInput, identityInput, ← signatures, ← signatures, hjoined]

end View

/-! ## Columns of views -/

namespace ViewColumn

/-- A column as an entry of a view gives it: its name and the view it follows hold no `@`. The
table it links to may hold any. -/
inductive Entered : ViewColumn → Prop
  | plain {name : String} : '@' ∉ name.toList → Entered (.plain name)
  | linked {name table view : String} :
    '@' ∉ name.toList → '@' ∉ view.toList → Entered (.linked name table view)

theorem toList_signature_linked (name table view : String) :
    (linked name table view).signature.toList =
      name.toList ++ '@' :: (table.toList ++ '@' :: view.toList) := by
  simp [signature, linked]

/-- The first and the last `@` of a signature are those that its parts were joined with. -/
theorem Entered.signature_injective {c c' : ViewColumn} (hc : c.Entered) (hc' : c'.Entered)
    (h : c.signature = c'.signature) : c = c' := by
  have hchars := congrArg String.toList h
  cases hc with
  | @plain name hname =>
    cases hc' with
    | plain _ => exact congrArg ViewColumn.plain h
    | linked _ _ =>
      rw [toList_signature_linked] at hchars
      change name.toList = _ at hchars
      simp [hchars] at hname
  | @linked name table view hname hview =>
    cases hc' with
    | @plain name' hname' =>
      rw [toList_signature_linked] at hchars
      change _ = name'.toList at hchars
      simp [← hchars] at hname'
    | @linked name' table' view' hname' hview' =>
      rw [toList_signature_linked, toList_signature_linked] at hchars
      rw [← List.count_eq_zero] at hname hname' hview hview'
      obtain ⟨hnames, hlinks⟩ := Text.cut_unique (hname.trans hname'.symm) hchars
      have hreversed : view.toList.reverse ++ '@' :: table.toList.reverse =
          view'.toList.reverse ++ '@' :: table'.toList.reverse := by
        simpa using congrArg List.reverse hlinks
      have hcount : view.toList.reverse.count '@' = view'.toList.reverse.count '@' := by
        rw [List.count_reverse, List.count_reverse, hview, hview']
      obtain ⟨hviews, htables⟩ := Text.cut_unique hcount hreversed
      rw [List.reverse_inj, String.toList_inj] at hviews htables
      rw [String.toList_inj] at hnames
      rw [hnames, htables, hviews]

end ViewColumn

namespace View

/-- Where every column was entered, the signatures determine the columns. -/
theorem perm_of_signatures_eq {columns columns' : List ViewColumn}
    (hentered : ∀ c ∈ columns, c.Entered) (hentered' : ∀ c ∈ columns', c.Entered)
    (h : signatures columns = signatures columns') : columns.Perm columns' := by
  have hinj : Set.InjOn ViewColumn.signature {c | c.Entered} :=
    fun c hc c' hc' heq => ViewColumn.Entered.signature_injective hc hc' heq
  have : Nonempty ViewColumn := ⟨.plain ""⟩
  let read := Function.invFunOn ViewColumn.signature {c | c.Entered}
  have hread {cs : List ViewColumn} (hcs : ∀ c ∈ cs, c.Entered) :
      (cs.map ViewColumn.signature).map read = cs := by
    rw [List.map_map]
    conv_rhs => rw [← List.map_id cs]
    apply List.map_congr_left
    intro c hc
    exact hinj.leftInvOn_invFunOn (hcs c hc)
  rw [← hread hentered, ← hread hentered']
  exact (sorted_eq_iff.1 h).map read

end View

namespace ViewDeclaration

/-- The column that an entry of a view stands for, given the tables that columns link to. -/
def column (links : String → Option String) (text : String) : ViewColumn :=
  match (Text.splitAt '@' text.toList).map String.ofList with
  | [name, linkedView] => ⟨name, links name, some linkedView⟩
  | [name] => .plain name
  | _ => .plain ""

theorem eq_column_of_entry {table view : String} {columns : Dict Column} {text : String}
    {c : ViewColumn} {links : String → Option String}
    (hlinks : ∀ name column, columns.find? name = some column → column.linkedTable = links name)
    (h : entry table view columns text = .ok c) : c = column links text := by
  rcases entry_eq_ok_iff.1 h with ⟨name, -, hsplit, -, -, rfl⟩ |
    ⟨name, linkedView, column', linkedTable, hsplit, -, -, hfind, -, hlinked, rfl⟩
  · rw [column, hsplit]
  · rw [column, hsplit]
    dsimp only
    rw [← hlinks name column' hfind, hlinked]
    rfl

theorem entered_of_entry {table view : String} {columns : Dict Column} {text : String}
    {c : ViewColumn} (h : entry table view columns text = .ok c) : c.Entered := by
  have hmarks {texts : List String}
      (hsplit : (Text.splitAt '@' text.toList).map String.ofList = texts)
      {part : String} (hpart : part ∈ texts) : '@' ∉ part.toList := by
    rw [← hsplit] at hpart
    obtain ⟨segment, hsegment, rfl⟩ := List.mem_map.1 hpart
    rw [String.toList_ofList]
    exact Text.notMem_of_mem_splitAt hsegment
  rcases entry_eq_ok_iff.1 h with ⟨name, -, hsplit, -, -, rfl⟩ |
    ⟨name, linkedView, -, linkedTable, hsplit, -, -, -, -, -, rfl⟩
  · exact .plain (hmarks hsplit (by simp))
  · exact .linked (hmarks hsplit (by simp)) (hmarks hsplit (by simp))

end ViewDeclaration

/-! ## Views of built tables -/

namespace Declaration

variable {d : Declaration} {t : Table}

/-- The table that a declared column links to, if it links to one. -/
def link? (d : Declaration) (column : String) : Option String :=
  (d.columns.find? column).bind fun c => (ColumnType.ofDeclaration? c.type).bind Prod.snd

theorem linkedTable_eq_link? (h : d.build = .ok t) {name : String} {c : Column}
    (hfind : t.columns.find? name = some c) : c.linkedTable = d.link? name := by
  rcases (find?_columns h).1 hfind with ⟨hnot, rfl, rfl⟩ | ⟨declared, hdeclared, hbuild⟩
  · have hnone : d.columns.find? Sql.idColumn = none := by
      rw [Option.eq_none_iff_forall_ne_some]
      intro declared hsome
      exact hnot (Dict.mem_keys.2 ⟨declared, hsome⟩)
    rw [link?, hnone]
    rfl
  · have htype := (ColumnDeclaration.builds_of_build hbuild).type_eq
    rw [link?, hdeclared, Option.bind_some, htype, Option.bind_some]

/-- A declared view is built, with the columns that its entries stand for. -/
theorem view_of_declared (h : d.build = .ok t) {name : String} {declared : ViewDeclaration}
    (hdeclared : d.views.find? name = some declared) :
    ∃ v, t.views.find? name = some v ∧
      v.columns = declared.columns.map (ViewDeclaration.column d.link?) := by
  obtain ⟨v, hfind⟩ := Dict.mem_keys.1 (keys_views h ▸ Dict.mem_keys.2 ⟨declared, hdeclared⟩)
  refine ⟨v, hfind, ?_⟩
  obtain ⟨_, hsame, hbuild⟩ := (find?_views h).1 hfind
  cases hdeclared.symm.trans hsame
  obtain ⟨made, _, hmade, -, -, rfl⟩ := ViewDeclaration.build_eq_ok.1 hbuild
  have heach := (ViewDeclaration.entries_eq_ok.1 hmade).imp fun text c hentry =>
    ViewDeclaration.eq_column_of_entry (fun name column => linkedTable_eq_link? h) hentry
  rw [← List.forall₂_eq_eq_eq, List.forall₂_map_right_iff]
  exact heach.flip

theorem entered_of_view (h : d.build = .ok t) {v : View} (hv : v ∈ t.views.values)
    {c : ViewColumn} (hc : c ∈ v.columns) : c.Entered := by
  obtain ⟨name, hfind⟩ := Dict.mem_values.1 hv
  obtain ⟨declared, -, hbuild⟩ := (find?_views h).1 hfind
  obtain ⟨made, _, hmade, -, -, rfl⟩ := ViewDeclaration.build_eq_ok.1 hbuild
  obtain ⟨text, -, hentry⟩ := ViewDeclaration.entry_of_mem hmade hc
  exact ViewDeclaration.entered_of_entry hentry

end Declaration

/-- The text whose digest is the identity of a view of the table. -/
def Table.identityInput (t : Table) (v : View) : String :=
  View.identityInput (View.ordinal t.views.keys v.name) v.columns

theorem Declaration.identity_of_view {d : Declaration} {t : Table} (h : d.build = .ok t) {v : View}
    (hv : v ∈ t.views.values) : v.identity = Md5.ofText (t.identityInput v) :=
  ((wellFormed_of_build h).views v hv).identity_eq

theorem Declaration.identityInput_of_find? {d : Declaration} {t : Table} (h : d.build = .ok t)
    {name : String} {v : View} (hfind : t.views.find? name = some v) :
    t.identityInput v = View.identityInput (View.ordinal d.views.keys name) v.columns := by
  rw [Table.identityInput, keys_views h, (wellFormed_of_build h).views_named name v hfind]

/-! ## What an identity depends on -/

/-- The views before a view by name are as many in one order of the names as in another. -/
theorem View.ordinal_of_perm {names names' : List String} (h : names.Perm names') (name : String) :
    ordinal names name = ordinal names' name := by
  rw [ordinal, ordinal, (h.filter _).length_eq]

/-- Views with equal ordinals and the same columns have the same identity. So it depends neither on
the order of views, columns and entries nor on anything that two declarations do not share here:
lifetimes, operators, flags, other views' entries, and types that link to no table. -/
theorem Declaration.identity_eq_of_perm {d d' : Declaration} {t t' : Table} (h : d.build = .ok t)
    (h' : d'.build = .ok t') :
    (∀ name name' v v', t.views.find? name = some v → t'.views.find? name' = some v' →
        (d.views.keys.filter fun n => n < name).length =
          (d'.views.keys.filter fun n => n < name').length →
        v.columns.Perm v'.columns → v.identity = v'.identity) ∧
      (d.views.keys.Perm d'.views.keys → (∀ column, d.link? column = d'.link? column) →
        ∀ name declared declared', d.views.find? name = some declared →
          d'.views.find? name = some declared' → declared.columns.Perm declared'.columns →
          ∃ v v', t.views.find? name = some v ∧ t'.views.find? name = some v' ∧
            v.identity = v'.identity) := by
  have hgeneral : ∀ name name' v v', t.views.find? name = some v → t'.views.find? name' = some v' →
      View.ordinal d.views.keys name = View.ordinal d'.views.keys name' →
      v.columns.Perm v'.columns → v.identity = v'.identity := by
    intro name name' v v' hfind hfind' hordinal hperm
    rw [identity_of_view h (Dict.mem_values.2 ⟨name, hfind⟩),
      identity_of_view h' (Dict.mem_values.2 ⟨name', hfind'⟩)]
    congr 1
    rw [identityInput_of_find? h hfind, identityInput_of_find? h' hfind',
      View.identityInput_eq_iff, View.signatures_of_perm hperm]
    exact ⟨hordinal, rfl⟩
  refine ⟨?_, ?_⟩
  · intro name name' v v' hfind hfind' hbelow hperm
    exact hgeneral name name' v v' hfind hfind' (congrArg (1 + ·) hbelow) hperm
  · intro hkeys hlinks name declared declared' hdeclared hdeclared' hperm
    obtain ⟨v, hfind, hcolumns⟩ := view_of_declared h hdeclared
    obtain ⟨v', hfind', hcolumns'⟩ := view_of_declared h' hdeclared'
    refine ⟨v, v', hfind, hfind', ?_⟩
    apply hgeneral name name v v' hfind hfind' (View.ordinal_of_perm hkeys name)
    rw [hcolumns, hcolumns', funext hlinks]
    exact hperm.map _

/-- Views, columns and entries in another order; other lifetimes, operators, flags and types. -/
theorem Declaration.identity_eq_of_perm_rewritten :
    let d : Declaration := ⟨none, "DB.users",
      Dict.ofList [("name", ⟨"String64", ["=", "LIKE"], false, false, true, true⟩),
        ("owner", ⟨"DB.users", [], false, true, false, false⟩)],
      Dict.ofList [("brief", ⟨"1m", ["id", "owner@full", "name"]⟩), ("full", ⟨"", ["id"]⟩)]⟩
    let d' : Declaration := ⟨some "rt.db.v1", "DB.people",
      Dict.ofList [("owner", ⟨"List<DB.users>", ["="], true, false, false, false⟩),
        ("name", ⟨"Int64", [], false, false, false, false⟩)],
      Dict.ofList [("full", ⟨"2h", ["name", "owner"]⟩),
        ("brief", ⟨"", ["name", "id", "owner@full"]⟩)]⟩
    ∃ t t' v v', d.build = .ok t ∧ d'.build = .ok t' ∧ t.views.find? "brief" = some v ∧
      t'.views.find? "brief" = some v' ∧ v.identity = v'.identity := by
  intro d d'
  obtain ⟨t, h⟩ := exists_of_isOk (x := d.build) (by decide +kernel)
  obtain ⟨t', h'⟩ := exists_of_isOk (x := d'.build) (by decide +kernel)
  have hlinks (column : String) : d.link? column = d'.link? column := by
    by_cases hname : column = "name"
    · subst hname
      decide +kernel
    · by_cases howner : column = "owner"
      · subst howner
        decide +kernel
      · have hnone {first second : String} (c c' : ColumnDeclaration) (hfirst : first ≠ column)
            (hsecond : second ≠ column) :
            Entries.find? column [(first, c), (second, c')] = none := by
          simp [Entries.find?, hfirst, hsecond]
        have hd : d.columns.find? column = none := hnone _ _ (Ne.symm hname) (Ne.symm howner)
        have hd' : d'.columns.find? column = none := hnone _ _ (Ne.symm howner) (Ne.symm hname)
        rw [link?, link?, hd, hd']
  obtain ⟨v, v', hfind, hfind', hsame⟩ := (identity_eq_of_perm h h').2 (by decide +kernel) hlinks
    "brief" _ _ rfl rfl (by decide +kernel)
  exact ⟨t, t', v, v', h, h', hfind, hfind', hsame⟩

/-! ## What an identity tells apart -/

namespace View

/-- How many colons each of the sorted signatures holds. -/
def colons (columns : List ViewColumn) : List Nat := (signatures columns).map Text.colons

theorem length_signatures (columns : List ViewColumn) :
    (signatures columns).length = columns.length := by
  simp [signatures, (sorted_perm _).length_eq]

theorem colons_of_mem_signatures {columns : List ViewColumn}
    (hfree : ∀ c ∈ columns, ':' ∉ c.signature.toList) :
    ∀ text ∈ signatures columns, Text.colons text = 0 := by
  intro text htext
  obtain ⟨c, hc, rfl⟩ := List.mem_map.1 ((sorted_perm _).mem_iff.1 htext)
  exact Text.colons_eq_zero.2 (hfree c hc)

theorem colons_of_free {columns : List ViewColumn}
    (hfree : ∀ c ∈ columns, ':' ∉ c.signature.toList) :
    colons columns = List.replicate columns.length 0 := by
  rw [List.eq_replicate_iff]
  refine ⟨by rw [colons, List.length_map, length_signatures], ?_⟩
  intro n hn
  obtain ⟨text, htext, rfl⟩ := List.mem_map.1 hn
  exact colons_of_mem_signatures hfree text htext

/-- Without colons in the signatures, those of the joined text count the columns. -/
theorem colons_eq_of_free {columns columns' : List ViewColumn} (hne : columns ≠ [])
    (hne' : columns' ≠ []) (hfree : ∀ c ∈ columns, ':' ∉ c.signature.toList)
    (hfree' : ∀ c ∈ columns', ':' ∉ c.signature.toList)
    (h : ":".intercalate (signatures columns) = ":".intercalate (signatures columns')) :
    colons columns = colons columns' := by
  have hcount {cs : List ViewColumn} (hcs : cs ≠ []) (hfree : ∀ c ∈ cs, ':' ∉ c.signature.toList) :
      Text.colons (":".intercalate (signatures cs)) + 1 = cs.length := by
    have hsignatures : signatures cs ≠ [] := by
      rw [← List.length_pos_iff, length_signatures, List.length_pos_iff]
      exact hcs
    rw [Text.colons_intercalate hsignatures (colons_of_mem_signatures hfree), length_signatures]
  have hlength : columns.length = columns'.length := by
    rw [← hcount hne hfree, ← hcount hne' hfree', h]
  rw [colons_of_free hfree, colons_of_free hfree', hlength]

end View

/-- Two views with one input have the same columns exactly when their signatures hold the same
numbers of colons. Where no name holds a colon, inputs are equal for equal ordinals and the same
columns only. -/
theorem Declaration.perm_iff_colons {d d' : Declaration} {t t' : Table} (h : d.build = .ok t)
    (h' : d'.build = .ok t') {v v' : View} (hv : v ∈ t.views.values) (hv' : v' ∈ t'.views.values) :
    (t.identityInput v = t'.identityInput v' →
        (v.columns.Perm v'.columns ↔ View.colons v.columns = View.colons v'.columns)) ∧
      ((∀ c ∈ v.columns ++ v'.columns, ':' ∉ c.signature.toList) →
        (t.identityInput v = t'.identityInput v' ↔
          View.ordinal t.views.keys v.name = View.ordinal t'.views.keys v'.name ∧
            v.columns.Perm v'.columns)) := by
  have hexact (hjoined : ":".intercalate (View.signatures v.columns) =
      ":".intercalate (View.signatures v'.columns)) :
      v.columns.Perm v'.columns ↔ View.colons v.columns = View.colons v'.columns := by
    constructor
    · intro hperm
      rw [View.colons, View.colons, View.signatures_of_perm hperm]
    · intro hcolons
      exact View.perm_of_signatures_eq (fun c => entered_of_view h hv)
        (fun c => entered_of_view h' hv') (Text.eq_of_intercalate_eq hcolons hjoined)
  refine ⟨?_, ?_⟩
  · intro hinput
    exact hexact (View.identityInput_eq_iff.1 hinput).2
  · intro hfree
    rw [Table.identityInput, Table.identityInput, View.identityInput_eq_iff]
    refine and_congr_right fun _ => ?_
    constructor
    · intro hjoined
      apply (hexact hjoined).2
      exact View.colons_eq_of_free ((wellFormed_of_build h).views v hv).nonempty
        ((wellFormed_of_build h').views v' hv').nonempty
        (fun c hc => hfree c (List.mem_append_left _ hc))
        (fun c hc => hfree c (List.mem_append_right _ hc)) hjoined
    · intro hperm
      rw [View.signatures_of_perm hperm]

/-- The same columns under the same ordinal, in another order and under another view name. -/
theorem Declaration.perm_iff_colons_linked :
    let d : Declaration := ⟨none, "DB.a@b",
      Dict.ofList [("n", ⟨"Int64", [], false, false, false, false⟩),
        ("up", ⟨"DB.a@b", [], false, false, false, false⟩)],
      Dict.ofList [("v", ⟨"1m", ["n", "up@v", "n"]⟩), ("w", ⟨"", ["id"]⟩)]⟩
    let d' : Declaration := ⟨none, "DB.c",
      Dict.ofList [("up", ⟨"Map<DB.a@b>", [], false, false, false, false⟩),
        ("n", ⟨"Bool", [], false, false, false, false⟩)],
      Dict.ofList [("x", ⟨"", ["up@v", "n", "n"]⟩)]⟩
    ∃ t t' v v', d.build = .ok t ∧ d'.build = .ok t' ∧ v ∈ t.views.values ∧
      v' ∈ t'.views.values ∧ v.columns.Perm v'.columns ∧
      t.identityInput v = t'.identityInput v' := by
  intro d d'
  obtain ⟨t, h⟩ := exists_of_isOk (x := d.build) (by decide +kernel)
  obtain ⟨t', h'⟩ := exists_of_isOk (x := d'.build) (by decide +kernel)
  obtain ⟨v, hfind, hcolumns⟩ := view_of_declared h (show d.views.find? "v" = some _ from rfl)
  obtain ⟨v', hfind', hcolumns'⟩ := view_of_declared h' (show d'.views.find? "x" = some _ from rfl)
  have hlist : v.columns = [.plain "n", .linked "up" "a@b" "v", .plain "n"] :=
    hcolumns.trans (by decide +kernel)
  have hlist' : v'.columns = [.linked "up" "a@b" "v", .plain "n", .plain "n"] :=
    hcolumns'.trans (by decide +kernel)
  have hv := Dict.mem_values.2 ⟨"v", hfind⟩
  have hv' := Dict.mem_values.2 ⟨"x", hfind'⟩
  have hperm : v.columns.Perm v'.columns := by
    rw [hlist, hlist']
    decide
  have hfree : ∀ c ∈ v.columns ++ v'.columns, ':' ∉ c.signature.toList := by
    rw [hlist, hlist']
    decide +kernel
  have hordinal : View.ordinal t.views.keys v.name = View.ordinal t'.views.keys v'.name := by
    rw [keys_views h, keys_views h', (wellFormed_of_build h).views_named "v" v hfind,
      (wellFormed_of_build h').views_named "x" v' hfind']
    decide +kernel
  exact ⟨t, t', v, v', h, h', hv, hv', hperm,
    ((perm_iff_colons h h' hv hv').2 hfree).2 ⟨hordinal, hperm⟩⟩

/-- A column `a:b` gives the input, and so the identity, of the two columns `a` and `b`. -/
theorem Declaration.identityInput_eq_of_colon :
    let d : Declaration := ⟨none, "t",
      Dict.ofList [("a", ⟨"Int64", [], false, false, false, false⟩),
        ("b", ⟨"Int64", [], false, false, false, false⟩)],
      Dict.ofList [("v", ⟨"", ["a", "b"]⟩)]⟩
    let d' : Declaration := ⟨none, "u",
      Dict.ofList [("a:b", ⟨"Int64", [], false, false, false, false⟩)],
      Dict.ofList [("v", ⟨"", ["a:b"]⟩)]⟩
    ∃ t t' v v', d.build = .ok t ∧ d'.build = .ok t' ∧ v ∈ t.views.values ∧
      v' ∈ t'.views.values ∧ t.identityInput v = t'.identityInput v' ∧ v.identity = v'.identity ∧
      ¬ v.columns.Perm v'.columns := by
  intro d d'
  obtain ⟨t, h⟩ := exists_of_isOk (x := d.build) (by decide +kernel)
  obtain ⟨t', h'⟩ := exists_of_isOk (x := d'.build) (by decide +kernel)
  obtain ⟨v, hfind, hcolumns⟩ := view_of_declared h (show d.views.find? "v" = some _ from rfl)
  obtain ⟨v', hfind', hcolumns'⟩ := view_of_declared h' (show d'.views.find? "v" = some _ from rfl)
  have hlist : v.columns = [.plain "a", .plain "b"] := hcolumns.trans (by decide +kernel)
  have hlist' : v'.columns = [.plain "a:b"] := hcolumns'.trans (by decide +kernel)
  have hv := Dict.mem_values.2 ⟨"v", hfind⟩
  have hv' := Dict.mem_values.2 ⟨"v", hfind'⟩
  have hinput : t.identityInput v = t'.identityInput v' := by
    rw [identityInput_of_find? h hfind, identityInput_of_find? h' hfind',
      View.identityInput_eq_iff, hlist, hlist']
    have hsignatures : View.signatures [.plain "a", .plain "b"] = ["a", "b"] :=
      View.sorted_of_pairwise (by decide +kernel)
    have hsignatures' : View.signatures [.plain "a:b"] = ["a:b"] :=
      View.sorted_of_pairwise (by decide +kernel)
    rw [hsignatures, hsignatures']
    exact ⟨by decide +kernel, by decide +kernel⟩
  refine ⟨t, t', v, v', h, h', hv, hv', hinput, ?_, ?_⟩
  · rw [identity_of_view h hv, identity_of_view h' hv', hinput]
  · rw [hlist, hlist']
    decide

end SqlCatalog
