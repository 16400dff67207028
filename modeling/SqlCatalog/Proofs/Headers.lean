-- SUMMARY: The header of a JSON text agrees with its declaration, and what that means for discovered files.
import SqlCatalog.Proofs.Acceptance
import SqlCatalog.Proofs.Links
import SqlCatalog.Proofs.Loading

/-!
# Headers

The header tells a declaration from other files before it is read in full. It
asks for one field and skips the rest, whatever the rest holds, while the
declaration reads all of it. Where the declaration can be read, the two agree on
the version of an object; a list of values without names is too long for a
header, so such a declaration is only found when its file is named. What a
discovered file declares therefore never has a version that is not supported.
-/

namespace SqlCatalog

/-! ## Fields -/

theorem Entries.find?_filter {α : Type} {key : String} {names : List String} (h : key ∈ names)
    (es : List (String × α)) :
    find? key (es.filter fun e => e.1 ∈ names) = find? key es := by
  induction es with
  | nil => rfl
  | cons e rest ih =>
    obtain ⟨k, value⟩ := e
    by_cases hk : k ∈ names
    · simp [hk, find?, ih]
    · have hne : k ≠ key := fun heq => hk (heq ▸ h)
      simp [hk, find?, hne, ih]

namespace Reader

/-- An object gives the same fields when fewer are asked for, less the others. -/
theorem namedFields_of_subset {names fewer : List String} (hsub : fewer ⊆ names)
    {members : List (Option String × Document)} {found : List (String × Document)}
    (h : namedFields names members = some found) :
    namedFields fewer members = some (found.filter fun e => e.1 ∈ fewer) := by
  induction members generalizing found with
  | nil =>
    cases h
    rfl
  | cons member rest ih =>
    obtain ⟨key, d⟩ := member
    cases key with
    | none => cases h
    | some key =>
      unfold namedFields at h ⊢
      cases hrest : namedFields names rest with
      | none =>
        rw [hrest] at h
        cases h
      | some others =>
        rw [hrest] at h
        rw [ih hrest]
        by_cases hname : key ∈ names
        · simp only [if_pos hname] at h
          split at h
          · cases h
          · rename_i hnew
            cases h
            have hnew' : key ∉ Entries.keys (others.filter fun e => e.1 ∈ fewer) := fun hmem =>
              hnew (((List.filter_sublist).map Prod.fst).subset hmem)
            by_cases hfewer : key ∈ fewer <;> simp [hfewer, hnew']
        · have hfewer : key ∉ fewer := fun hmem => hname (hsub hmem)
          simp only [if_neg hname, Option.some.injEq] at h
          simp [hfewer, h]

theorem record_succ {α : Type} (names : List String) (body : Nat → Fields → Option α) (budget : Nat)
    (document : Document) :
    record names body (budget + 1) document = (fields names document).bind (body budget) := rfl

end Reader

/-! ## Declarations and their headers -/

section

variable {budget : Nat} {declared : Declaration}

/-- A declaration is read from fields that have its version, if they have any, and a table. -/
theorem Declaration.fields_of_read {document : Document}
    (h : Declaration.read (budget + 1) document = some declared) :
    ∃ fs, Reader.fields ["version", "table", "columns", "views"] document = some fs ∧
      fs.orElse "version" none (Reader.optional Reader.string budget) = some declared.version ∧
      (Entries.find? "table" fs.found).isSome := by
  obtain ⟨fs, hfields, hbody⟩ := Option.bind_eq_some_iff.1 h
  obtain ⟨version, hversion, hbody⟩ := Option.bind_eq_some_iff.1 hbody
  obtain ⟨table, htable, hbody⟩ := Option.bind_eq_some_iff.1 hbody
  obtain ⟨columns, -, hbody⟩ := Option.bind_eq_some_iff.1 hbody
  obtain ⟨views, -, hbody⟩ := Option.bind_eq_some_iff.1 hbody
  obtain ⟨d, hd, -⟩ := Option.bind_eq_some_iff.1 htable
  cases hbody
  exact ⟨fs, hfields, hversion, by rw [hd]; rfl⟩

theorem Declaration.isNested_of_read {document : Document}
    (h : Declaration.read (budget + 1) document = some declared) :
    (∃ members, document = .object members) ∨ ∃ items, document = .array items := by
  cases document with
  | object members => exact .inl ⟨members, rfl⟩
  | array items => exact .inr ⟨items, rfl⟩
  | null | bool | number | string => cases h

/-- The header of an object skips the other fields and has the same version. -/
theorem Header.read_object {members : List (Option String × Document)}
    (h : Declaration.read (budget + 1) (.object members) = some declared) :
    Header.read (budget + 1) (.object members) = some ⟨declared.version⟩ := by
  obtain ⟨fs, hfields, hversion, -⟩ := Declaration.fields_of_read h
  obtain ⟨found, hfound, rfl⟩ := Option.map_eq_some_iff.1 hfields
  have hsub : ["version"] ⊆ ["version", "table", "columns", "views"] := by simp
  have hheader : Reader.fields ["version"] (.object members) =
      some ⟨false, found.filter fun e => e.1 ∈ ["version"]⟩ := by
    rw [Reader.fields, Reader.namedFields_of_subset hsub hfound]
    rfl
  have hsame : Entries.find? "version" (found.filter fun e => e.1 ∈ ["version"]) =
      Entries.find? "version" found := Entries.find?_filter (by simp) found
  apply Option.bind_eq_some_iff.2
  refine ⟨_, hheader, Option.bind_eq_some_iff.2 ⟨declared.version, ?_, rfl⟩⟩
  unfold Reader.Fields.orElse at hversion ⊢
  rwa [hsame]

/-- Values in a list that declare a table are at least two: too many for a header. -/
theorem Header.read_array {items : List Document}
    (h : Declaration.read (budget + 1) (.array items) = some declared) :
    Header.read (budget + 1) (.array items) = none := by
  obtain ⟨fs, hfields, -, htable⟩ := Declaration.fields_of_read h
  cases items with
  | nil =>
    cases hfields
    cases htable
  | cons version rest =>
    cases rest with
    | nil =>
      cases hfields
      cases htable
    | cons table rest =>
      have hnone : Reader.fields ["version"] (.array (version :: table :: rest)) = none := by
        simp [Reader.fields]
      rw [Header.read, Reader.record_succ, hnone]
      rfl

/-- The header of a JSON text that is a declaration: that of an object has the version of the
declaration, and an array has none. -/
theorem Header.ofJson?_of_declaration {text : String} {d : Declaration}
    (h : Declaration.ofJson? text = some d) :
    (∃ members, Document.ofJson? text = some (.object members) ∧
        Header.ofJson? text = some ⟨d.version⟩) ∨
      ∃ items, Document.ofJson? text = some (.array items) ∧ Header.ofJson? text = none := by
  obtain ⟨document, hdocument, hread⟩ := Option.bind_eq_some_iff.1 h
  rcases Declaration.isNested_of_read hread with ⟨members, rfl⟩ | ⟨items, rfl⟩
  · refine .inl ⟨members, hdocument, ?_⟩
    rw [Header.ofJson?, hdocument]
    exact Header.read_object hread
  · refine .inr ⟨items, hdocument, ?_⟩
    rw [Header.ofJson?, hdocument]
    exact Header.read_array hread

end

/-! ## Errors about the version -/

/-- Whether an error is about the version of a declaration. -/
def SchemaError.isVersion : SchemaError → Bool
  | .unsupportedVersion _ _ => true
  | _ => false

/-- The computation does not fail because of a version. -/
abbrev VersionFree {α : Type} (x : Except SchemaError α) : Prop :=
  FailsOnly (fun error => error.isVersion = false) x

theorem Dict.failsOnly_collect {α β ε : Type} {P : ε → Prop} {make : String → β → Except ε α}
    (d : Dict α) (hmake : ∀ key source, FailsOnly P (make key source))
    (sources : List (String × β)) : FailsOnly P (d.collect make sources) := by
  induction sources generalizing d with
  | nil => exact .ok d
  | cons source rest ih => exact (hmake source.1 source.2).bind fun value => ih _

namespace ColumnDeclaration

theorem versionFree_operators (table column : String) (texts : List String) :
    VersionFree (operators table column texts) := by
  induction texts with
  | nil => exact .ok []
  | cons text rest ih =>
    unfold operators
    split
    · exact .error rfl
    · exact .error rfl
    · exact ih.bind fun ops => .ok _

theorem versionFree_base (table name : String) (d : ColumnDeclaration) :
    VersionFree (d.base table name) := by
  unfold base
  split
  · exact .error rfl
  · split <;> split
    · exact .ok _
    · exact .error rfl
    · exact .error rfl
    · exact .ok _

theorem versionFree_build (table name : String) (d : ColumnDeclaration) :
    VersionFree (d.build table name) :=
  (d.versionFree_base table name).bind fun _ =>
    (versionFree_operators table name d.query).bind fun _ => .ok _

end ColumnDeclaration

namespace ViewDeclaration

theorem versionFree_entry (table view : String) (columns : Dict Column) (text : String) :
    VersionFree (entry table view columns text) := by
  unfold entry
  dsimp only
  split
  · rename_i name _
    split
    · exact .error rfl
    · cases columns.find? name with
      | none => exact .error rfl
      | some column => exact .ok _
  · rename_i name linkedView _
    split
    · exact .error rfl
    · cases columns.find? name with
      | none => exact .error rfl
      | some column =>
        refine (FailsOnly.ok column).bind fun column => ?_
        split
        · split
          · exact .ok _
          · exact .error rfl
        · exact .error rfl
  · exact .error rfl

theorem versionFree_entries (table view : String) (columns : Dict Column) (texts : List String) :
    VersionFree (entries table view columns texts) := by
  induction texts with
  | nil => exact .ok []
  | cons text rest ih =>
    exact (versionFree_entry table view columns text).bind fun c => ih.bind fun others => .ok _

theorem versionFree_build (table name : String) (columns : Dict Column) (names : List String)
    (d : ViewDeclaration) : VersionFree (d.build table name columns names) := by
  unfold build
  refine (versionFree_entries table name columns d.columns).bind fun made => ?_
  by_cases hempty : made = []
  · rw [if_pos hempty]
    exact .error rfl
  · rw [if_neg hempty]
    cases Lifetime.ofText? d.cache with
    | none => exact .error rfl
    | some seconds => exact .ok _

end ViewDeclaration

namespace Declaration

theorem versionFree_buildColumns (table : String) (built : Dict Column)
    (declared : List (String × ColumnDeclaration)) :
    VersionFree (buildColumns table built declared) :=
  built.failsOnly_collect (fun name d => d.versionFree_build table name) declared

theorem versionFree_buildViews (table : String) (columns : Dict Column) (names : List String)
    (built : Dict View) (declared : List (String × ViewDeclaration)) :
    VersionFree (buildViews table columns names built declared) :=
  built.failsOnly_collect (fun name d => d.versionFree_build table name columns names) declared

/-- A declaration of the current version, or of none, is not refused for its version. -/
theorem versionFree_build {d : Declaration}
    (h : d.version = none ∨ d.version = some currentVersion) : VersionFree d.build := by
  unfold build
  dsimp only
  split
  · exact .error rfl
  · rw [checkVersion_eq_ok.2 h]
    refine (FailsOnly.ok ()).bind fun _ => ?_
    refine (versionFree_buildColumns _ _ _).bind fun columns => ?_
    exact (versionFree_buildViews _ columns _ _ _).bind fun _ => .ok _

end Declaration

theorem Draft.versionFree_add (draft : Draft) {d : Declaration}
    (h : d.version = none ∨ d.version = some Declaration.currentVersion) :
    VersionFree (draft.add d) := by
  unfold add
  refine (Declaration.versionFree_build h).bind fun t => ?_
  split
  · exact .error rfl
  · exact .ok _

theorem Draft.versionFree_linkErrors (draft : Draft) :
    ∀ error ∈ draft.linkErrors, error.isVersion = false := by
  intro error herror
  obtain ⟨t, -, hdangling⟩ := List.mem_flatMap.1 herror
  rw [Table.danglingLinks_eq] at hdangling
  obtain ⟨link, -, rfl⟩ := List.mem_map.1 hdangling
  cases link <;> rfl

/-! ## Discovered files -/

namespace Command

namespace SchemaFile

variable {f : SchemaFile} {text : String}

theorem declaration?_json (hjson : f.isToml = false) :
    f.declaration? text = Declaration.ofJson? text := by
  simp [declaration?, hjson]

theorem header?_json (hjson : f.isToml = false) : f.header? text = Header.ofJson? text := by
  simp [header?, hjson]

/-- What a discovered file that counts declares has the version of its header. -/
theorem version_of_counts (hjson : f.isToml = false) (hfound : f.discovered = true)
    (hcounts : f.Counts text) {d : Declaration} (hd : f.declaration? text = some d) :
    d.version = some Declaration.currentVersion := by
  rcases hcounts with hnamed | ⟨header, hheader, hversion⟩
  · rw [hfound] at hnamed
    cases hnamed
  · rw [header?_json hjson, Option.mem_def] at hheader
    rw [declaration?_json hjson] at hd
    rcases Header.ofJson?_of_declaration hd with ⟨_, -, hsame⟩ | ⟨_, -, hnone⟩
    · rw [hsame] at hheader
      cases hheader
      exact hversion
    · rw [hnone] at hheader
      cases hheader

theorem versionFree_addRead (hjson : f.isToml = false) (hfound : f.discovered = true)
    (hcounts : f.Counts text) (draft : Draft) :
    VersionFree (draft.addRead (f.declaration? text)) := by
  cases hd : f.declaration? text with
  | none => exact .error rfl
  | some d => exact draft.versionFree_add (.inr (version_of_counts hjson hfound hcounts hd))

end SchemaFile

namespace Loaded

/-- Every answer is given to its file by some draft on the way. -/
theorem exists_draft_of_answer {draft : Draft} {files : List (SchemaFile × String)}
    {f : SchemaFile × String} {answer : Except SchemaError Table}
    (h : (f, answer) ∈ files.zip (draft.answers (sources files))) :
    ∃ before : Draft, before.answer (f.1.source f.2) = answer := by
  induction files generalizing draft with
  | nil => cases h
  | cons file rest ih =>
    rw [sources_cons, Draft.answers, List.zip_cons_cons, List.mem_cons] at h
    rcases h with hfirst | hrest
    · cases hfirst
      exact ⟨draft, rfl⟩
    · exact ih hrest

/-- A rejection stands for a file that some draft on the way refused. -/
theorem refused_of_rejection {draft : Draft} {files : List (SchemaFile × String)} {e : FileError}
    (h : e ∈ rejections files (draft.answers (sources files))) :
    ∃ f ∈ files, f.1.path = e.file ∧
      ∃ before : Draft, before.addRead (f.1.declaration? f.2) = .error e.error := by
  obtain ⟨⟨f, answer⟩, hmem, he⟩ := List.mem_filterMap.1 h
  obtain ⟨error, hrefused, rfl⟩ := Option.map_eq_some_iff.1 he
  obtain ⟨before, hanswer⟩ := exists_draft_of_answer hmem
  rw [refusal?_eq_some.1 hrefused] at hanswer
  refine ⟨f, (List.of_mem_zip hmem).1, rfl, before, ?_⟩
  rw [addRead_declaration?]
  cases hsubmit : before.submit (f.1.source f.2) with
  | ok result =>
    rw [(Draft.step_of_ok hsubmit).1] at hanswer
    cases hanswer
  | error error' =>
    rw [(Draft.step_of_error hsubmit).1] at hanswer
    cases hanswer
    rfl

/-- Whatever files are loaded, one that is refused for its version was named, or is no JSON file. -/
theorem file_of_version_error {files : List (SchemaFile × String)} {errors : List FileError}
    (h : ofTexts files = .refused errors) {e : FileError} (he : e ∈ errors)
    (hversion : e.error.isVersion = true) :
    ∃ f ∈ files, f.1.path = e.file ∧ (f.1.discovered = false ∨ f.1.isToml = true) := by
  rw [ofTexts_eq] at h
  rcases finish_eq_refused.1 h with ⟨-, rfl⟩ | ⟨-, -, rfl⟩
  · obtain ⟨f, hmem, hpath, before, hrefused⟩ := refused_of_rejection he
    obtain ⟨hmem, hcounts⟩ := List.mem_filter.1 hmem
    refine ⟨f, hmem, hpath, ?_⟩
    by_contra hfound
    simp only [not_or, Bool.not_eq_false, Bool.not_eq_true] at hfound
    have hfree := f.1.versionFree_addRead hfound.2 hfound.1 (of_decide_eq_true hcounts) before
    rw [hfree _ hrefused] at hversion
    cases hversion
  · obtain ⟨error, herror, rfl⟩ := List.mem_map.1 he
    rw [Draft.versionFree_linkErrors _ error herror] at hversion
    cases hversion

end Loaded

end Command

open Command

/-- Wherever a JSON text is read as a declaration, an object has a header with the version of the
declaration, and an array, which lists the values of the fields, has none. So among the texts of
the current version a discovered file is skipped exactly when it is an array, and one that is not
skipped is never refused for its version, neither on its own nor among others. -/
theorem Header.agrees_with_declaration :
    (∀ text d, Declaration.ofJson? text = some d →
      (∃ members, Document.ofJson? text = some (.object members) ∧
          Header.ofJson? text = some ⟨d.version⟩) ∨
        ∃ items, Document.ofJson? text = some (.array items) ∧ Header.ofJson? text = none) ∧
    (∀ path text d, (SchemaFile.named path).isToml = false →
      (SchemaFile.named path).declaration? text = some d → d.version = some "rt.db.v1" →
        ((SchemaFile.found path).isKept text = false ↔
          ∃ items, Document.ofJson? text = some (.array items))) ∧
    (∀ (f : SchemaFile) text (draft : Draft), f.discovered = true → f.isToml = false →
      f.isKept text = true → ∀ table version,
        draft.addRead (f.declaration? text) ≠ .error (.unsupportedVersion table version)) ∧
    ∀ files errors, Loaded.ofTexts files = .refused errors → ∀ e ∈ errors, ∀ table version,
      e.error = .unsupportedVersion table version →
        ∃ f ∈ files, f.1.path = e.file ∧ (f.1.discovered = false ∨ f.1.isToml = true) := by
  refine ⟨fun text d => ofJson?_of_declaration, ?_, ?_, ?_⟩
  · intro path text d hjson hd hversion
    rw [SchemaFile.declaration?_json hjson] at hd
    have hkept : (SchemaFile.found path).isKept text =
        (Header.ofJson? text).any Header.isDeclaration := by
      rw [SchemaFile.isKept, SchemaFile.header?_json (f := .found path) hjson]
      rfl
    rw [hkept]
    rcases ofJson?_of_declaration hd with ⟨members, hobject, hheader⟩ | ⟨items, harray, hheader⟩
    · rw [hheader, hobject]
      simp [Header.isDeclaration, hversion, Declaration.currentVersion]
    · rw [hheader, harray]
      simp
  · intro f text draft hfound hjson hkept table version hrefused
    have hfree := f.versionFree_addRead hjson hfound (SchemaFile.isKept_iff.1 hkept) draft
    cases hfree _ hrefused
  · intro files errors hload e he table version herror
    exact Loaded.file_of_version_error hload he (by rw [herror]; rfl)

/-- One declaration as a list of values and as an object with skipped fields around its own. -/
theorem Header.agrees_with_declaration_listed :
    let listed := "[\"rt.db.v1\", \"DB.t\"]"
    let object :=
      "\x7b\"x\": [\x7b\"version\": 1e999\x7d], \"t\\u0061ble\": \"DB.t\", " ++
        "\"version\": \"rt.db.v1\"\x7d"
    let d : Declaration := ⟨some "rt.db.v1", "DB.t", .empty, .empty⟩
    (Declaration.ofJson? listed = some d ∧
        (∃ items, Document.ofJson? listed = some (.array items)) ∧
        (SchemaFile.found "a.json").isKept listed = false) ∧
      Declaration.ofJson? object = some d ∧
        (∃ members, Document.ofJson? object = some (.object members)) ∧
        (SchemaFile.found "a.json").isKept object = true ∧
        ∀ version, Draft.empty.addRead ((SchemaFile.found "a.json").declaration? object) ≠
          .error (.unsupportedVersion "t" version) := by
  intro listed object d
  obtain ⟨hagrees, hskipped, hfree, -⟩ := agrees_with_declaration
  have hjson : (SchemaFile.named "a.json").isToml = false := by decide +kernel
  refine ⟨?_, ?_⟩
  · have hd : Declaration.ofJson? listed = some d := by decide +kernel
    have hnone : Header.ofJson? listed = none := by decide +kernel
    rcases hagrees listed d hd with ⟨_, -, hsome⟩ | ⟨items, harray, -⟩
    · cases hnone.symm.trans hsome
    · have hnamed := (SchemaFile.declaration?_json hjson).trans hd
      exact ⟨hd, ⟨items, harray⟩, (hskipped _ _ d hjson hnamed rfl).2 ⟨items, harray⟩⟩
  · have hd : Declaration.ofJson? object = some d := by decide +kernel
    have hkept : (SchemaFile.found "a.json").isKept object = true := by decide +kernel
    rcases hagrees object d hd with ⟨members, hobject, -⟩ | ⟨items, harray, -⟩
    · have hunrefused := hfree (.found "a.json") object .empty rfl hjson hkept "t"
      exact ⟨hd, ⟨members, hobject⟩, hkept, hunrefused⟩
    · have hnamed := (SchemaFile.declaration?_json hjson).trans hd
      have hlost := (hskipped _ _ d hjson hnamed rfl).2 ⟨items, harray⟩
      rw [hkept] at hlost
      cases hlost

end SqlCatalog
