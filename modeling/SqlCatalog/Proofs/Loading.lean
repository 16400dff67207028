-- SUMMARY: Loading files gives a catalog or reports exactly the failures, never a part of one.
import SqlCatalog.Command.Loading
import SqlCatalog.Files.Tree
import SqlCatalog.Proofs.Registered

/-!
# Loading files

Loading hands the files that count to a draft, one after the other. The answers
of the draft settle everything: a catalog comes out exactly when no file was
refused and no link is broken, and then it has one table for each file, in
order. Otherwise nothing comes out but the errors: those of the refused files,
or, when there are none, those of the links. A file that cannot be read ends the
run before any of this.
-/

namespace SqlCatalog.Command

namespace SchemaFile

/-- A file counts if it was named, or if its header has the version of a declaration. -/
def Counts (f : SchemaFile) (text : String) : Prop :=
  f.discovered = false ∨ ∃ h ∈ f.header? text, h.version = some "rt.db.v1"

theorem isKept_iff {f : SchemaFile} {text : String} : f.isKept text = true ↔ f.Counts text := by
  cases hheader : f.header? text with
  | none => simp [isKept, Counts, hheader]
  | some h =>
    simp only [isKept, Counts, hheader, Header.isDeclaration, Bool.or_eq_true, Bool.not_eq_true',
      Option.any_some, decide_eq_true_eq, Option.mem_some_iff, exists_eq_left']
    exact Iff.rfl

instance (f : SchemaFile) (text : String) : Decidable (f.Counts text) :=
  decidable_of_iff _ isKept_iff

/-- The file as a draft is handed it. -/
def source (f : SchemaFile) (text : String) : SqlCatalog.Source :=
  if f.isToml then .toml text else .json text

theorem declaration?_source (f : SchemaFile) (text : String) :
    (f.source text).declaration? = f.declaration? text := by
  unfold source declaration?
  split <;> rfl

end SchemaFile

namespace Loaded

/-- The files with their texts, as sources. -/
def sources (files : List (SchemaFile × String)) : List SqlCatalog.Source :=
  files.map fun f => f.1.source f.2

/-- One error for each file that was refused, under its path and in order. -/
def rejections (files : List (SchemaFile × String)) (answers : List (Except SchemaError Table)) :
    List FileError :=
  (files.zip answers).filterMap fun (f, answer) => (refusal? answer).map (FileError.mk f.1.path)

theorem sources_cons (f : SchemaFile × String) (rest : List (SchemaFile × String)) :
    sources (f :: rest) = f.1.source f.2 :: sources rest := rfl

section

variable (f : SchemaFile × String) (rest : List (SchemaFile × String))
  (answers : List (Except SchemaError Table))

theorem rejections_cons_ok (t : Table) :
    rejections (f :: rest) (.ok t :: answers) = rejections rest answers := rfl

theorem rejections_cons_error (error : SchemaError) :
    rejections (f :: rest) (.error error :: answers) =
      ⟨f.1.path, error⟩ :: rejections rest answers := rfl

end

/-! ## Adding files to a draft -/

theorem addRead_declaration? (draft : Draft) (f : SchemaFile) (text : String) :
    draft.addRead (f.declaration? text) = draft.submit (f.source text) := by
  rw [draft.submit_eq, f.declaration?_source]

/-- Adding files leaves the draft that answers them, and reports the refusals among the answers. -/
theorem addAll_eq (draft : Draft) (files : List (SchemaFile × String)) :
    addAll draft files =
      (draft.after (sources files), rejections files (draft.answers (sources files))) := by
  induction files generalizing draft with
  | nil => rfl
  | cons file rest ih =>
    obtain ⟨f, text⟩ := file
    rw [addAll, addRead_declaration?, sources_cons, Draft.after_cons, Draft.answers]
    cases hsubmit : draft.submit (f.source text) with
    | ok result =>
      obtain ⟨hanswer, hnext⟩ := Draft.step_of_ok hsubmit
      rw [hanswer, hnext, rejections_cons_ok]
      exact ih result.2
    | error error =>
      obtain ⟨hanswer, hnext⟩ := Draft.step_of_error hsubmit
      rw [hanswer, hnext, rejections_cons_error]
      simp only [ih]

theorem rejections_eq_nil {files : List (SchemaFile × String)} (draft : Draft) :
    rejections files (draft.answers (sources files)) = [] ↔
      ∀ answer ∈ draft.answers (sources files), ∃ t, answer = .ok t := by
  have hlength : (draft.answers (sources files)).length ≤ files.length := by
    simp [Draft.length_answers, sources]
  rw [← List.map_snd_zip hlength, List.forall_mem_map, rejections, List.filterMap_eq_nil_iff,
    List.map_snd_zip hlength]
  simp only [Option.map_eq_none_iff, refusal?_eq_none]

/-- If every file is accepted, the accepted tables are those that the files declare. -/
theorem forall₂_accepted {draft : Draft} {files : List (SchemaFile × String)}
    (h : ∀ answer ∈ draft.answers (sources files), ∃ t, answer = .ok t) :
    List.Forall₂ (fun f t => ∃ d, f.1.declaration? f.2 = some d ∧ d.build = .ok t) files
      (draft.accepted (sources files)) := by
  induction files generalizing draft with
  | nil => exact .nil
  | cons file rest ih =>
    obtain ⟨hfirst, hrest⟩ := List.forall_mem_cons.1 h
    rcases draft.step_cases (file.1.source file.2) with
      ⟨error, hanswer, -⟩ | ⟨d, t, hread, hbuild, hanswer, -⟩
    · obtain ⟨t, ht⟩ := hfirst
      rw [hanswer] at ht
      cases ht
    · rw [file.1.declaration?_source] at hread
      rw [sources, List.map_cons, Draft.accepted_of_ok hanswer]
      exact .cons ⟨d, hread, hbuild⟩ (ih hrest)

/-! ## Reading files -/

/-- Files that can all be read, as loading is given them. -/
def readable (files : List (SchemaFile × String)) : List (SchemaFile × Option String) :=
  files.map fun f => (f.1, some f.2)

theorem texts_readable (files : List (SchemaFile × String)) :
    texts (readable files) = .ok files := by
  induction files with
  | nil => rfl
  | cons f rest ih =>
    rw [readable] at ih
    rw [readable, List.map_cons, texts, ih]
    rfl

/-- The first file without a text ends the reading. -/
theorem texts_unreadable (before : List (SchemaFile × String)) (f : SchemaFile)
    (after : List (SchemaFile × Option String)) :
    texts (readable before ++ (f, none) :: after) = .error (.unreadable f.path) := by
  induction before with
  | nil => rfl
  | cons g rest ih =>
    rw [readable] at ih
    rw [readable, List.map_cons, List.cons_append, texts, ih]
    rfl

section

variable {m : Type → Type} [Monad m] [LawfulMonad m] {disk : Disk m}
  {files : List (SchemaFile × Option String)}

theorem mapM_withText (h : ∀ f ∈ files, disk.read f.1.path = pure f.2) :
    (files.map Prod.fst).mapM (SchemaFile.withText disk) = pure files := by
  induction files with
  | nil => simp
  | cons f rest ih =>
    obtain ⟨hfirst, hrest⟩ := List.forall_mem_cons.1 h
    simp [SchemaFile.withText, hfirst, ih hrest]

/-- Loading from a disk is loading the texts that the disk gives. -/
theorem ofDisk_eq (h : ∀ f ∈ files, disk.read f.1.path = pure f.2) :
    (ofDisk disk (files.map Prod.fst)).run = pure (load files) := by
  unfold ofDisk
  rw [mapM_withText h]
  cases hload : load files with
  | ok loaded => simp [hload]
  | error failure => simp [hload]

end

/-! ## From files to a catalog -/

theorem finish_eq_accepted {draft : Draft} {errors : List FileError} {c : Catalog} :
    finish draft errors = .accepted c ↔ errors = [] ∧ draft.build = .ok c := by
  cases errors with
  | nil => cases hbuild : draft.build <;> simp [finish, hbuild]
  | cons error errors => simp [finish]

theorem finish_eq_refused {draft : Draft} {errors reported : List FileError} :
    finish draft errors = .refused reported ↔
      (errors ≠ [] ∧ reported = errors) ∨
        (errors = [] ∧ draft.build = .error draft.linkErrors ∧
          reported = draft.linkErrors.map (FileError.mk schemaLabel)) := by
  cases errors with
  | nil =>
    cases hbuild : draft.build with
    | ok c => simp [finish, hbuild]
    | error es =>
      obtain ⟨rfl, -⟩ := Draft.build_eq_error.1 hbuild
      simp [finish, hbuild, eq_comm]
  | cons error errors => simp [finish, eq_comm]

/-- What texts come to is known from the answers of a draft to the files that count. -/
theorem ofTexts_eq (files : List (SchemaFile × String)) :
    let counted := files.filter fun f => f.1.Counts f.2
    ofTexts files = finish (Draft.empty.after (sources counted))
      (rejections counted (Draft.empty.answers (sources counted))) := by
  intro counted
  have hkept : (files.filter fun f => f.1.isKept f.2) = counted := by
    apply List.filter_congr
    intro f _
    rw [Bool.eq_iff_iff, SchemaFile.isKept_iff, decide_eq_true_eq]
  change finish (addAll .empty (files.filter fun f => f.1.isKept f.2)).1
    (addAll .empty (files.filter fun f => f.1.isKept f.2)).2 = _
  rw [hkept, addAll_eq]

theorem load_readable {files : List (SchemaFile × String)} (hne : files ≠ []) :
    load (readable files) = .ok (ofTexts files) := by
  rw [load, texts_readable, if_neg (by simpa [readable] using hne)]
  rfl

/-- The tables of a catalog that was loaded are those that its files declare, in order. -/
theorem forall₂_entries {files : List (SchemaFile × String)} {c : Catalog}
    (h : ∀ answer ∈ Draft.empty.answers (sources files), ∃ t, answer = .ok t)
    (hbuild : (Draft.empty.after (sources files)).build = .ok c) :
    List.Forall₂ (fun f e => e.1 = e.2.name ∧
      ∃ d, f.1.declaration? f.2 = some d ∧ d.build = .ok e.2) files c.tables.entries := by
  obtain ⟨-, rfl⟩ := Draft.build_eq_ok.1 hbuild
  rw [Draft.entries_after_empty, List.forall₂_map_right_iff]
  refine (forall₂_accepted h).imp ?_
  intro f t hdeclared
  exact ⟨rfl, hdeclared⟩

/-- Files that can all be read give a catalog exactly when every file that counts is accepted after
those before it and no link is broken; the catalog has one table for each of these files, in
order. Otherwise they give one error for each refused file, in order and under its path, or, when
none was refused, the errors of the links. The first file that cannot be read ends the loading,
whatever the others hold. From a disk, loading takes the texts that the disk gives. -/
theorem load_all_or_nothing :
    (∀ files : List (SchemaFile × String), files ≠ [] →
      let counted := files.filter fun f => f.1.Counts f.2
      let answers := Draft.empty.answers (sources counted)
      let draft := Draft.empty.after (sources counted)
      ∃ loaded, load (readable files) = .ok loaded ∧
        ((∃ c, loaded = .accepted c) ↔
          (∀ answer ∈ answers, ∃ t, answer = .ok t) ∧ draft.linkErrors = []) ∧
        (∀ c, loaded = .accepted c →
          List.Forall₂ (fun f e => e.1 = e.2.name ∧
            ∃ d, f.1.declaration? f.2 = some d ∧ d.build = .ok e.2) counted c.tables.entries) ∧
        ∀ errors, loaded = .refused errors →
          ((∃ answer ∈ answers, ∃ error, answer = .error error) ∧
              errors = rejections counted answers) ∨
            ((∀ answer ∈ answers, ∃ t, answer = .ok t) ∧
              draft.build = .error draft.linkErrors ∧
              errors = draft.linkErrors.map (FileError.mk "(schema)"))) ∧
      (∀ before f after,
        load (readable before ++ (f, none) :: after) = .error (.unreadable f.path)) ∧
      ∀ (m : Type → Type) [Monad m] [LawfulMonad m] (disk : Disk m) files,
        (∀ f ∈ files, disk.read f.1.path = pure f.2) →
          (ofDisk disk (files.map Prod.fst)).run = pure (load files) := by
  refine ⟨?_, ?_, ?_⟩
  · intro files hne counted answers draft
    refine ⟨ofTexts files, load_readable hne, ?_⟩
    rw [ofTexts_eq]
    refine ⟨?_, ?_, ?_⟩
    · constructor
      · rintro ⟨c, haccepted⟩
        obtain ⟨hnone, hbuild⟩ := finish_eq_accepted.1 haccepted
        exact ⟨(rejections_eq_nil _).1 hnone, (Draft.build_eq_ok.1 hbuild).1⟩
      · rintro ⟨hall, hlinks⟩
        refine ⟨⟨draft.tables⟩, finish_eq_accepted.2 ⟨(rejections_eq_nil _).2 hall, ?_⟩⟩
        exact Draft.build_eq_ok.2 ⟨hlinks, rfl⟩
    · intro c haccepted
      obtain ⟨hnone, hbuild⟩ := finish_eq_accepted.1 haccepted
      exact forall₂_entries ((rejections_eq_nil _).1 hnone) hbuild
    · intro errors hrefused
      rcases finish_eq_refused.1 hrefused with ⟨hsome, herrors⟩ | ⟨hnone, hbuild, herrors⟩
      · refine .inl ⟨?_, herrors⟩
        have hnot := mt (rejections_eq_nil _).2 hsome
        simp only [not_forall] at hnot
        obtain ⟨answer, hmem, hnot⟩ := hnot
        exact ⟨answer, hmem, exists_error_of_not_ok (not_exists.1 hnot)⟩
      · exact .inr ⟨(rejections_eq_nil _).1 hnone, hbuild, herrors⟩
  · intro before f after
    rw [load, texts_unreadable, if_neg (by simp)]
    rfl
  · intro m _ _ disk files hdisk
    exact ofDisk_eq hdisk

/-- Files that were named and files that were found, of which those without the version are skipped:
once all the others are accepted, once three are refused, the second declaration of a table among
them; and a disk that lacks a file. -/
theorem load_all_or_nothing_mixed :
    let users : SchemaFile × String := (.named "a.json", "\x7b\"table\":\"DB.users\"\x7d")
    let skipped : SchemaFile × String := (.found "package.json", "\x7b\"name\":\"web\"\x7d")
    let orders : SchemaFile × String := (.found "orders.json",
      "\x7b\"version\":\"rt.db.v1\",\"table\":\"DB.orders\"\x7d")
    let again : SchemaFile × String := (.found "users.toml",
      "version = \"rt.db.v1\"\ntable = \"users\"")
    let files : List (SchemaFile × String) := [users, skipped, orders, again,
      (.named "b.toml", "table = \"\""), (.named "package.json", "\x7b\"name\":\"web\"\x7d")]
    let disk : Disk Id :=
      FileTree.disk (.ofFiles (files.map fun f => ([f.1.path], some f.2))) []
    (∃ c, load (readable [users, skipped, orders]) = .ok (.accepted c) ∧
      c.tables.entries.length = 2) ∧
    load (readable files) = .ok (.refused [⟨"users.toml", .duplicateTable "users"⟩,
      ⟨"b.toml", .emptyTableName⟩, ⟨"package.json", .malformed⟩]) ∧
    (ofDisk disk (files.map Prod.fst ++ [.found "c.json"])).run =
      .error (.unreadable "c.json") := by
  intro users skipped orders again files disk
  obtain ⟨hreadable, hunreadable, hdisk⟩ := load_all_or_nothing
  refine ⟨?_, ?_, ?_⟩
  · let counted := [users, skipped, orders].filter fun f => f.1.Counts f.2
    have hcounted : counted.length = 2 := by decide +kernel
    have hnone : rejections counted (Draft.empty.answers (sources counted)) = [] := by
      decide +kernel
    have hlinks : (Draft.empty.after (sources counted)).linkErrors = [] := by decide +kernel
    obtain ⟨loaded, hload, haccepted, htables, -⟩ :=
      hreadable [users, skipped, orders] (List.cons_ne_nil _ _)
    obtain ⟨c, rfl⟩ := haccepted.2 ⟨(rejections_eq_nil _).1 hnone, hlinks⟩
    exact ⟨c, hload, (htables c rfl).length_eq.symm.trans hcounted⟩
  · let counted := files.filter fun f => f.1.Counts f.2
    have herrors : rejections counted (Draft.empty.answers (sources counted)) =
        [⟨"users.toml", .duplicateTable "users"⟩, ⟨"b.toml", .emptyTableName⟩,
          ⟨"package.json", .malformed⟩] := by
      decide +kernel
    have hsome : ¬ ∀ answer ∈ Draft.empty.answers (sources counted), ∃ t, answer = .ok t := by
      rw [← rejections_eq_nil, herrors]
      simp
    obtain ⟨loaded, hload, haccepted, -, hrefused⟩ := hreadable files (List.cons_ne_nil _ _)
    rw [hload]
    cases loaded with
    | accepted c => exact absurd (haccepted.1 ⟨c, rfl⟩).1 hsome
    | refused errors =>
      rcases hrefused errors rfl with ⟨-, hsame⟩ | ⟨hnone, -⟩
      · rw [hsame, herrors]
      · exact absurd hnone hsome
  · have hread : ∀ f ∈ readable files ++ [(.found "c.json", none)],
        (disk.read f.1.path).run = f.2 := by
      decide +kernel
    exact (hdisk Id disk _ hread).trans (congrArg pure (hunreadable files (.found "c.json") []))

end Loaded

end SqlCatalog.Command
