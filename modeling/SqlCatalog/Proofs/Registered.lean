-- SUMMARY: Declarations handed to a draft one after the other: what is answered, what is registered.
import SqlCatalog.Proofs.Built

/-!
# Registered tables

A draft is handed declarations one after the other, as texts or already read. It
answers each with the table it became or with the reason it was refused for. A
refused declaration leaves no trace: in the end the draft holds the tables of the
accepted ones, under their names and in the order in which they came.
-/

namespace SqlCatalog

/-- A declaration as a draft is handed it. -/
inductive Source where
  | json (text : String)
  | toml (text : String)
  | read (d : Declaration)

def Source.declaration? : Source → Option Declaration
  | .json text => Declaration.ofJson? text
  | .toml text => Declaration.ofToml? text
  | .read d => some d

namespace Draft

/-- Hand a source to the draft in the way its form asks for. -/
def submit (draft : Draft) : Source → Except SchemaError (Table × Draft)
  | .json text => draft.addJson text
  | .toml text => draft.addToml text
  | .read d => draft.add d

/-- The table that a source became, or why it was refused. -/
def answer (draft : Draft) (s : Source) : Except SchemaError Table :=
  (draft.submit s).map Prod.fst

/-- The draft that is left when the source was answered. -/
def next (draft : Draft) (s : Source) : Draft :=
  match draft.submit s with
  | .ok (_, grown) => grown
  | .error _ => draft

def answers : Draft → List Source → List (Except SchemaError Table)
  | _, [] => []
  | draft, s :: rest => draft.answer s :: answers (draft.next s) rest

def after (draft : Draft) (sources : List Source) : Draft := sources.foldl next draft

/-- The tables of the sources that were not refused. -/
def accepted (draft : Draft) (sources : List Source) : List Table :=
  (draft.answers sources).filterMap Except.toOption

/-- The declarations of the sources that were not refused. -/
def declared : Draft → List Source → List Declaration
  | _, [] => []
  | draft, s :: rest =>
    match draft.answer s with
    | .ok _ => s.declaration?.toList ++ (draft.next s).declared rest
    | .error _ => (draft.next s).declared rest

/-! ## One source -/

theorem add_of_error {draft : Draft} {d : Declaration} {error : SchemaError}
    (h : d.build = .error error) : draft.add d = .error error := by
  rw [add, h]
  rfl

theorem add_of_mem {draft : Draft} {d : Declaration} {t : Table} (h : d.build = .ok t)
    (hmem : t.name ∈ draft.tables.keys) : draft.add d = .error (.duplicateTable t.name) := by
  rw [add, h]
  exact if_pos (Dict.contains_iff.2 hmem)

theorem add_of_notMem {draft : Draft} {d : Declaration} {t : Table} (h : d.build = .ok t)
    (hnot : t.name ∉ draft.tables.keys) :
    draft.add d = .ok (t, ⟨draft.tables.insert t.name t⟩) := by
  rw [add, h]
  exact if_neg (fun hcontains => hnot (Dict.contains_iff.1 hcontains))

theorem submit_eq (draft : Draft) (s : Source) :
    draft.submit s = draft.addRead s.declaration? := by
  cases s <;> rfl

theorem step_of_error {draft : Draft} {s : Source} {error : SchemaError}
    (h : draft.submit s = .error error) : draft.answer s = .error error ∧ draft.next s = draft := by
  simp [answer, next, h, Except.map]

theorem step_of_ok {draft grown : Draft} {s : Source} {t : Table}
    (h : draft.submit s = .ok (t, grown)) : draft.answer s = .ok t ∧ draft.next s = grown := by
  simp [answer, next, h, Except.map]

/-- A source is refused and changes nothing, or its table is new and becomes the last one. -/
theorem step_cases (draft : Draft) (s : Source) :
    (∃ error, draft.answer s = .error error ∧ draft.next s = draft) ∨
      ∃ d t, s.declaration? = some d ∧ d.build = .ok t ∧ draft.answer s = .ok t ∧
        (draft.next s).tables.entries = draft.tables.entries ++ [(t.name, t)] := by
  have hsubmit := draft.submit_eq s
  cases hread : s.declaration? with
  | none =>
    rw [hread] at hsubmit
    exact .inl ⟨_, step_of_error hsubmit⟩
  | some d =>
    rw [hread, addRead] at hsubmit
    cases hbuild : d.build with
    | error error =>
      rw [add_of_error hbuild] at hsubmit
      exact .inl ⟨error, step_of_error hsubmit⟩
    | ok t =>
      by_cases hmem : t.name ∈ draft.tables.keys
      · rw [add_of_mem hbuild hmem] at hsubmit
        exact .inl ⟨_, step_of_error hsubmit⟩
      · rw [add_of_notMem hbuild hmem] at hsubmit
        obtain ⟨hanswer, hnext⟩ := step_of_ok hsubmit
        refine .inr ⟨d, t, rfl, hbuild, hanswer, ?_⟩
        rw [hnext]
        exact Dict.entries_insert hmem t

/-- A declaration under a new name is answered with what it builds. -/
theorem answer_read {draft : Draft} {d : Declaration} (hnew : d.tableName ∉ draft.tables.keys) :
    draft.answer (.read d) = d.build := by
  cases hbuild : d.build with
  | error error => exact (step_of_error (s := .read d) (add_of_error hbuild)).1
  | ok t =>
    obtain ⟨-, -, hname, -⟩ := Declaration.build_eq_ok.1 hbuild
    rw [← hname] at hnew
    exact (step_of_ok (s := .read d) (add_of_notMem hbuild hnew)).1

/-! ## Many sources -/

@[simp] theorem after_nil (draft : Draft) : draft.after [] = draft := rfl

@[simp] theorem after_cons (draft : Draft) (s : Source) (rest : List Source) :
    draft.after (s :: rest) = (draft.next s).after rest := rfl

theorem length_answers (draft : Draft) (sources : List Source) :
    (draft.answers sources).length = sources.length := by
  induction sources generalizing draft with
  | nil => rfl
  | cons s rest ih => rw [answers, List.length_cons, ih, List.length_cons]

theorem accepted_of_error {draft : Draft} {s : Source} {error : SchemaError}
    (h : draft.answer s = .error error) (rest : List Source) :
    draft.accepted (s :: rest) = (draft.next s).accepted rest := by
  rw [accepted, answers, h]
  rfl

theorem accepted_of_ok {draft : Draft} {s : Source} {t : Table} (h : draft.answer s = .ok t)
    (rest : List Source) : draft.accepted (s :: rest) = t :: (draft.next s).accepted rest := by
  rw [accepted, answers, h]
  rfl

/-- A draft grows by the accepted tables, in order. -/
theorem entries_after (draft : Draft) (sources : List Source) :
    (draft.after sources).tables.entries =
      draft.tables.entries ++ (draft.accepted sources).map fun t => (t.name, t) := by
  induction sources generalizing draft with
  | nil => simp [accepted, answers]
  | cons s rest ih =>
    rw [after_cons, ih]
    rcases draft.step_cases s with ⟨error, hanswer, hnext⟩ | ⟨d, t, -, -, hanswer, hentries⟩
    · rw [accepted_of_error hanswer, hnext]
    · simp [accepted_of_ok hanswer, hentries]

/-- From nothing, a draft comes to hold the accepted tables and no other. -/
theorem entries_after_empty (sources : List Source) :
    (Draft.empty.after sources).tables.entries =
      (Draft.empty.accepted sources).map fun t => (t.name, t) :=
  Draft.empty.entries_after sources

theorem values_after_empty (sources : List Source) :
    (Draft.empty.after sources).tables.values = Draft.empty.accepted sources := by
  rw [Dict.values, entries_after_empty, List.map_map]
  exact List.map_id _

/-- Every accepted table was built from the declaration that was accepted for it. -/
theorem forall₂_declared (draft : Draft) (sources : List Source) :
    List.Forall₂ (fun d t => d.build = .ok t) (draft.declared sources) (draft.accepted sources) := by
  induction sources generalizing draft with
  | nil => exact .nil
  | cons s rest ih =>
    rcases draft.step_cases s with ⟨error, hanswer, -⟩ | ⟨d, t, hread, hbuild, hanswer, -⟩
    · rw [accepted_of_error hanswer, declared, hanswer]
      exact ih (draft.next s)
    · rw [accepted_of_ok hanswer, declared, hanswer, hread]
      exact .cons hbuild (ih (draft.next s))

theorem tableName_declared (draft : Draft) (sources : List Source) :
    (draft.declared sources).map Declaration.tableName =
      (draft.accepted sources).map Table.name := by
  rw [← List.forall₂_eq_eq_eq, List.forall₂_map_left_iff, List.forall₂_map_right_iff]
  refine (draft.forall₂_declared sources).imp ?_
  intro d t hbuild
  obtain ⟨-, -, hname, -⟩ := Declaration.build_eq_ok.1 hbuild
  exact hname.symm

/-- No two accepted declarations are of the same table. -/
theorem nodup_declared (sources : List Source) :
    ((Draft.empty.declared sources).map Declaration.tableName).Nodup := by
  have hdistinct := (Draft.empty.after sources).tables.distinct
  rw [entries_after_empty, Entries.keys, List.map_map] at hdistinct
  rw [tableName_declared]
  exact hdistinct

/-- A registered table stands under its name and was built from an accepted declaration. -/
theorem built_of_find? {sources : List Source} {key : String} {t : Table}
    (h : (Draft.empty.after sources).tables.find? key = some t) :
    key = t.name ∧ ∃ d ∈ Draft.empty.declared sources, d.build = .ok t := by
  rw [← Dict.mem_entries, entries_after_empty] at h
  obtain ⟨t', hmem, heq⟩ := List.mem_map.1 h
  cases heq
  exact ⟨rfl, exists_of_forall₂ (Draft.empty.forall₂_declared sources) hmem⟩

/-! ## Catalogs -/

theorem build_eq_ok {draft : Draft} {c : Catalog} :
    draft.build = .ok c ↔ draft.linkErrors = [] ∧ c = ⟨draft.tables⟩ := by
  unfold build
  split
  · rename_i hnone
    simp [hnone, eq_comm]
  · rename_i hsome
    constructor
    · intro h
      cases h
    · rintro ⟨hnone, -⟩
      exact absurd hnone hsome

theorem build_eq_error {draft : Draft} {errors : List SchemaError} :
    draft.build = .error errors ↔ draft.linkErrors = errors ∧ errors ≠ [] := by
  unfold build
  split
  · rename_i hnone
    simp [hnone, eq_comm]
  · rename_i hsome
    constructor
    · rintro ⟨⟩
      exact ⟨rfl, hsome⟩
    · rintro ⟨rfl, -⟩
      rfl

end Draft

end SqlCatalog
