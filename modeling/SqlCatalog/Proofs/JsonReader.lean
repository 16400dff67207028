-- SUMMARY: Readers on the documents of values: values read back, and the fields of written records.
import SqlCatalog.Proofs.JsonText

/-!
# Reading the documents of values

A document that comes from a value holds nothing a reader has to refuse: every
key and every string is there, and the members of an object are listed once. So
a value is read back if the reader may open as many brackets as the value
nests, and the fields of a record are found by looking up the members that were
written.
-/

namespace SqlCatalog

theorem Entries.find?_map {α β : Type} (f : α → β) (key : String) (es : List (String × α)) :
    find? key (es.map fun e => (e.1, f e.2)) = (find? key es).map f := by
  induction es with
  | nil => rfl
  | cons e rest ih =>
    by_cases h : e.1 = key
    · simp [find?, h]
    · simp [find?, h, ih]

/-- Inserting entries with new and distinct keys appends them. -/
theorem Entries.foldl_put {α : Type} (done es : List (String × α))
    (h : (keys (done ++ es)).Nodup) :
    es.foldl (fun es e => put e.1 e.2 es) done = done ++ es := by
  induction es generalizing done with
  | nil => simp
  | cons e rest ih =>
    have hnew : e.1 ∉ keys done := by
      intro hmem
      rw [keys, List.map_append, List.map_cons] at h
      exact (List.nodup_append.1 h).2.2 _ hmem _ List.mem_cons_self rfl
    have hput : put e.1 e.2 done = done ++ [e] := put_of_notMem hnew
    have happend : done ++ e :: rest = done ++ [e] ++ rest := by simp
    rw [List.foldl_cons, hput, happend]
    rw [happend] at h
    exact ih _ h

namespace Reader

variable {α β : Type}

/-- A list is read back if every item is. -/
theorem mapM_map {r : β → Option α} {f : α → β} {xs : List α} (h : ∀ x ∈ xs, r (f x) = some x) :
    (xs.map f).mapM r = some xs := by
  induction xs with
  | nil => rfl
  | cons x xs ih =>
    have hx := h x List.mem_cons_self
    have hxs := ih fun x hx => h x (List.mem_cons_of_mem _ hx)
    simp [List.mapM_cons, hx, hxs]

end Reader

namespace Json.Value

theorem itemDocuments_eq_map (items : List Value) : itemDocuments items = items.map document := by
  induction items with
  | nil => rfl
  | cons v rest ih => rw [itemDocuments, ih, List.map_cons]

theorem memberDocuments_eq_map (members : List (String × Value)) :
    memberDocuments members = members.map fun m => (some m.1, m.2.document) := by
  induction members with
  | nil => rfl
  | cons m rest ih => rw [memberDocuments, ih, List.map_cons]

/-! ## Well-formed values -/

mutual

/-- The keys of each object in a value. -/
def keyLists : Value → List (List String)
  | .array items => itemKeyLists items
  | .object members => Entries.keys members :: memberKeyLists members
  | _ => []

def itemKeyLists : List Value → List (List String)
  | [] => []
  | v :: rest => v.keyLists ++ itemKeyLists rest

def memberKeyLists : List (String × Value) → List (List String)
  | [] => []
  | (_, v) :: rest => v.keyLists ++ memberKeyLists rest

end

/-- No object in the value repeats a key. -/
def WellFormed (v : Value) : Prop := ∀ ks ∈ v.keyLists, ks.Nodup

instance (v : Value) : Decidable v.WellFormed :=
  inferInstanceAs (Decidable (∀ ks ∈ v.keyLists, ks.Nodup))

theorem WellFormed.item {items : List Value} (h : (Value.array items).WellFormed) {v : Value}
    (hv : v ∈ items) : v.WellFormed := by
  induction items with
  | nil => cases hv
  | cons w items ih =>
    rw [WellFormed, keyLists, itemKeyLists, List.forall_mem_append] at h
    rcases List.mem_cons.1 hv with rfl | hrest
    · exact h.1
    · exact ih h.2 hrest

theorem WellFormed.nodup_keys {members : List (String × Value)}
    (h : (Value.object members).WellFormed) : (Entries.keys members).Nodup :=
  h _ List.mem_cons_self

theorem WellFormed.member {members : List (String × Value)}
    (h : (Value.object members).WellFormed) {key : String} {v : Value} (hv : (key, v) ∈ members) :
    v.WellFormed := by
  have hall : ∀ ks ∈ memberKeyLists members, ks.Nodup :=
    fun ks hks => h ks (List.mem_cons_of_mem _ hks)
  clear h
  induction members with
  | nil => cases hv
  | cons w members ih =>
    rw [memberKeyLists, List.forall_mem_append] at hall
    rcases List.mem_cons.1 hv with rfl | hrest
    · exact hall.1
    · exact ih hrest hall.2

/-! ## Nesting -/

mutual

/-- How many brackets are open at the deepest place of a value's text. -/
def nesting : Value → Nat
  | .array items => itemNesting items + 1
  | .object members => memberNesting members + 1
  | _ => 0

def itemNesting : List Value → Nat
  | [] => 0
  | v :: rest => max v.nesting (itemNesting rest)

def memberNesting : List (String × Value) → Nat
  | [] => 0
  | (_, v) :: rest => max v.nesting (memberNesting rest)

end

theorem nesting_item_lt {items : List Value} {v : Value} (hv : v ∈ items) :
    v.nesting < (Value.array items).nesting := by
  rw [nesting, Nat.lt_succ_iff]
  induction items with
  | nil => cases hv
  | cons w items ih =>
    rw [itemNesting]
    rcases List.mem_cons.1 hv with rfl | hrest
    · exact Nat.le_max_left _ _
    · exact Nat.le_trans (ih hrest) (Nat.le_max_right _ _)

theorem nesting_member_lt {members : List (String × Value)} {key : String} {v : Value}
    (hv : (key, v) ∈ members) : v.nesting < (Value.object members).nesting := by
  rw [nesting, Nat.lt_succ_iff]
  induction members with
  | nil => cases hv
  | cons w members ih =>
    rw [memberNesting]
    rcases List.mem_cons.1 hv with rfl | hrest
    · exact Nat.le_max_left _ _
    · exact Nat.le_trans (ih hrest) (Nat.le_max_right _ _)

/-! ## Reading back -/

/-- A value is read back by a reader that may open as many brackets as the value nests. -/
theorem read_document {budget : Nat} {v : Value} (hv : v.WellFormed) (hnest : v.nesting ≤ budget) :
    read budget v.document = some v := by
  -- Every bracket takes one from the budget, so the induction needs nothing from the value's shape.
  induction budget generalizing v with
  | zero =>
    cases v with
    | array items => simp [nesting] at hnest
    | object members => simp [nesting] at hnest
    | _ => rfl
  | succ budget ih =>
    cases v with
    | array items =>
      have hitems : (items.map document).mapM (read budget) = some items := by
        apply Reader.mapM_map
        intro v hmem
        have hlt := nesting_item_lt hmem
        exact ih (hv.item hmem) (by omega)
      rw [document, itemDocuments_eq_map, read, hitems, Option.map_some]
    | object members =>
      have hmembers : (members.map fun m => (some m.1, m.2.document)).mapM
          (Reader.member (read budget)) = some members := by
        apply Reader.mapM_map
        intro (key, v) hmem
        have hlt := nesting_member_lt hmem
        rw [Reader.member, ih (hv.member hmem) (by omega), Option.map_some]
      have hput := Entries.foldl_put [] members hv.nodup_keys
      rw [document, memberDocuments_eq_map, read, hmembers, Option.map_some, hput, List.nil_append]
    | _ => rfl

end Json.Value

/-! ## Records -/

namespace Reader

open Json

variable {α : Type}

/-- The fields of a record that was written as an object with the given members. -/
def Fields.ofMembers (members : List (String × Value)) : Fields :=
  ⟨false, members.map fun m => (m.1, m.2.document)⟩

theorem namedFields_memberDocuments {names : List String} {members : List (String × Value)}
    (hnodup : (Entries.keys members).Nodup) (hnames : Entries.keys members ⊆ names) :
    namedFields names (Value.memberDocuments members) =
      some (members.map fun m => (m.1, m.2.document)) := by
  induction members with
  | nil => rfl
  | cons m rest ih =>
    rw [Entries.keys, List.map_cons, List.nodup_cons] at hnodup
    rw [Entries.keys, List.map_cons, List.cons_subset] at hnames
    have hnew : m.1 ∉ Entries.keys (rest.map fun m => (m.1, m.2.document)) := by
      simpa [Entries.keys, Function.comp_def] using hnodup.1
    rw [Value.memberDocuments, namedFields, ih hnodup.2 hnames.2]
    simp [hnames.1, hnew]

theorem record_object {names : List String} {members : List (String × Value)}
    (hnodup : (Entries.keys members).Nodup) (hnames : Entries.keys members ⊆ names)
    (body : Nat → Fields → Option α) (budget : Nat) :
    record names body (budget + 1) (Value.object members).document =
      body budget (.ofMembers members) := by
  rw [record, inside, Value.document, fields, namedFields_memberDocuments hnodup hnames]
  rfl

namespace Fields

theorem required_ofMembers (members : List (String × Value)) (name : String)
    (r : Document → Option α) :
    (ofMembers members).required name r =
      (Entries.find? name members).bind fun v => r v.document := by
  rw [required, ofMembers, Entries.find?_map, Option.bind_map]
  rfl

theorem orElse_ofMembers (members : List (String × Value)) (name : String) (default : α)
    (r : Document → Option α) :
    (ofMembers members).orElse name default r =
      ((Entries.find? name members).map fun v => r v.document).getD (some default) := by
  rw [orElse, ofMembers, Entries.find?_map]
  cases Entries.find? name members with
  | none => rfl
  | some v => rfl

end Fields

/-! ## Lists and keywords -/

theorem list_document {r : Reader α} {budget : Nat} {f : α → Value} {xs : List α}
    (h : ∀ x ∈ xs, r budget (f x).document = some x) :
    list r (budget + 1) (Value.array (xs.map f)).document = some xs := by
  rw [Value.document, Value.itemDocuments_eq_map, List.map_map]
  exact mapM_map h

theorem keyword_string (words : List (String × α)) (budget : Nat) (word : String) :
    keyword words budget (Value.string word).document = Entries.find? word words := by
  cases budget with
  | zero => rfl
  | succ budget => rfl

end Reader

end SqlCatalog
