-- SUMMARY: Ordered dictionaries: string keys in order of first insertion, each key once.

/-!
# Dictionaries

A dictionary lists its entries in the order in which their keys were first
inserted, and never holds a key twice. Inserting under a present key replaces
the value and keeps the key's place.
-/

namespace SqlCatalog

/-! ## Entry lists -/

namespace Entries

variable {α β : Type}

def keys (es : List (String × α)) : List String := es.map Prod.fst

/-- Replace the value of the first entry for `key`, or append a new entry. -/
def put (key : String) (value : α) : List (String × α) → List (String × α)
  | [] => [(key, value)]
  | (k, v) :: rest => if k = key then (key, value) :: rest else (k, v) :: put key value rest

def find? (key : String) : List (String × α) → Option α
  | [] => none
  | (k, v) :: rest => if k = key then some v else find? key rest

def remove (key : String) : List (String × α) → List (String × α)
  | [] => []
  | (k, v) :: rest => if k = key then rest else (k, v) :: remove key rest

theorem mem_keys_put {key k : String} {value : α} {es : List (String × α)} :
    k ∈ keys (put key value es) ↔ k = key ∨ k ∈ keys es := by
  induction es with
  | nil => simp [put, keys]
  | cons e rest ih =>
    obtain ⟨k', v'⟩ := e
    by_cases h : k' = key
    · simp [put, keys, h]
    · simp only [put, h, if_false, keys, List.map_cons, List.mem_cons] at ih ⊢
      rw [ih]
      grind

theorem nodup_keys_put {key : String} {value : α} {es : List (String × α)}
    (h : (keys es).Nodup) : (keys (put key value es)).Nodup := by
  induction es with
  | nil => simp [put, keys]
  | cons e rest ih =>
    obtain ⟨k', v'⟩ := e
    simp only [keys, List.map_cons, List.nodup_cons] at h
    by_cases hk : k' = key
    · subst hk
      simpa [put, keys] using h
    · simp only [put, hk, if_false, keys, List.map_cons, List.nodup_cons]
      refine ⟨fun hmem => ?_, ih h.2⟩
      rcases mem_keys_put.1 hmem with heq | hrest
      · exact hk heq
      · exact h.1 hrest

theorem find?_put {key k : String} {value : α} {es : List (String × α)} :
    find? k (put key value es) = if k = key then some value else find? k es := by
  induction es with
  | nil => grind [put, find?]
  | cons e rest ih => grind [put, find?]

theorem put_of_notMem {key : String} {value : α} {es : List (String × α)} (h : key ∉ keys es) :
    put key value es = es ++ [(key, value)] := by
  induction es with
  | nil => rfl
  | cons e rest ih =>
    obtain ⟨k, v⟩ := e
    simp only [keys, List.map_cons, List.mem_cons, not_or] at h
    have hne : ¬ k = key := fun heq => h.1 heq.symm
    simp [put, hne, ih h.2]

/-- Where keys are distinct, looking up finds every entry. -/
theorem mem_iff_find? {key : String} {value : α} {es : List (String × α)}
    (h : (keys es).Nodup) : (key, value) ∈ es ↔ find? key es = some value := by
  induction es with
  | nil => simp [find?]
  | cons e rest ih =>
    obtain ⟨k, v⟩ := e
    simp only [keys, List.map_cons, List.nodup_cons] at h
    by_cases hk : k = key
    · subst hk
      have hnot : (k, value) ∉ rest := fun hmem => h.1 (List.mem_map_of_mem hmem)
      simp [find?, hnot, eq_comm]
    · have hne : ¬ key = k := fun heq => hk heq.symm
      simp [find?, hk, hne, ih h.2]

end Entries

/-! ## Dictionaries -/

structure Dict (α : Type) where
  entries : List (String × α)
  distinct : (Entries.keys entries).Nodup
deriving DecidableEq

namespace Dict

variable {α β : Type}

def empty : Dict α := ⟨[], List.nodup_nil⟩

instance : Inhabited (Dict α) := ⟨empty⟩

def insert (d : Dict α) (key : String) (value : α) : Dict α :=
  ⟨Entries.put key value d.entries, Entries.nodup_keys_put d.distinct⟩

/-- Insert the entries in order: a later value wins, an earlier place stays. -/
def ofList (es : List (String × α)) : Dict α :=
  es.foldl (fun d e => d.insert e.1 e.2) empty

/-- Make a value from each of the sources, in order, and insert it under the same key; the first
source without a value ends the work. -/
def collect {ε : Type} (make : String → β → Except ε α) (d : Dict α) :
    List (String × β) → Except ε (Dict α)
  | [] => .ok d
  | (key, source) :: rest => do
    let value ← make key source
    collect make (d.insert key value) rest

def find? (d : Dict α) (key : String) : Option α := Entries.find? key d.entries

def contains (d : Dict α) (key : String) : Bool := (d.find? key).isSome

def keys (d : Dict α) : List String := Entries.keys d.entries

def values (d : Dict α) : List α := d.entries.map Prod.snd

@[simp] theorem find?_empty (key : String) : (empty : Dict α).find? key = none := rfl

@[simp] theorem find?_insert (d : Dict α) (key k : String) (value : α) :
    (d.insert key value).find? k = if k = key then some value else d.find? k :=
  Entries.find?_put

@[simp] theorem mem_keys_insert (d : Dict α) (key k : String) (value : α) :
    k ∈ (d.insert key value).keys ↔ k = key ∨ k ∈ d.keys :=
  Entries.mem_keys_put

theorem entries_insert {d : Dict α} {key : String} (h : key ∉ d.keys) (value : α) :
    (d.insert key value).entries = d.entries ++ [(key, value)] :=
  Entries.put_of_notMem h

theorem mem_entries {d : Dict α} {key : String} {value : α} :
    (key, value) ∈ d.entries ↔ d.find? key = some value :=
  Entries.mem_iff_find? d.distinct

theorem mem_values {d : Dict α} {value : α} :
    value ∈ d.values ↔ ∃ key, d.find? key = some value := by
  simp only [values, List.mem_map, Prod.exists, mem_entries]
  simp

theorem mem_keys {d : Dict α} {key : String} :
    key ∈ d.keys ↔ ∃ value, d.find? key = some value := by
  simp only [keys, Entries.keys, List.mem_map, Prod.exists, mem_entries]
  simp

@[simp] theorem contains_iff {d : Dict α} {key : String} : d.contains key = true ↔ key ∈ d.keys := by
  rw [mem_keys, contains, Option.isSome_iff_exists]

end Dict

end SqlCatalog
