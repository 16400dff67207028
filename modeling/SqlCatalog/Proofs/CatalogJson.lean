-- SUMMARY: Written catalogs are read back, from the compact and from the indented text.
import SqlCatalog.Command.Report
import SqlCatalog.Proofs.JsonIndented
import SqlCatalog.Proofs.QueryJson

/-!
# Catalogs read back from their text

A catalog of any content is the answer to reading its own text: every map comes
back with its entries in order, whether or not the keys are the names of what
they hold, and every set, type, number and missing link comes back as it was.
The text nests seven brackets at most, far fewer than may be open.
-/

namespace SqlCatalog

open Json

/-! ## Dictionaries and sets -/

namespace Dict

variable {α : Type}

theorem ext {d d' : Dict α} (h : d.entries = d'.entries) : d = d' := by
  cases d
  cases d'
  cases h
  rfl

theorem entries_foldl_insert (es : List (String × α)) (d : Dict α) :
    (es.foldl (fun d e => d.insert e.1 e.2) d).entries =
      es.foldl (fun es e => Entries.put e.1 e.2 es) d.entries := by
  induction es generalizing d with
  | nil => rfl
  | cons e rest ih => exact ih (d.insert e.1 e.2)

/-- A dictionary is made again from its entries. -/
theorem ofList_entries (d : Dict α) : ofList d.entries = d := by
  apply ext
  rw [ofList, entries_foldl_insert]
  exact Entries.foldl_put [] d.entries d.distinct

end Dict

theorem OperatorSet.ofList_members (s : OperatorSet) : ofList s.members = s := by
  obtain ⟨members, canonical⟩ := s
  simp only [ofList, canonical]

/-! ## Readers -/

namespace Reader

variable {α : Type}

/-- A dictionary is read back if every value in it is. -/
theorem dict_document {r : Reader α} {budget : Nat} {f : α → Value} (d : Dict α)
    (h : ∀ x, r budget (f x).document = some x) :
    dict r (budget + 1) (Value.ofDict f d).document = some d := by
  have hmembers : ((d.entries.map fun e => (e.1, f e.2)).map fun m =>
      (some m.1, m.2.document)).mapM (member (r budget)) = some d.entries := by
    rw [List.map_map]
    apply mapM_map
    intro e _
    simp [member, h]
  rw [Value.ofDict, Value.document, Value.memberDocuments_eq_map, dict, inside]
  simp only [hmembers, Option.map_some, d.ofList_entries]

@[simp] theorem string_document (budget : Nat) (text : String) :
    string budget (Value.string text).document = some text := rfl

@[simp] theorem bool_document (budget : Nat) (b : Bool) :
    bool budget (Value.bool b).document = some b := rfl

@[simp] theorem int64_document (budget : Nat) (x : Int64) :
    int64 budget (Value.number (.ofInt64 x)).document = some x := by
  have hlow := Int64.le_toInt x
  have hhigh := Int64.toInt_lt x
  rw [Value.document, Number.ofInt64, int64, if_pos ⟨hlow, hhigh⟩, Int64.ofInt_toInt]

@[simp] theorem optional_document (budget budget' : Nat) (text : Option String) :
    optional (fun _ => string budget) budget' (Value.optional text).document = some text := by
  cases text with
  | none => rfl
  | some text => rfl

theorem Fields.optional_ofMembers (members : List (String × Value)) (name : String)
    (r : Document → Option α) :
    (ofMembers members).optional name r =
      ((Entries.find? name members).map fun v =>
        Reader.optional (fun _ => r) 0 v.document).getD (some none) := by
  rw [Fields.optional, ofMembers, Entries.find?_map]
  cases Entries.find? name members with
  | none => rfl
  | some v => cases v <;> rfl

end Reader

theorem ColumnType.find?_names (t : ColumnType) :
    Entries.find? t.name ColumnType.names = some t := by
  cases t <;> decide

/-! ## Reading back -/

theorem Column.read_toJson (c : Column) (budget : Nat) :
    Column.read (budget + 2) c.toJson.document = some c := by
  have hoperators : Reader.list (Reader.keyword Operator.symbols) (budget + 1)
      (Value.strings (c.queryable.members.map Operator.symbol)).document =
        some c.queryable.members := by
    rw [Value.strings, List.map_map]
    apply Reader.list_document
    intro op _
    exact (Reader.keyword_string _ _ _).trans op.find?_symbols
  rw [Column.read, Column.toJson,
    Reader.record_object (by simp [Entries.keys]) (by simp [Entries.keys, fieldNames])]
  simp [Reader.Fields.required_ofMembers, Reader.Fields.optional_ofMembers, Entries.find?,
    Reader.keyword_string, ColumnType.find?_names, hoperators, OperatorSet.ofList_members]

theorem ViewColumn.read_toJson (c : ViewColumn) (budget : Nat) :
    ViewColumn.read (budget + 1) c.toJson.document = some c := by
  rw [ViewColumn.read, ViewColumn.toJson,
    Reader.record_object (by simp [Entries.keys]) (by simp [Entries.keys])]
  simp [Reader.Fields.required_ofMembers, Reader.Fields.optional_ofMembers, Entries.find?]

theorem View.read_toJson (v : View) (budget : Nat) :
    View.read (budget + 3) v.toJson.document = some v := by
  have hcolumns : Reader.list ViewColumn.read (budget + 2)
      (Value.array (v.columns.map ViewColumn.toJson)).document = some v.columns := by
    apply Reader.list_document
    intro c _
    exact c.read_toJson budget
  rw [View.read, View.toJson,
    Reader.record_object (by simp [Entries.keys]) (by simp [Entries.keys, fieldNames])]
  simp [Reader.Fields.required_ofMembers, Entries.find?, hcolumns]

theorem Table.read_toJson (t : Table) (budget : Nat) :
    Table.read (budget + 5) t.toJson.document = some t := by
  have hcolumns := Reader.dict_document t.columns fun c => c.read_toJson (budget + 1)
  have hviews := Reader.dict_document t.views fun v => v.read_toJson budget
  rw [Table.read, Table.toJson,
    Reader.record_object (by simp [Entries.keys]) (by simp [Entries.keys])]
  simp [Reader.Fields.required_ofMembers, Entries.find?, hcolumns, hviews]

theorem Catalog.read_toJson (c : Catalog) (budget : Nat) :
    Catalog.read (budget + 7) c.toJson.document = some c := by
  have htables := Reader.dict_document c.tables fun t => t.read_toJson budget
  rw [Catalog.read, Catalog.toJson,
    Reader.record_object (by simp [Entries.keys]) (by simp [Entries.keys])]
  simp [Reader.Fields.required_ofMembers, Entries.find?, htables]

/-! ## Numbers of a written catalog -/

namespace Json.Value

/-- No number in the value is a floating-point number. -/
def Whole (v : Value) : Prop := ∀ n ∈ v.numbers, n.isInt = true

theorem whole_array {items : List Value} (h : ∀ v ∈ items, v.Whole) : (array items).Whole := by
  induction items with
  | nil => intro n hn; cases hn
  | cons v rest ih =>
    obtain ⟨hfirst, hrest⟩ := List.forall_mem_cons.1 h
    rw [Whole, numbers, itemNumbers, List.forall_mem_append]
    exact ⟨hfirst, ih hrest⟩

theorem whole_object {members : List (String × Value)} (h : ∀ m ∈ members, m.2.Whole) :
    (object members).Whole := by
  induction members with
  | nil => intro n hn; cases hn
  | cons m rest ih =>
    obtain ⟨hfirst, hrest⟩ := List.forall_mem_cons.1 h
    rw [Whole, numbers, memberNumbers, List.forall_mem_append]
    exact ⟨hfirst, ih hrest⟩

theorem whole_ofDict {α : Type} {f : α → Value} (d : Dict α) (h : ∀ x, (f x).Whole) :
    (ofDict f d).Whole := by
  apply whole_object
  rw [List.forall_mem_map]
  intro e _
  exact h e.2

@[simp] theorem whole_string (text : String) : (string text).Whole := by
  intro n hn
  cases hn

@[simp] theorem whole_bool (b : Bool) : (bool b).Whole := by
  intro n hn
  cases hn

@[simp] theorem whole_optional (text : Option String) : (optional text).Whole := by
  cases text <;> (intro n hn; cases hn)

@[simp] theorem whole_strings (texts : List String) : (strings texts).Whole := by
  apply whole_array
  simp

@[simp] theorem whole_ofInt64 (x : Int64) : (number (.ofInt64 x)).Whole := by
  intro n hn
  obtain rfl := List.mem_singleton.1 hn
  rfl

end Json.Value

open Json.Value (whole_object whole_array whole_ofDict)

theorem Column.whole_toJson (c : Column) : c.toJson.Whole := by
  apply whole_object
  simp

theorem ViewColumn.whole_toJson (c : ViewColumn) : c.toJson.Whole := by
  apply whole_object
  simp

theorem View.whole_toJson (v : View) : v.toJson.Whole := by
  have hcolumns : (Value.array (v.columns.map ViewColumn.toJson)).Whole := by
    apply whole_array
    rw [List.forall_mem_map]
    intro c _
    exact c.whole_toJson
  apply whole_object
  simp [hcolumns]

theorem Table.whole_toJson (t : Table) : t.toJson.Whole := by
  have hcolumns := whole_ofDict t.columns Column.whole_toJson
  have hviews := whole_ofDict t.views View.whole_toJson
  apply whole_object
  simp [hcolumns, hviews]

theorem Catalog.whole_toJson (c : Catalog) : c.toJson.Whole := by
  have htables := whole_ofDict c.tables Table.whole_toJson
  apply whole_object
  simp [htables]

/-! ## The round trip -/

/-- A catalog is the answer to reading its text, the compact one as well as the one that is shown.
So nothing that is looked up, checked, compiled or planned can tell the two apart. -/
theorem Catalog.ofJson?_written (c : Catalog) :
    Catalog.ofJson? c.toJson.render = some c ∧
      Catalog.ofJson? (Command.catalogReport .json c) = some c := by
  -- Of the brackets that may be open, a catalog needs seven.
  have hread : Catalog.read Reader.maxNesting c.toJson.document = some c := c.read_toJson 120
  constructor
  · rw [Catalog.ofJson?, Document.ofJson?_render c.whole_toJson, Option.bind_some, hread]
  · rw [Command.catalogReport, Command.ofJson, Catalog.ofJson?,
      Document.ofJson?_pretty c.whole_toJson, Option.bind_some, hread]

end SqlCatalog
