import FlowGate.Json.Basic
import FlowGate.Table

/-!
# JSON values

A `Value` is a document in normal form: the members of every object stand in strictly ascending
order of their names and every part is representable, so equal values are equal documents.
`Json.toValue?` brings a document into this form, the last of several members with one name
counting, and `toValue?_json` says that it leaves a value as it is.
-/

namespace FlowGate

namespace Json

mutual
/-- `IsNormal json` says `json` is in normal form. -/
def IsNormal : Json → Prop
  | .array items => ItemsNormal items
  | .object fields =>
      fields.Pairwise (fun earlier later ↦ earlier.1 < later.1) ∧ FieldsNormal fields
  | .unrepresentable => False
  | .null => True
  | .bool _ => True
  | .number _ => True
  | .string _ => True

/-- Every item is in normal form. -/
def ItemsNormal : List Json → Prop
  | [] => True
  | item :: rest => IsNormal item ∧ ItemsNormal rest

/-- The value of every member is in normal form. -/
def FieldsNormal : List (String × Json) → Prop
  | [] => True
  | (_, value) :: rest => IsNormal value ∧ FieldsNormal rest
end

theorem itemsNormal_iff (items : List Json) :
    ItemsNormal items ↔ ∀ item ∈ items, IsNormal item := by
  induction items with
  | nil => simp [ItemsNormal]
  | cons item rest ih => simp [ItemsNormal, ih]

theorem fieldsNormal_iff (fields : List (String × Json)) :
    FieldsNormal fields ↔ ∀ field ∈ fields, IsNormal field.2 := by
  induction fields with
  | nil => simp [FieldsNormal]
  | cons field rest ih => simp [FieldsNormal, ih]

end Json

/-- A document in normal form. -/
@[ext]
structure Value where
  /-- The document. -/
  json : Json
  /-- The document is in normal form. -/
  normal : json.IsNormal

namespace Value

/-- The value null. -/
def null : Value := ⟨.null, by simp [Json.IsNormal]⟩

/-- A truth value. -/
def bool (value : Bool) : Value := ⟨.bool value, by simp [Json.IsNormal]⟩

/-- A number. -/
def number (value : Number) : Value := ⟨.number value, by simp [Json.IsNormal]⟩

/-- A string. -/
def string (value : String) : Value := ⟨.string value, by simp [Json.IsNormal]⟩

/-- An array of values. -/
def array (items : List Value) : Value where
  json := .array (items.map (·.json))
  normal := by
    rw [Json.IsNormal, Json.itemsNormal_iff]
    intro item hitem
    obtain ⟨value, _, rfl⟩ := List.mem_map.1 hitem
    exact value.normal

/-- An object with the entries of a table. -/
def object (fields : Table Value) : Value where
  json := .object (fields.entries.map fun field ↦ (field.1, field.2.json))
  normal := by
    rw [Json.IsNormal, Json.fieldsNormal_iff]
    refine ⟨fields.ascending.map _ fun _ _ h ↦ h, ?_⟩
    intro field hfield
    obtain ⟨entry, _, rfl⟩ := List.mem_map.1 hfield
    exact entry.2.normal

instance : Inhabited Value := ⟨null⟩

/-- Whether a value is null. -/
def isNull (value : Value) : Bool := value.json.isNull

/-- The object whose members are texts. -/
def ofTexts (texts : Table String) : Value := object (texts.map string)

end Value

namespace Json

mutual
/-- The normal form of a document, or `none` when a part is not representable. -/
def toValue? : Json → Option Value
  | .null => some .null
  | .bool value => some (.bool value)
  | .number value => some (.number value)
  | .string value => some (.string value)
  | .array items => (itemValues? items).map .array
  | .object fields => (fieldValues? fields).map fun entries ↦ .object (.ofList entries)
  | .unrepresentable => none

/-- The normal forms of a list of documents. -/
def itemValues? : List Json → Option (List Value)
  | [] => some []
  | item :: rest => do
      let value ← toValue? item
      let values ← itemValues? rest
      return value :: values

/-- The members of an object with their values in normal form. -/
def fieldValues? : List (String × Json) → Option (List (String × Value))
  | [] => some []
  | (name, json) :: rest => do
      let value ← toValue? json
      let values ← fieldValues? rest
      return (name, value) :: values
end

mutual
theorem toValue?_of_isNormal (json : Json) (h : json.IsNormal) :
    ∃ value, json.toValue? = some value ∧ value.json = json := by
  match json with
  | .null | .bool _ | .number _ | .string _ => exact ⟨_, rfl, rfl⟩
  | .unrepresentable => simp [IsNormal] at h
  | .array items =>
      rw [IsNormal] at h
      obtain ⟨values, hvalues, hitems⟩ := itemValues?_of_itemsNormal items h
      exact ⟨.array values, by simp [toValue?, hvalues], by simp [Value.array, hitems]⟩
  | .object fields =>
      rw [IsNormal] at h
      obtain ⟨values, hvalues, hfields⟩ := fieldValues?_of_fieldsNormal fields h.2
      have ascending : values.Pairwise (fun earlier later ↦ earlier.1 < later.1) := by
        have hnames := h.1
        rw [← hfields, List.pairwise_map] at hnames
        exact hnames
      have hentries : Table.ofList values = ⟨values, ascending⟩ :=
        Table.ofList_entries ⟨values, ascending⟩
      exact ⟨.object (.ofList values), by simp [toValue?, hvalues],
        by simp [Value.object, hentries, hfields]⟩

theorem itemValues?_of_itemsNormal (items : List Json) (h : ItemsNormal items) :
    ∃ values, itemValues? items = some values ∧ values.map (·.json) = items := by
  match items with
  | [] => exact ⟨[], rfl, rfl⟩
  | item :: rest =>
      rw [ItemsNormal] at h
      obtain ⟨value, hvalue, hitem⟩ := toValue?_of_isNormal item h.1
      obtain ⟨values, hvalues, hrest⟩ := itemValues?_of_itemsNormal rest h.2
      exact ⟨value :: values, by simp [itemValues?, hvalue, hvalues], by simp [hitem, hrest]⟩

theorem fieldValues?_of_fieldsNormal (fields : List (String × Json)) (h : FieldsNormal fields) :
    ∃ values, fieldValues? fields = some values ∧
      values.map (fun field ↦ (field.1, field.2.json)) = fields := by
  match fields with
  | [] => exact ⟨[], rfl, rfl⟩
  | (name, json) :: rest =>
      rw [FieldsNormal] at h
      obtain ⟨value, hvalue, hjson⟩ := toValue?_of_isNormal json h.1
      obtain ⟨values, hvalues, hrest⟩ := fieldValues?_of_fieldsNormal rest h.2
      exact ⟨(name, value) :: values, by simp [fieldValues?, hvalue, hvalues],
        by simp [hjson, hrest]⟩
end

/-- Bringing a value into normal form leaves it as it is. -/
@[simp]
theorem toValue?_json (value : Value) : value.json.toValue? = some value := by
  obtain ⟨other, hother, hjson⟩ := toValue?_of_isNormal value.json value.normal
  rw [hother, Value.ext hjson]

/-- The entries of an object, each decoded; the last of several members with one name counts. -/
def table? {α : Type} (decode : Json → Option α) : Json → Option (Table α)
  | .object fields =>
      (fields.mapM fun field ↦ (decode field.2).map fun value ↦ (field.1, value)).map .ofList
  | _ => none

/-- A table as an object. -/
def ofTable {α : Type} (encode : α → Json) (table : Table α) : Json :=
  .object (table.entries.map fun entry ↦ (entry.1, encode entry.2))

end Json

end FlowGate
