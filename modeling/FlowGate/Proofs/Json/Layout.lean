import FlowGate.Proofs.Json.Record

/-!
# What rewriting does to a document

A document that was read and is written again may look different: records become objects, members
get an order, defaults are filled in and fields without a value are left out. `Json.Same` relates
two documents that hold the same value. A `Json.Layout` lists the fields of a kind of record, each
with a `Json.FieldRule`, which relates the field of the document that was read to the field of the
one that is written; `Layout.Relates` relates whole records. `Json.Rewrites` says that a document is
related to what it is rewritten to. It holds of values, numbers and choices, and is passed on to
lists, tables and the fields of records.
-/

namespace FlowGate.Json

/-- `Same json other` says two documents hold the same value: the order of members makes no
difference, and of several members with one name the last one counts. -/
inductive Same : Json → Json → Prop where
  | null : Same .null .null
  | bool (truth : Bool) : Same (.bool truth) (.bool truth)
  | number (value : Number) : Same (.number value) (.number value)
  | string (text : String) : Same (.string text) (.string text)
  | array {items others : List Json}
      (hitems : ∀ index : Nat, Option.Rel Same items[index]? others[index]?) :
      Same (.array items) (.array others)
  | object {fields others : List (String × Json)}
      (hmembers : ∀ name, Option.Rel Same (lastMember? (.object fields) name)
        (lastMember? (.object others) name)) :
      Same (.object fields) (.object others)

/-- A relation between the field of a record that was read and that of the record as it is
written. -/
abbrev FieldRule : Type := Option Json → Option Json → Prop

section Rules

variable (relation : Json → Json → Prop)

/-- The field must be there. -/
inductive Required : FieldRule where
  | given {json written : Json} (h : relation json written) :
      Required (some json) (some written)

/-- The field is written with a default when it is absent. -/
inductive WithDefault (default : Json) : FieldRule where
  | absent : WithDefault default none (some default)
  | given {json written : Json} (h : relation json written) :
      WithDefault default (some json) (some written)

/-- The field is left out when it is absent or null. -/
inductive Optional : FieldRule where
  | absent : Optional none none
  | null : Optional (some .null) none
  | given {json written : Json} (hvalue : json ≠ .null) (h : relation json written) :
      Optional (some json) (some written)

/-- The field is written as it was read, or left out as it was. -/
def Unchanged : FieldRule := fun field written ↦ written = field

/-- The members of the field are related by name. An object without members may be left out. -/
def MembersOf : FieldRule := fun field written ↦
  ∀ name, Option.Rel relation (field.bind (·.lastMember? name)) (written.bind (·.lastMember? name))

/-- The items of two arrays are related one by one. -/
inductive Items : Json → Json → Prop where
  | array {items others : List Json}
      (h : ∀ index : Nat, Option.Rel relation items[index]? others[index]?) :
      Items (.array items) (.array others)

/-- The members of two objects are related by name. -/
inductive Members : Json → Json → Prop where
  | object {fields others : List (String × Json)}
      (h : ∀ name, Option.Rel relation (lastMember? (.object fields) name)
        (lastMember? (.object others) name)) :
      Members (.object fields) (.object others)

/-- Null is kept, and anything else is related. -/
inductive Nullable : Json → Json → Prop where
  | null : Nullable .null .null
  | given {json written : Json} (hvalue : json ≠ .null) (h : relation json written) :
      Nullable json written

end Rules

/-- A number is written as a binary64 number; an integer is rounded to one. -/
inductive SameReal : Json → Json → Prop where
  | integer (value : Int) : SameReal (.number (.integer value)) (.number (.real (.ofInt value)))
  | real (value : Binary64) : SameReal (.number (.real value)) (.number (.real value))

/-- A name that was given as a text or as the only member of an object is written as a text. -/
inductive SameName : Json → Json → Prop where
  | text (name : String) : SameName (.string name) (.string name)
  | member (name : String) : SameName (.object [(name, .null)]) (.string name)

/-- The fields of a kind of record in order, each with its rule. -/
abbrev Layout : Type := List (String × FieldRule)

/-- `layout.Relates json written` says both documents are records with these fields, and each field
of the one is related to the field of the other by its rule. -/
def Layout.Relates (layout : Layout) (json written : Json) : Prop :=
  ∃ field writtenField, json.record? (layout.map (·.1)) = some field ∧
    written.record? (layout.map (·.1)) = some writtenField ∧
    ∀ entry ∈ layout, entry.2 (field entry.1) (writtenField entry.1)

/-- The field of a record that was read is related to that of the record as it is written. -/
theorem Layout.Relates.field {layout : Layout} {json written : Json}
    (h : layout.Relates json written) {name : String} {rule : FieldRule}
    (hmem : (name, rule) ∈ layout) :
    rule (json.field? (layout.map (·.1)) name) (written.field? (layout.map (·.1)) name) := by
  obtain ⟨field, writtenField, hfield, hwritten, hentries⟩ := h
  rw [field?_of_record? hfield, field?_of_record? hwritten]
  exact hentries _ hmem

/-! ## What related documents have in common -/

section Related

variable {json written default : Json} {relation : Json → Json → Prop} (rule : FieldRule)
  {names : List String} {name : String} {path : List (List String × String)}

theorem Same.eq_null_iff (h : Same json written) : written = .null ↔ json = .null := by
  cases h <;> simp

theorem Same.eq_bool_iff (h : Same json written) (truth : Bool) :
    written = .bool truth ↔ json = .bool truth := by
  cases h <;> simp

/-- What holds behind a field with a default holds of the paths through it, if it holds of the
default as well. -/
theorem WithDefault.follow
    (h : WithDefault relation default (json.field? names name) (written.field? names name))
    (habsent : rule none (default.follow? path))
    (hgiven : ∀ inner other, relation inner other →
      rule (inner.follow? path) (other.follow? path)) :
    rule (json.follow? ((names, name) :: path)) (written.follow? ((names, name) :: path)) := by
  rw [follow?, follow?]
  generalize json.field? names name = field, written.field? names name = writtenField at h ⊢
  cases h with
  | absent => exact habsent
  | given h => exact hgiven _ _ h

/-- What holds behind a field that needs no value holds of the paths through it, if it holds where
there is none. -/
theorem Optional.follow
    (h : Optional relation (json.field? names name) (written.field? names name))
    (habsent : rule none none) (hnull : rule (Json.null.follow? path) none)
    (hgiven : ∀ inner other, relation inner other →
      rule (inner.follow? path) (other.follow? path)) :
    rule (json.follow? ((names, name) :: path)) (written.follow? ((names, name) :: path)) := by
  rw [follow?, follow?]
  generalize json.field? names name = field, written.field? names name = writtenField at h ⊢
  cases h with
  | absent => exact habsent
  | null => exact hnull
  | given _ h => exact hgiven _ _ h

end Related

/-! ## What is written for what was read -/

variable {α : Type} {decode : Json → Option α} {encode : α → Json}
  {relation : Json → Json → Prop} {default value : α} {result : Option α}
  {field written : Option Json}

/-- `Rewrites relation decode encode` says what was read from a document is written to a related
one. -/
def Rewrites (relation : Json → Json → Prop) (decode : Json → Option α) (encode : α → Json) :
    Prop :=
  ∀ json value, decode json = some value → relation json (encode value)

theorem Rewrites.required (h : Rewrites relation decode encode)
    (hread : required decode field = some value) (hwritten : written = some (encode value)) :
    Required relation field written := by
  obtain ⟨json, rfl, hjson⟩ := Option.bind_eq_some_iff.1 hread
  rw [hwritten]
  exact .given (h json value hjson)

theorem Rewrites.withDefault (h : Rewrites relation decode encode)
    (hread : withDefault default decode field = some value)
    (hwritten : written = some (encode value)) :
    WithDefault relation (encode default) field written := by
  rw [hwritten]
  cases field with
  | none =>
      cases hread
      exact .absent
  | some json => exact .given (h json value hread)

theorem Rewrites.optional (h : Rewrites relation decode encode)
    (hread : optional decode field = some result) (hwritten : written = result.map encode) :
    Optional relation field written := by
  rw [hwritten]
  unfold Json.optional at hread
  split at hread
  · cases hread
    exact .absent
  · cases hread
    exact .null
  next json hnull =>
    obtain ⟨value, hvalue, rfl⟩ := Option.map_eq_some_iff.1 hread
    exact .given hnull (h json value hvalue)

/-! ## Items and members -/

/-- What a list was decoded to comes from its items, one by one. -/
theorem rel_getElem?_of_mapM {β : Type} {decode : β → Option α} {items : List β} {values : List α}
    (h : items.mapM decode = some values) (index : Nat) :
    Option.Rel (fun item value ↦ decode item = some value) items[index]? values[index]? := by
  have hindex := congrArg (·[index]?) (mapM_eq_some_iff.1 h)
  simp only [List.getElem?_map] at hindex
  cases hitem : items[index]? with
  | none =>
      rw [hitem] at hindex
      rw [Option.map_eq_none_iff.1 hindex.symm]
      exact .none
  | some item =>
      rw [hitem] at hindex
      obtain ⟨value, hvalue, hdecode⟩ := Option.map_eq_some_iff.1 hindex.symm
      rw [hvalue]
      exact .some hdecode.symm

theorem rel_map {β γ : Type} {first : Option β} {second : Option α} {read : β → α → Prop}
    {relation : β → γ → Prop} {encode : α → γ} (h : Option.Rel read first second)
    (himp : ∀ left ∈ first, ∀ right, read left right → relation left (encode right)) :
    Option.Rel relation first (second.map encode) := by
  cases h with
  | none => exact .none
  | some h => exact .some (himp _ rfl _ h)

theorem Rewrites.list (h : Rewrites relation decode encode) :
    Rewrites (Items relation) (list? decode) fun values ↦ .array (values.map encode) := by
  intro json values hread
  cases json with
  | array items =>
      refine .array fun index ↦ ?_
      rw [List.getElem?_map]
      exact rel_map (rel_getElem?_of_mapM hread index) fun item _ value hitem ↦ h item value hitem
  | null | bool _ | number _ | string _ | object _ | unrepresentable => cases hread

theorem Rewrites.table (h : Rewrites relation decode encode) :
    Rewrites (Members relation) (table? decode) (ofTable encode) := by
  intro json table hread
  cases json with
  | object fields =>
      refine .object fun name ↦ ?_
      have hwritten := lastMember?_ofTable encode table name
      rw [ofTable] at hwritten
      rw [hwritten]
      exact rel_map (rel_lastMember?_of_table? hread name) fun member _ value hmember ↦
        h member value hmember
  | null | bool _ | number _ | string _ | array _ | unrepresentable => cases hread

/-! ## Values, numbers and names -/

theorem itemValues?_eq_mapM (items : List Json) : itemValues? items = items.mapM toValue? := by
  induction items with
  | nil => rfl
  | cons item rest ih => rw [itemValues?, ih, List.mapM_cons]

theorem fieldValues?_eq_mapM (fields : List (String × Json)) :
    fieldValues? fields =
      fields.mapM fun field ↦ (toValue? field.2).map fun value ↦ (field.1, value) := by
  induction fields with
  | nil => rfl
  | cons field rest ih =>
      rw [fieldValues?, ih, List.mapM_cons]
      cases toValue? field.2 <;> rfl

mutual
/-- A value holds the same as the document it was read from. -/
theorem same_of_toValue? (json : Json) {value : Value} (h : json.toValue? = some value) :
    Same json value.json := by
  match json with
  | .null => cases h; exact .null
  | .bool truth => cases h; exact .bool truth
  | .number value => cases h; exact .number value
  | .string text => cases h; exact .string text
  | .unrepresentable => cases h
  | .array items =>
      rw [toValue?, itemValues?_eq_mapM] at h
      obtain ⟨values, hvalues, rfl⟩ := Option.map_eq_some_iff.1 h
      refine .array fun index ↦ ?_
      rw [List.getElem?_map]
      exact rel_map (rel_getElem?_of_mapM hvalues index) fun item hitem ↦
        same_of_mem_items items item (List.mem_of_getElem? hitem)
  | .object fields =>
      rw [toValue?, fieldValues?_eq_mapM] at h
      obtain ⟨entries, hentries, rfl⟩ := Option.map_eq_some_iff.1 h
      have htable : table? toValue? (.object fields) = some (.ofList entries) := by
        rw [table?, hentries, Option.map_some]
      refine .object fun name ↦ ?_
      have hwritten := lastMember?_ofTable Value.json (.ofList entries) name
      rw [ofTable] at hwritten
      rw [hwritten]
      exact rel_map (rel_lastMember?_of_table? htable name) fun member hmember ↦
        same_of_mem_fields fields (name, member) (mem_of_lastMember? hmember)

theorem same_of_mem_items (items : List Json) :
    ∀ item ∈ items, ∀ value, item.toValue? = some value → Same item value.json := by
  match items with
  | [] => exact List.forall_mem_nil _
  | item :: rest =>
      exact List.forall_mem_cons.2 ⟨fun _ h ↦ same_of_toValue? item h, same_of_mem_items rest⟩

theorem same_of_mem_fields (fields : List (String × Json)) :
    ∀ field ∈ fields, ∀ value, field.2.toValue? = some value → Same field.2 value.json := by
  match fields with
  | [] => exact List.forall_mem_nil _
  | (_, json) :: rest =>
      exact List.forall_mem_cons.2 ⟨fun _ h ↦ same_of_toValue? json h, same_of_mem_fields rest⟩
end

theorem rewrites_value : Rewrites Same toValue? Value.json := fun json _ h ↦ same_of_toValue? json h

theorem rewrites_string : Rewrites Same string? .string := by
  intro json text h
  cases json with
  | string text =>
      cases h
      exact .string text
  | null | bool _ | number _ | array _ | object _ | unrepresentable => cases h

theorem rewrites_bool : Rewrites Same bool? .bool := by
  intro json truth h
  cases json with
  | bool truth =>
      cases h
      exact .bool truth
  | null | string _ | number _ | array _ | object _ | unrepresentable => cases h

theorem rewrites_real : Rewrites SameReal real? fun value ↦ .number (.real value) := by
  intro json value h
  match json, h with
  | .number (.integer value), h => cases h; exact .integer value
  | .number (.real value), h => cases h; exact .real value

/-- A choice is written with the name it was read from, if every value is written with a name that
leads to it alone. -/
theorem rewrites_choice {choices : List (String × α)} {name : α → String}
    (hname : ∀ entry ∈ choices, name entry.2 = entry.1) :
    Rewrites SameName (choice? choices) (.string ∘ name) := by
  have hlookup {given : String} {value : α} (h : choices.lookup given = some value) :
      name value = given := by
    obtain ⟨before, after, hchoices, _⟩ := List.lookup_eq_some_iff.1 h
    exact hname (given, value) (by simp [hchoices])
  intro json value h
  match json, h with
  | .string given, h =>
      rw [Function.comp, hlookup h]
      exact .text given
  | .object [(given, .null)], h =>
      rw [Function.comp, hlookup h]
      exact .member given

end FlowGate.Json
