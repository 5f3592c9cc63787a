import FlowGate.Json.Value

/-!
# Reading documents again

A record that was read from some document is written to another one, in which the fields have their
own order and those without a value are left out. `Json.Rereads` says that this other document is
read as the same record. It holds of numbers, names and values, is passed on to lists and tables,
and the lemmas about `required`, `withDefault` and `optional` pass it on to the fields of a record;
`record?_object_of_sublist` gives the fields of the document that was written.

`RecordFormat.Survives` adds what happens to the fields that need no value: they have none exactly
when they are absent or null, and exactly then they are left out.
-/

namespace FlowGate

/-- The value of a key is that of the last entry with the key. -/
theorem Table.get?_ofList {α : Type} (entries : List (String × α)) (key : String) :
    (Table.ofList entries).get? key = entries.reverse.lookup key := by
  have hfold (table : Table α) :
      (entries.foldl (fun table entry ↦ table.insert entry.1 entry.2) table).get? key =
        (entries.reverse.lookup key).or (table.get? key) := by
    induction entries generalizing table with
    | nil => rfl
    | cons entry rest ih =>
        rw [List.foldl_cons, ih, get?_insert, List.reverse_cons, List.lookup_append,
          lookup_cons_entry, Option.or_assoc]
        split <;> rfl
  rw [ofList, hfold]
  exact Option.or_none

/-- The entries of a table are among those that it was built from. -/
theorem Table.mem_of_mem_ofList {α : Type} {entries : List (String × α)} {entry : String × α}
    (h : entry ∈ (Table.ofList entries).entries) : entry ∈ entries := by
  have hlookup := get?_of_mem_entries h
  rw [get?_ofList, List.lookup_eq_some_iff] at hlookup
  obtain ⟨before, after, heq, _⟩ := hlookup
  rw [← List.mem_reverse, heq]
  simp

namespace Json

variable {α : Type} {decode : Json → Option α} {encode : α → Json} {names : List String}
  {fields : List (String × Json)} {default value : α} {result : Option α}
  {field written : Option Json}

/-- `Rereads decode encode` says what was read from a document is read again from the document that
it is written to. -/
def Rereads (decode : Json → Option α) (encode : α → Json) : Prop :=
  ∀ json value, decode json = some value → decode (encode value) = some value

/-- The field of a document that is read as a record. -/
def field? (names : List String) (json : Json) (name : String) : Option Json :=
  (json.record? names).bind fun field ↦ field name

/-- The last member of an object with a given name. -/
def lastMember? : Json → String → Option Json
  | .object fields, name => fields.reverse.lookup name
  | _, _ => none

/-! ## Fields of a record -/

theorem field?_of_record? {json : Json} {field : String → Option Json}
    (h : json.record? names = some field) (name : String) :
    json.field? names name = field name := by
  rw [field?, h, Option.bind_some]

/-- What is written under the names of a record, each at most once, is read by name. -/
theorem record?_object_of_sublist (hnames : names.Nodup)
    (h : (fields.map (·.1)).Sublist names) :
    record? names (.object fields) = some fun name ↦ fields.lookup name := by
  have honce : ∀ name ∈ names, (fields.filter (·.1 = name)).length ≤ 1 := by
    intro name _
    have hcount := List.nodup_iff_count.1 (hnames.sublist h) name
    rw [List.count, List.countP_map, List.countP_eq_length_filter] at hcount
    exact hcount
  rw [record?, if_pos (by simpa using honce)]

/-- A member that may be left out has its name and the value, if there is one. -/
theorem lookup_omitNone (name key : String) (encode : α → Json) (result : Option α) :
    (omitNone name encode result).lookup key = if key = name then result.map encode else none := by
  cases result with
  | none => simp [omitNone]
  | some value => simp [omitNone, Table.lookup_cons_entry]

/-- A member is found in the same place when the values are written. -/
theorem lookup_map {β : Type} (encode : α → β) (entries : List (String × α)) (key : String) :
    (entries.map fun entry ↦ (entry.1, encode entry.2)).lookup key =
      (entries.lookup key).map encode := by
  induction entries with
  | nil => rfl
  | cons entry rest ih =>
      simp only [List.map_cons, Table.lookup_cons_entry, ih]
      split <;> rfl

theorem omitNone_sublist (name : String) (encode : α → Json) (result : Option α) :
    ((omitNone name encode result).map (·.1)).Sublist [name] := by
  cases result with
  | none => exact List.nil_sublist _
  | some value => exact List.Sublist.refl _

theorem required_of_written (h : Rereads decode encode)
    (hread : required decode field = some value) (hwritten : written = some (encode value)) :
    required decode written = some value := by
  obtain ⟨json, _, hjson⟩ := Option.bind_eq_some_iff.1 hread
  rw [hwritten]
  exact h json value hjson

theorem withDefault_of_written (h : Rereads decode encode)
    (hdefault : decode (encode default) = some default)
    (hread : withDefault default decode field = some value)
    (hwritten : written = some (encode value)) :
    withDefault default decode written = some value := by
  rw [hwritten]
  cases field with
  | none =>
      cases hread
      exact hdefault
  | some json => exact h json value hread

/-- A field that may be absent has no value exactly when it is absent or null. -/
theorem optional_none_iff (hread : optional decode field = some result) :
    result.isSome = false ↔ field.all isNull = true := by
  unfold optional at hread
  split at hread
  · cases hread
    simp
  · cases hread
    simp [isNull]
  next json hnull =>
    obtain ⟨value, _, rfl⟩ := Option.map_eq_some_iff.1 hread
    cases json <;> simp_all [isNull]

/-- `KeepsNull decode encode` says only null is written for what is read from null. -/
def KeepsNull (decode : Json → Option α) (encode : α → Json) : Prop :=
  ∀ json value, decode json = some value → (encode value).isNull = true → json.isNull = true

theorem optional_of_written (h : Rereads decode encode) (hnull : KeepsNull decode encode)
    (hread : optional decode field = some result) (hwritten : written = result.map encode) :
    optional decode written = some result := by
  rw [hwritten]
  cases result with
  | none => rfl
  | some value =>
      unfold optional at hread
      split at hread
      · cases hread
      · cases hread
      next json hjson =>
        obtain ⟨_, hvalue, heq⟩ := Option.map_eq_some_iff.1 hread
        cases heq
        have hencode : encode value ≠ .null := by
          intro heq
          have hisNull := hnull json value hvalue (by rw [heq]; rfl)
          cases json <;> simp_all [isNull]
        have hsome : optional decode (some (encode value)) = (decode (encode value)).map some := by
          unfold optional
          split <;> simp_all
        rw [Option.map_some, hsome, h json value hvalue, Option.map_some]

/-! ## What is read again -/

theorem rereads_of_forall (h : ∀ value, decode (encode value) = some value) :
    Rereads decode encode :=
  fun _ value _ ↦ h value

theorem keepsNull_of_forall (h : ∀ value, (encode value).isNull = false) :
    KeepsNull decode encode := by
  intro _ value _ hnull
  rw [h value] at hnull
  cases hnull

theorem rereads_string : Rereads string? .string := rereads_of_forall fun _ ↦ rfl

theorem rereads_bool : Rereads bool? .bool := rereads_of_forall fun _ ↦ rfl

theorem rereads_value : Rereads toValue? Value.json := rereads_of_forall toValue?_json

/-- A choice is read again if its name leads to it. -/
theorem rereads_choice {choices : List (String × α)} {name : α → String}
    (h : ∀ value, choices.lookup (name value) = some value) :
    Rereads (choice? choices) (.string ∘ name) :=
  rereads_of_forall h

/-- A list is decoded item by item. -/
theorem mapM_eq_some_iff {β : Type} {decode : β → Option α} {items : List β} {values : List α} :
    items.mapM decode = some values ↔ items.map decode = values.map some := by
  induction items generalizing values with
  | nil => cases values <;> simp
  | cons item rest ih =>
      simp only [List.mapM_cons, Option.bind_eq_bind, Option.bind_eq_some_iff, Option.pure_def,
        Option.some.injEq, ih]
      constructor
      · intro hexists
        obtain ⟨value, hvalue, others, hothers, rfl⟩ := hexists
        rw [List.map_cons, List.map_cons, hvalue, hothers]
      · intro hvalues
        cases values with
        | nil => cases hvalues
        | cons value others =>
            obtain ⟨hvalue, hothers⟩ := List.cons.inj hvalues
            exact ⟨value, hvalue, others, hothers, rfl⟩

/-- What a list was decoded to comes from its items. -/
theorem exists_mem_of_mapM {β : Type} {decode : β → Option α} {items : List β} {values : List α}
    (h : items.mapM decode = some values) (hvalue : value ∈ values) :
    ∃ item ∈ items, decode item = some value := by
  have hmem : some value ∈ items.map decode := by
    rw [mapM_eq_some_iff.1 h]
    exact List.mem_map_of_mem hvalue
  exact List.mem_map.1 hmem

/-- A list is read as it was written if every item is. -/
theorem mapM_map_eq_some {β : Type} {decode : β → Option α} {encode : α → β} {values : List α}
    (h : ∀ value ∈ values, decode (encode value) = some value) :
    (values.map encode).mapM decode = some values := by
  rw [mapM_eq_some_iff, List.map_map]
  exact List.map_congr_left h

/-- A table whose values are read as they were written is, too. -/
theorem table?_ofTable {table : Table α}
    (h : ∀ entry ∈ table.entries, decode (encode entry.2) = some entry.2) :
    table? decode (ofTable encode table) = some table := by
  rw [ofTable, table?, mapM_map_eq_some, Option.map_some, Table.ofList_entries]
  intro entry hentry
  rw [h entry hentry, Option.map_some]

/-- The entries of a table are the members of the document, each decoded. -/
theorem map_decode_of_mapM {entries : List (String × α)}
    (h : fields.mapM (fun field ↦ (decode field.2).map fun value ↦ (field.1, value)) =
      some entries) :
    fields.map (fun field ↦ (field.1, decode field.2)) =
      entries.map fun entry ↦ (entry.1, some entry.2) := by
  induction fields generalizing entries with
  | nil =>
      cases h
      rfl
  | cons field rest ih =>
      simp only [List.mapM_cons, Option.bind_eq_bind, Option.bind_eq_some_iff, Option.pure_def,
        Option.map_eq_some_iff, Option.some.injEq] at h
      obtain ⟨_, ⟨value, hvalue, rfl⟩, others, hothers, rfl⟩ := h
      rw [List.map_cons, List.map_cons, ih hothers, hvalue]

/-- The last member with a name is a member. -/
theorem mem_of_lastMember? {name : String} {member : Json}
    (h : (object fields).lastMember? name = some member) : (name, member) ∈ fields := by
  obtain ⟨before, after, heq, _⟩ := List.lookup_eq_some_iff.1 h
  rw [← List.mem_reverse, heq]
  simp

/-- The last member with a name was decoded to the value of the key. -/
theorem rel_lastMember?_of_table? {json : Json} {table : Table α}
    (h : table? decode json = some table) (key : String) :
    Option.Rel (fun member value ↦ decode member = some value) (json.lastMember? key)
      (table.get? key) := by
  cases json with
  | object fields =>
      obtain ⟨entries, hentries, rfl⟩ := Option.map_eq_some_iff.1 h
      have hlookup := congrArg (fun pairs ↦ pairs.reverse.lookup key) (map_decode_of_mapM hentries)
      simp only [← List.map_reverse, lookup_map] at hlookup
      rw [Table.get?_ofList]
      show Option.Rel _ (fields.reverse.lookup key) _
      cases hmember : fields.reverse.lookup key with
      | none =>
          rw [hmember] at hlookup
          rw [Option.map_eq_none_iff.1 hlookup.symm]
          exact .none
      | some member =>
          rw [hmember] at hlookup
          obtain ⟨value, hvalue, hdecode⟩ := Option.map_eq_some_iff.1 hlookup.symm
          rw [hvalue]
          exact .some hdecode.symm
  | null | bool _ | number _ | string _ | array _ | unrepresentable => cases h

/-- In the document of a table every key has its value. -/
theorem lastMember?_ofTable (encode : α → Json) (table : Table α) (key : String) :
    (ofTable encode table).lastMember? key = (table.get? key).map encode := by
  show (table.entries.map fun entry ↦ (entry.1, encode entry.2)).reverse.lookup key = _
  rw [← List.map_reverse, lookup_map, ← Table.get?_ofList, Table.ofList_entries]

/-- The normal form of a document is null exactly if the document is. -/
theorem normalForm_eq_null_iff {json : Json} :
    json.toValue?.map Value.json = some .null ↔ json = .null := by
  cases json <;> simp [toValue?, Value.null, Value.bool, Value.number, Value.string, Value.array,
    Value.object]

theorem keepsNull_value : KeepsNull toValue? Value.json := by
  intro json value hvalue hnull
  have hjson : value.json = .null := by
    cases hjson : value.json <;> simp_all [isNull]
  have heq := normalForm_eq_null_iff.1 (by rw [hvalue, Option.map_some, hjson])
  rw [heq]
  rfl

/-- The members of a list are read one by one, so they are all read again. -/
theorem Rereads.list (h : Rereads decode encode) :
    Rereads (list? decode) fun values ↦ .array (values.map encode) := by
  intro json values hread
  cases json with
  | array items =>
      refine mapM_map_eq_some fun value hvalue ↦ ?_
      obtain ⟨item, _, hitem⟩ := exists_mem_of_mapM hread hvalue
      exact h item value hitem
  | null | bool _ | number _ | string _ | object _ | unrepresentable => cases hread

/-- So are the entries of a table, which are written in the order of their keys. -/
theorem Rereads.table (h : Rereads decode encode) : Rereads (table? decode) (ofTable encode) := by
  intro json table hread
  cases json with
  | object fields =>
      obtain ⟨entries, hentries, rfl⟩ := Option.map_eq_some_iff.1 hread
      refine table?_ofTable fun entry hentry ↦ ?_
      obtain ⟨field, _, hfield⟩ :=
        exists_mem_of_mapM hentries (Table.mem_of_mem_ofList hentry)
      obtain ⟨value, hvalue, rfl⟩ := Option.map_eq_some_iff.1 hfield
      exact h field.2 value hvalue
  | null | bool _ | number _ | string _ | array _ | unrepresentable => cases hread

end Json

/-! ## Kinds of records -/

/-- Follows a path of fields through records; each step gives the names of the fields of a record,
and which of them to follow. -/
def Json.follow? (json : Json) : List (List String × String) → Option Json
  | [] => some json
  | (names, name) :: rest => (json.field? names name).bind (·.follow? rest)

theorem Json.follow?_singleton (json : Json) (names : List String) (name : String) :
    json.follow? [(names, name)] = json.field? names name :=
  Option.bind_fun_some _

/-- How a kind of record is stored. -/
structure RecordFormat (α : Type) where
  ofJson? : Json → Option α
  toJson : α → Json
  /-- The paths to the fields that need no value, and whether a record has one. -/
  optionals : List (List (List String × String) × (α → Bool))

namespace RecordFormat

variable {α β : Type}

/-- `format.Survives` says what happens to a record that is read and written again. -/
structure Survives (format : RecordFormat α) : Prop where
  /-- What was written is read as the same record. -/
  reread : Json.Rereads format.ofJson? format.toJson
  /-- A record that was read has no value exactly where the field is absent or null. -/
  absent_iff : ∀ json record, format.ofJson? json = some record → ∀ optional ∈ format.optionals,
    (optional.2 record = false ↔ (json.follow? optional.1).all Json.isNull = true)
  /-- A field is left out exactly where a record has no value. -/
  omitted_iff : ∀ record, ∀ optional ∈ format.optionals,
    (optional.2 record = false ↔ (format.toJson record).follow? optional.1 = none)

/-- The fields of a record that need no value, when the record is itself the field of another
one. -/
def optionalsIn (format : RecordFormat α) (names : List String) (name : String) (part : β → α) :
    List (List (List String × String) × (β → Bool)) :=
  format.optionals.map fun optional ↦ ((names, name) :: optional.1, optional.2 ∘ part)

variable {format : RecordFormat α} {names : List String} {name : String} {part : β → α}
  {default : α} {json : Json} {field : String → Option Json} {record : β}

/-- In a record that may be absent as a whole no field has a value then. -/
theorem Survives.absent_iff_in (h : format.Survives)
    (hdefault : ∀ optional ∈ format.optionals, optional.2 default = false)
    (hfield : json.record? names = some field)
    (hread : Json.withDefault default format.ofJson? (field name) = some (part record)) :
    ∀ optional ∈ format.optionalsIn names name part,
      (optional.2 record = false ↔ (json.follow? optional.1).all Json.isNull = true) := by
  refine List.forall_mem_map.2 fun optional hoptional ↦ ?_
  rw [Json.follow?, Json.field?_of_record? hfield]
  show optional.2 (part record) = false ↔ _
  cases hvalue : field name with
  | none =>
      rw [hvalue] at hread
      cases hread
      exact iff_of_true (hdefault optional hoptional) rfl
  | some inner =>
      rw [hvalue] at hread
      exact h.absent_iff inner _ hread optional hoptional

theorem Survives.omitted_iff_in (h : format.Survives) (hfield : json.record? names = some field)
    (hwritten : field name = some (format.toJson (part record))) :
    ∀ optional ∈ format.optionalsIn names name part,
      (optional.2 record = false ↔ json.follow? optional.1 = none) := by
  refine List.forall_mem_map.2 fun optional hoptional ↦ ?_
  rw [Json.follow?, Json.field?_of_record? hfield, hwritten, Option.bind_some]
  exact h.omitted_iff (part record) optional hoptional

end RecordFormat

end FlowGate
