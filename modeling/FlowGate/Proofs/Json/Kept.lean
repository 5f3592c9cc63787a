import FlowGate.Proofs.Json.Record
import FlowGate.Proofs.Json.Texts

/-!
# What is kept by a text

A document is kept by its text exactly if its parts are legible, as all parts are but some numbers,
and at most 127 containers stand inside each other (`throughText_eq_self_iff`). `KeptIfRead` says of
a kind of data that it is read from its text only if the document it is written to is kept. It holds
of numbers and values and is passed on to lists and tables; `field_of_record?_throughText` passes it
on to records, field by field.
-/

namespace FlowGate.Json

/-! ## Documents -/

mutual
/-- A document and all that it contains. -/
def parts : Json → List Json
  | .array items => .array items :: itemsParts items
  | .object fields => .object fields :: fieldsParts fields
  | json => [json]

/-- All that items contain. -/
def itemsParts : List Json → List Json
  | [] => []
  | item :: rest => parts item ++ itemsParts rest

/-- All that the values of members contain. -/
def fieldsParts : List (String × Json) → List Json
  | [] => []
  | (_, value) :: rest => parts value ++ fieldsParts rest
end

mutual
/-- The greatest number of containers in a document that stand inside each other. -/
def nesting : Json → Nat
  | .array items => itemsNesting items + 1
  | .object fields => fieldsNesting fields + 1
  | _ => 0

/-- The greatest nesting of items. -/
def itemsNesting : List Json → Nat
  | [] => 0
  | item :: rest => max (nesting item) (itemsNesting rest)

/-- The greatest nesting of the values of members. -/
def fieldsNesting : List (String × Json) → Nat
  | [] => 0
  | (_, value) :: rest => max (nesting value) (fieldsNesting rest)
end

/-- `IsLegible part` says a part that is no container is read as it was written. -/
def IsLegible : Json → Prop
  | .number value => value.reread? = some value
  | .unrepresentable => False
  | _ => True

instance : DecidablePred IsLegible
  | .number value => inferInstanceAs (Decidable (value.reread? = some value))
  | .unrepresentable => inferInstanceAs (Decidable False)
  | .null | .bool _ | .string _ | .array _ | .object _ => inferInstanceAs (Decidable True)

/-- `IsKept depth parts nesting` says parts are legible and fit with their nesting into `depth`
containers. -/
def IsKept (depth : Nat) (parts : List Json) (nesting : Nat) : Prop :=
  (∀ part ∈ parts, part.IsLegible) ∧ depth + nesting ≤ greatestDepth

section Kept

variable {depth : Nat}

theorem isKept_append {parts more : List Json} {nesting nesting' : Nat} :
    IsKept depth (parts ++ more) (max nesting nesting') ↔
      IsKept depth parts nesting ∧ IsKept depth more nesting' := by
  have hnesting : depth + max nesting nesting' ≤ greatestDepth ↔
      depth + nesting ≤ greatestDepth ∧ depth + nesting' ≤ greatestDepth := by omega
  rw [IsKept, IsKept, IsKept, hnesting, List.forall_mem_append]
  exact and_and_and_comm

/-- A container is kept if its contents are, one container further in. -/
theorem isKept_container (container : Json) {parts : List Json} {nesting : Nat}
    (h : container.IsLegible) :
    IsKept depth (container :: parts) (nesting + 1) ↔
      depth < greatestDepth ∧ IsKept (depth + 1) parts nesting := by
  have hnesting : depth + (nesting + 1) ≤ greatestDepth ↔
      depth < greatestDepth ∧ depth + 1 + nesting ≤ greatestDepth := by omega
  rw [IsKept, IsKept, hnesting, List.forall_mem_cons]
  exact ⟨fun hkept ↦ ⟨hkept.2.1, hkept.1.2, hkept.2.2⟩,
    fun hkept ↦ ⟨⟨h, hkept.2.1⟩, hkept.1, hkept.2.2⟩⟩

theorem number_eq_self_iff {value : Number} :
    throughText depth (.number value) = .number value ↔ value.reread? = some value := by
  rw [throughText]
  cases value.reread? <;> simp

theorem array_eq_self_iff {items : List Json} :
    throughText depth (.array items) = .array items ↔
      depth < greatestDepth ∧ itemsThroughText (depth + 1) items = items := by
  rw [throughText]
  split
  next hdepth => simp [hdepth]
  next hdepth => simp [hdepth]

theorem object_eq_self_iff {fields : List (String × Json)} :
    throughText depth (.object fields) = .object fields ↔
      depth < greatestDepth ∧ fieldsThroughText (depth + 1) fields = fields := by
  rw [throughText]
  split
  next hdepth => simp [hdepth]
  next hdepth => simp [hdepth]

end Kept

mutual
/-- A document is kept by its text exactly if its parts are legible and few enough containers stand
inside each other. -/
theorem throughText_eq_self_iff {depth : Nat} (json : Json) (hdepth : depth ≤ greatestDepth) :
    throughText depth json = json ↔ IsKept depth json.parts json.nesting := by
  match json with
  | .null | .bool _ | .string _ => simp [throughText, parts, nesting, IsKept, IsLegible, hdepth]
  | .unrepresentable => simp [throughText, parts, IsKept, IsLegible]
  | .number value => simp [number_eq_self_iff, parts, nesting, IsKept, IsLegible, hdepth]
  | .array items =>
      rw [parts, nesting, isKept_container (.array items) trivial, array_eq_self_iff]
      exact and_congr_right fun hlt ↦ itemsThroughText_eq_self_iff items hlt
  | .object fields =>
      rw [parts, nesting, isKept_container (.object fields) trivial, object_eq_self_iff]
      exact and_congr_right fun hlt ↦ fieldsThroughText_eq_self_iff fields hlt

theorem itemsThroughText_eq_self_iff {depth : Nat} (items : List Json)
    (hdepth : depth ≤ greatestDepth) :
    itemsThroughText depth items = items ↔
      IsKept depth (itemsParts items) (itemsNesting items) := by
  match items with
  | [] => simp [itemsThroughText, itemsParts, itemsNesting, IsKept, hdepth]
  | item :: rest =>
      rw [itemsThroughText, itemsParts, itemsNesting, isKept_append, List.cons.injEq,
        throughText_eq_self_iff item hdepth, itemsThroughText_eq_self_iff rest hdepth]

theorem fieldsThroughText_eq_self_iff {depth : Nat} (fields : List (String × Json))
    (hdepth : depth ≤ greatestDepth) :
    fieldsThroughText depth fields = fields ↔
      IsKept depth (fieldsParts fields) (fieldsNesting fields) := by
  match fields with
  | [] => simp [fieldsThroughText, fieldsParts, fieldsNesting, IsKept, hdepth]
  | (name, value) :: rest =>
      rw [fieldsThroughText, fieldsParts, fieldsNesting, isKept_append, List.cons.injEq,
        Prod.mk.injEq, eq_self, true_and, throughText_eq_self_iff value hdepth,
        fieldsThroughText_eq_self_iff rest hdepth]
end

theorem itemsThroughText_eq_map (depth : Nat) (items : List Json) :
    itemsThroughText depth items = items.map (throughText depth) := by
  induction items with
  | nil => rfl
  | cons item rest ih => rw [itemsThroughText, ih, List.map_cons]

theorem fieldsThroughText_eq_map (depth : Nat) (fields : List (String × Json)) :
    fieldsThroughText depth fields =
      fields.map fun field ↦ (field.1, throughText depth field.2) := by
  induction fields with
  | nil => rfl
  | cons field rest ih => rw [fieldsThroughText, ih, List.map_cons]

theorem map_fst_fieldsThroughText (depth : Nat) (fields : List (String × Json)) :
    (fieldsThroughText depth fields).map (·.1) = fields.map (·.1) := by
  rw [fieldsThroughText_eq_map, List.map_map]
  rfl

/-! ## Values -/

/-- Members with the same names stand in the same order. -/
theorem ascending_of_map_fst_eq {α β : Type} {entries : List (String × α)}
    {others : List (String × β)} (h : entries.map (·.1) = others.map (·.1))
    (hothers : others.Pairwise fun earlier later ↦ earlier.1 < later.1) :
    entries.Pairwise fun earlier later ↦ earlier.1 < later.1 := by
  have hnames := List.pairwise_map.2 hothers
  rw [← h] at hnames
  exact List.pairwise_map.1 hnames

mutual
/-- The document of a value stays in normal form, as far as it has a value. -/
theorem json_of_toValue?_throughText {depth : Nat} {value : Value} (json : Json)
    (h : json.IsNormal) (hvalue : (throughText depth json).toValue? = some value) :
    value.json = throughText depth json := by
  match json with
  | .null | .bool _ | .string _ =>
      cases hvalue
      rfl
  | .unrepresentable => exact h.elim
  | .number count =>
      rw [throughText] at hvalue ⊢
      cases hread : count.reread? with
      | none =>
          rw [hread] at hvalue
          cases hvalue
      | some read =>
          rw [hread] at hvalue
          cases hvalue
          rfl
  | .array items =>
      rw [throughText] at hvalue ⊢
      split at hvalue
      next hdepth =>
        obtain ⟨values, hvalues, rfl⟩ := Option.map_eq_some_iff.1 hvalue
        rw [if_pos hdepth, ← json_of_itemValues?_throughText items h hvalues]
        rfl
      next => cases hvalue
  | .object fields =>
      rw [throughText] at hvalue ⊢
      split at hvalue
      next hdepth =>
        obtain ⟨values, hvalues, rfl⟩ := Option.map_eq_some_iff.1 hvalue
        have hfields := json_of_fieldValues?_throughText fields h.2 hvalues
        -- the names stay as they are, and so does their order
        have hnames : values.map (·.1) = fields.map (·.1) := by
          rw [← map_fst_fieldsThroughText (depth + 1) fields, ← hfields, List.map_map]
          rfl
        have hascending := ascending_of_map_fst_eq hnames h.1
        have hentries : Table.ofList values = ⟨values, hascending⟩ :=
          Table.ofList_entries ⟨values, hascending⟩
        rw [if_pos hdepth, ← hfields, Value.object, hentries]
      next => cases hvalue

theorem json_of_itemValues?_throughText {depth : Nat} {values : List Value} (items : List Json)
    (h : ItemsNormal items) (hvalues : itemValues? (itemsThroughText depth items) = some values) :
    values.map (·.json) = itemsThroughText depth items := by
  match items with
  | [] =>
      cases hvalues
      rfl
  | item :: rest =>
      simp only [itemsThroughText, itemValues?, Option.bind_eq_bind, Option.bind_eq_some_iff,
        Option.pure_def, Option.some.injEq] at hvalues
      obtain ⟨value, hvalue, others, hothers, rfl⟩ := hvalues
      rw [List.map_cons, itemsThroughText, json_of_toValue?_throughText item h.1 hvalue,
        json_of_itemValues?_throughText rest h.2 hothers]

theorem json_of_fieldValues?_throughText {depth : Nat} {values : List (String × Value)}
    (fields : List (String × Json)) (h : FieldsNormal fields)
    (hvalues : fieldValues? (fieldsThroughText depth fields) = some values) :
    values.map (fun field ↦ (field.1, field.2.json)) = fieldsThroughText depth fields := by
  match fields with
  | [] =>
      cases hvalues
      rfl
  | (name, field) :: rest =>
      simp only [fieldsThroughText, fieldValues?, Option.bind_eq_bind, Option.bind_eq_some_iff,
        Option.pure_def, Option.some.injEq] at hvalues
      obtain ⟨value, hvalue, others, hothers, rfl⟩ := hvalues
      rw [List.map_cons, fieldsThroughText, json_of_toValue?_throughText field h.1 hvalue,
        json_of_fieldValues?_throughText rest h.2 hothers]
end


/-! ## Kinds of data -/

section Kinds

variable {α : Type} {decode : Json → Option α} {encode : α → Json} {depth : Nat}

/-- `KeptIfRead decode encode` says data is read from the text it is written to only if its document
is kept. -/
def KeptIfRead (decode : Json → Option α) (encode : α → Json) : Prop :=
  ∀ (depth : Nat) (value : α), decode (throughText depth (encode value)) = some value →
    throughText depth (encode value) = encode value

theorem keptIfRead_value : KeptIfRead toValue? Value.json :=
  fun _ value h ↦ (json_of_toValue?_throughText value.json value.normal h).symm

/-- A number that is no integer is read as no integer. -/
theorem keptIfRead_real : KeptIfRead real? fun value ↦ .number (.real value) := by
  intro depth value h
  rw [throughText] at h ⊢
  cases hread : (Number.real value).reread? with
  | none =>
      rw [hread] at h
      cases h
  | some read =>
      obtain ⟨other, rfl⟩ := Number.reread?_real hread
      rw [hread] at h
      cases h
      rfl

theorem KeptIfRead.list (h : KeptIfRead decode encode) :
    KeptIfRead (list? decode) fun values ↦ .array (values.map encode) := by
  intro depth values hread
  rw [throughText] at hread
  split at hread
  next hdepth =>
    have hitems := mapM_eq_some_iff.1 hread
    rw [itemsThroughText_eq_map, List.map_map, List.map_map, List.map_inj_left] at hitems
    rw [array_eq_self_iff, itemsThroughText_eq_map, List.map_map, List.map_inj_left]
    exact ⟨hdepth, fun value hvalue ↦ h (depth + 1) value (hitems value hvalue)⟩
  next => cases hread

theorem KeptIfRead.table (h : KeptIfRead decode encode) :
    KeptIfRead (table? decode) (ofTable encode) := by
  intro depth table hread
  rw [ofTable, throughText] at hread
  split at hread
  next hdepth =>
    obtain ⟨entries, hentries, htable⟩ := Option.map_eq_some_iff.1 hread
    have hmembers := map_decode_of_mapM hentries
    rw [fieldsThroughText_eq_map, List.map_map, List.map_map] at hmembers
    have hnames : entries.map (·.1) = table.entries.map (·.1) := by
      simpa [Function.comp_def] using (congrArg (List.map Prod.fst) hmembers).symm
    have hascending := ascending_of_map_fst_eq hnames table.ascending
    have hsame : (⟨entries, hascending⟩ : Table α) = table := by
      rw [← htable]
      exact (Table.ofList_entries ⟨entries, hascending⟩).symm
    subst hsame
    rw [List.map_inj_left] at hmembers
    rw [ofTable, object_eq_self_iff, fieldsThroughText_eq_map, List.map_map, List.map_inj_left]
    refine ⟨hdepth, fun entry hentry ↦ ?_⟩
    have hvalue := h (depth + 1) entry.2 (Prod.mk.inj (hmembers entry hentry)).2
    exact congrArg (Prod.mk entry.1) hvalue
  next => cases hread

/-! ## Records -/

variable {names : List String} {fields : List (String × Json)}
  {written field : String → Option Json}

/-- A record is read from its text field by field. -/
theorem field_of_record?_throughText (hwritten : record? names (.object fields) = some written)
    (hread : record? names (throughText depth (.object fields)) = some field) :
    depth < greatestDepth ∧ ∀ name, field name = (written name).map (throughText (depth + 1)) := by
  rw [throughText] at hread
  split at hread
  next hdepth =>
    rw [fieldsThroughText_eq_map, record?] at hread
    rw [record?] at hwritten
    split at hread
    next =>
      split at hwritten
      next =>
        cases hread
        cases hwritten
        exact ⟨hdepth, lookup_map _ _⟩
      next => cases hwritten
    next => cases hread
  next => cases hread

/-- The document of a record is kept if its fields are. -/
theorem object_kept (hdepth : depth < greatestDepth)
    (hfields : ∀ entry ∈ fields, throughText (depth + 1) entry.2 = entry.2) :
    throughText depth (.object fields) = .object fields := by
  rw [object_eq_self_iff, fieldsThroughText_eq_map]
  have hsame : fields.map (fun field ↦ (field.1, throughText (depth + 1) field.2)) =
      fields.map id :=
    List.map_congr_left fun entry hentry ↦ congrArg (Prod.mk entry.1) (hfields entry hentry)
  exact ⟨hdepth, hsame.trans (List.map_id fields)⟩

theorem omitNone_kept (name : String) {result : Option α}
    (h : ∀ value, throughText depth (encode value) = encode value) :
    ∀ entry ∈ omitNone name encode result, throughText depth entry.2 = entry.2 := by
  cases result with
  | none => exact nofun
  | some value =>
      intro entry hentry
      rw [List.mem_singleton.1 hentry]
      exact h value

end Kinds

end FlowGate.Json
