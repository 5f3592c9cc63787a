import FlowGate.Proofs.Json.Numbers
import FlowGate.Proofs.Json.Strings

/-!
# Documents read from their texts

`throughText` is what becomes of a document that is written and read: a number is replaced by the
one that its text is read as, and a container inside 127 others has no value. `read?_compact` says
that every document is read from its text in this way.

`ReadBack` is the step of this for one document, with any text behind it that may follow a value.
There is one lemma for each kind of document, and the three statements about documents, items and
members are proved together along their structure.
-/

namespace FlowGate.Json

mutual
/-- `throughText depth json` is what a document inside `depth` containers is read as when it was
written. -/
def throughText (depth : Nat) : Json → Json
  | .null => .null
  | .bool value => .bool value
  | .number value => value.reread?.elim .unrepresentable .number
  | .string value => .string value
  | .array items =>
      if depth < greatestDepth then .array (itemsThroughText (depth + 1) items)
      else .unrepresentable
  | .object fields =>
      if depth < greatestDepth then .object (fieldsThroughText (depth + 1) fields)
      else .unrepresentable
  | .unrepresentable => .null

/-- What items are read as. -/
def itemsThroughText (depth : Nat) : List Json → List Json
  | [] => []
  | item :: rest => throughText depth item :: itemsThroughText depth rest

/-- What members are read as. -/
def fieldsThroughText (depth : Nat) : List (String × Json) → List (String × Json)
  | [] => []
  | (name, value) :: rest => (name, throughText depth value) :: fieldsThroughText depth rest
end

/-! ## Texts as input -/

/-- The characters of a text as they are read. -/
def inputOf (text : String) : Input := text.toList.map some

/-- A name in front of a value. -/
def named (name : String) (input : Input) : Input := some '"' :: quoted name (some ':' :: input)

/-- `EndsValue rest` says a value may stand in front of the input. -/
def EndsValue (rest : Input) : Prop :=
  ∀ c ∈ rest.head?, c = some ',' ∨ c = some ']' ∨ c = some '\x7d'

/-- `StartsValue input` says no blank and no closing bracket stands at the start of the input. -/
def StartsValue (input : Input) : Prop :=
  ∀ c ∈ input.head?, isSpace c = false ∧ c ≠ some ']' ∧ c ≠ some '\x7d'

theorem EndsValue.endsNumber {rest : Input} (h : EndsValue rest) : EndsNumber rest := by
  intro c hc
  rcases h c hc with rfl | rfl | rfl <;> exact ⟨rfl, nofun, nofun, nofun⟩

theorem endsValue_cons {c : Option Char} (rest : Input)
    (hc : c = some ',' ∨ c = some ']' ∨ c = some '\x7d') : EndsValue (c :: rest) := by
  rintro _ ⟨⟩
  exact hc

theorem skipSpace_cons {c : Option Char} {input : Input} (h : isSpace c = false) :
    skipSpace (c :: input) = c :: input := by
  simp [skipSpace, h]

theorem StartsValue.skipSpace_eq {input : Input} (h : StartsValue input) :
    skipSpace input = input := by
  cases input with
  | nil => rfl
  | cons c input => exact skipSpace_cons (h c rfl).1

theorem inputOf_quote (text : String) (rest : Input) :
    inputOf (quote text) ++ rest = some '"' :: quoted text rest := by
  simp [inputOf, quote, quoted]

theorem inputOf_array (items : List Json) :
    inputOf (compact (.array items)) =
      some '[' :: (inputOf (compactItems items) ++ [some ']']) := by
  simp [compact, inputOf]

theorem inputOf_object (fields : List (String × Json)) :
    inputOf (compact (.object fields)) =
      some '\x7b' :: (inputOf (compactFields fields) ++ [some '\x7d']) := by
  simp [compact, inputOf]

theorem inputOf_compactItems_cons (item next : Json) (rest : List Json) :
    inputOf (compactItems (item :: next :: rest)) =
      inputOf (compact item) ++ some ',' :: inputOf (compactItems (next :: rest)) := by
  rw [compactItems]
  · simp [inputOf]
  · exact List.cons_ne_nil next rest

theorem inputOf_compactFields_singleton (name : String) (value : Json) :
    inputOf (compactFields [(name, value)]) = named name (inputOf (compact value)) := by
  simp [compactFields, named, quoted, quote, inputOf]

theorem inputOf_compactFields_cons (name : String) (value : Json) (next : String × Json)
    (rest : List (String × Json)) :
    inputOf (compactFields ((name, value) :: next :: rest)) =
      named name
        (inputOf (compact value) ++ some ',' :: inputOf (compactFields (next :: rest))) := by
  rw [compactFields]
  · simp [named, quoted, quote, inputOf]
  · exact List.cons_ne_nil next rest

theorem named_append (name : String) (input rest : Input) :
    named name input ++ rest = named name (input ++ rest) := by
  simp [named, quoted]

theorem length_lt_named (name : String) (input : Input) :
    input.length < (named name input).length := by
  simp only [named, quoted, List.length_append, List.length_cons]
  omega

/-! ## Where a value starts -/

/-- A number starts with its sign or a digit, and so with no other character. -/
theorem ne_of_numberHead {c d : Char} (hc : c = '-' ∨ c.isDigit = true)
    (hd : (d == '-' || d.isDigit) = false) : c ≠ d := by
  rintro rfl
  rw [Bool.or_eq_false_iff, beq_eq_false_iff_ne] at hd
  rcases hc with hsign | hdigit
  · exact hd.1 hsign
  · rw [hdigit] at hd
    cases hd.2

theorem isSpace_of_numberHead {c : Char} (hc : c = '-' ∨ c.isDigit = true) :
    isSpace (some c) = false := by
  have hne {d : Char} (hd : (d == '-' || d.isDigit) = false) : c ≠ d := ne_of_numberHead hc hd
  have hspace : c ≠ ' ' := hne rfl
  have htab : c ≠ '\t' := hne rfl
  have hline : c ≠ '\n' := hne rfl
  have hreturn : c ≠ '\r' := hne rfl
  simp [isSpace, hspace, htab, hline, hreturn]

/-- The text of a document is not empty and starts a value. -/
theorem exists_compact_eq_cons (json : Json) :
    ∃ c more, inputOf (compact json) = c :: more ∧
      isSpace c = false ∧ c ≠ some ']' ∧ c ≠ some '\x7d' := by
  cases json with
  | null | unrepresentable => exact ⟨some 'n', _, by rw [compact]; rfl, by decide⟩
  | bool value =>
      cases value with
      | true => exact ⟨some 't', _, by rw [compact]; rfl, by decide⟩
      | false => exact ⟨some 'f', _, by rw [compact]; rfl, by decide⟩
  | number value =>
      obtain ⟨numeral, htext⟩ := value.exists_numeral
      obtain ⟨c, characters, hcons, hc⟩ := numeral.exists_text_eq_cons
      rw [htext] at hcons
      refine ⟨some c, characters.map some, ?_, isSpace_of_numberHead hc, ?_, ?_⟩
      · rw [compact, inputOf, hcons, List.map_cons]
      · exact fun heq ↦ ne_of_numberHead hc rfl (Option.some.inj heq)
      · exact fun heq ↦ ne_of_numberHead hc rfl (Option.some.inj heq)
  | string value =>
      have htext := inputOf_quote value []
      rw [List.append_nil] at htext
      exact ⟨some '"', _, by rw [compact, htext], by decide⟩
  | array items => exact ⟨some '[', _, inputOf_array items, by decide⟩
  | object fields => exact ⟨some '\x7b', _, inputOf_object fields, by decide⟩

theorem startsValue_compactItems (item : Json) (items : List Json) (rest : Input) :
    StartsValue (inputOf (compactItems (item :: items)) ++ rest) := by
  obtain ⟨c, more, hcons, hc⟩ := exists_compact_eq_cons item
  have hhead : (inputOf (compactItems (item :: items)) ++ rest).head? = some c := by
    cases items with
    | nil => rw [compactItems, hcons, List.cons_append, List.head?_cons]
    | cons next items =>
        rw [inputOf_compactItems_cons, hcons, List.cons_append, List.cons_append, List.head?_cons]
  intro d hd
  rw [hhead] at hd
  cases hd
  exact hc

theorem startsValue_named (name : String) (input : Input) : StartsValue (named name input) := by
  rintro _ ⟨⟩
  decide

theorem startsValue_compactFields (field : String × Json) (fields : List (String × Json))
    (rest : Input) : StartsValue (inputOf (compactFields (field :: fields)) ++ rest) := by
  cases fields with
  | nil =>
      rw [inputOf_compactFields_singleton, named_append]
      exact startsValue_named _ _
  | cons next fields =>
      rw [inputOf_compactFields_cons, named_append]
      exact startsValue_named _ _

/-! ## Steps of the reader -/

section Steps

variable {fuel depth : Nat} {input more rest : Input}

theorem readValue_null :
    readValue (fuel + 1) depth (inputOf "null" ++ rest) = some (.null, rest) := rfl

theorem readValue_true :
    readValue (fuel + 1) depth (inputOf "true" ++ rest) = some (.bool true, rest) := rfl

theorem readValue_false :
    readValue (fuel + 1) depth (inputOf "false" ++ rest) = some (.bool false, rest) := rfl

theorem readValue_string (text : String) :
    readValue (fuel + 1) depth (inputOf (quote text) ++ rest) = some (.string text, rest) := by
  rw [inputOf_quote]
  show (readString (quoted text rest)).bind _ = _
  rw [readString_quoted]
  rfl

theorem word?_cons_of_ne {c d : Char} {word : String} (hword : word.toList.head? = some d)
    (h : c ≠ d) : word? word (some c :: input) = none := by
  obtain ⟨characters, hcons⟩ := List.head?_eq_some_iff.1 hword
  simp [word?, hcons, Ne.symm h]

/-- What starts like a number is read as one. -/
theorem readValue_literal {c : Char} (hc : c = '-' ∨ c.isDigit = true) {literal : Literal}
    (h : readLiteral (some c :: input) = some (literal, rest)) :
    readValue (fuel + 1) depth (some c :: input) =
      some (literal.number?.elim .unrepresentable .number, rest) := by
  rw [readValue.eq_def]
  simp only [skipSpace_cons (isSpace_of_numberHead hc)]
  split
  next heq => exact absurd (Option.some.inj (List.cons.inj heq).1) (ne_of_numberHead hc rfl)
  next heq => exact absurd (Option.some.inj (List.cons.inj heq).1) (ne_of_numberHead hc rfl)
  next heq => exact absurd (Option.some.inj (List.cons.inj heq).1) (ne_of_numberHead hc rfl)
  next =>
    have hnull : c ≠ 'n' := ne_of_numberHead hc rfl
    have htrue : c ≠ 't' := ne_of_numberHead hc rfl
    have hfalse : c ≠ 'f' := ne_of_numberHead hc rfl
    rw [word?_cons_of_ne rfl hnull, word?_cons_of_ne rfl htrue, word?_cons_of_ne rfl hfalse]
    simp only [h]
    cases hnumber : literal.number? <;> simp [hnumber]

theorem readValue_number (value : Number) (hrest : EndsNumber rest) :
    readValue (fuel + 1) depth (inputOf value.text ++ rest) =
      some (value.reread?.elim .unrepresentable .number, rest) := by
  obtain ⟨numeral, htext⟩ := value.exists_numeral
  obtain ⟨c, characters, hcons, hc⟩ := numeral.exists_text_eq_cons
  obtain ⟨literal, hread, hnumber⟩ := value.readLiteral_text hrest
  rw [← htext, hcons] at hread
  rw [inputOf, ← htext, hcons, ← hnumber]
  exact readValue_literal hc hread

theorem readValue_array_nil :
    readValue (fuel + 1) depth (inputOf "[]" ++ rest) =
      some (if depth < greatestDepth then .array [] else .unrepresentable, rest) := rfl

theorem readValue_object_nil :
    readValue (fuel + 1) depth (inputOf "\x7b\x7d" ++ rest) =
      some (if depth < greatestDepth then .object [] else .unrepresentable, rest) := rfl

theorem readValue_array {items : List Json} (hstart : StartsValue input)
    (h : readItems fuel (depth + 1) input = some (items, rest)) :
    readValue (fuel + 1) depth (some '[' :: input) =
      some (if depth < greatestDepth then .array items else .unrepresentable, rest) := by
  have hbracket : isSpace (some '[') = false := rfl
  rw [readValue.eq_def]
  simp only [skipSpace_cons hbracket, hstart.skipSpace_eq]
  split
  next => exact absurd rfl (hstart (some ']') rfl).2.1
  next => simp [h]

theorem readValue_object {fields : List (String × Json)} (hstart : StartsValue input)
    (h : readFields fuel (depth + 1) input = some (some fields, rest)) :
    readValue (fuel + 1) depth (some '\x7b' :: input) =
      some (if depth < greatestDepth then .object fields else .unrepresentable, rest) := by
  have hbrace : isSpace (some '\x7b') = false := rfl
  rw [readValue.eq_def]
  simp only [skipSpace_cons hbrace, hstart.skipSpace_eq]
  split
  next => exact absurd rfl (hstart (some '\x7d') rfl).2.2
  next => simp [h]

theorem readItems_last {item : Json}
    (h : readValue fuel depth input = some (item, some ']' :: rest)) :
    readItems (fuel + 1) depth input = some ([item], rest) := by
  show (readValue fuel depth input).bind _ = _
  rw [h]
  rfl

theorem readItems_cons {item : Json} {items : List Json}
    (h : readValue fuel depth input = some (item, some ',' :: more))
    (hitems : readItems fuel depth more = some (items, rest)) :
    readItems (fuel + 1) depth input = some (item :: items, rest) := by
  show (readValue fuel depth input).bind _ = _
  rw [h, Option.bind_some]
  show (readItems fuel depth more).bind _ = _
  rw [hitems]
  rfl

theorem readFields_last {name : String} {value : Json}
    (h : readValue fuel depth input = some (value, some '\x7d' :: rest)) :
    readFields (fuel + 1) depth (named name input) = some (some [(name, value)], rest) := by
  show (readString (quoted name (some ':' :: input))).bind _ = _
  rw [readString_quoted, Option.bind_some]
  show (readValue fuel depth input).bind _ = _
  rw [h]
  rfl

theorem readFields_cons {name : String} {value : Json} {fields : List (String × Json)}
    (h : readValue fuel depth input = some (value, some ',' :: more))
    (hfields : readFields fuel depth more = some (some fields, rest)) :
    readFields (fuel + 1) depth (named name input) =
      some (some ((name, value) :: fields), rest) := by
  show (readString (quoted name (some ':' :: input))).bind _ = _
  rw [readString_quoted, Option.bind_some]
  show (readValue fuel depth input).bind _ = _
  rw [h, Option.bind_some]
  show (readFields fuel depth more).bind _ = _
  rw [hfields]
  rfl

end Steps

/-! ## Reading back -/

/-- `ReadBack json` says `json` is read from its text as `throughText` has it, in as many steps as
the text has characters. -/
def ReadBack (json : Json) : Prop :=
  ∀ (fuel depth : Nat) (rest : Input), (inputOf (compact json)).length ≤ fuel → EndsValue rest →
    readValue fuel depth (inputOf (compact json) ++ rest) = some (throughText depth json, rest)

/-- `ItemsReadBack items` says this of the items of an array, if there are any. -/
def ItemsReadBack (items : List Json) : Prop :=
  ∀ (fuel depth : Nat) (rest : Input), items ≠ [] →
    (inputOf (compactItems items)).length < fuel →
      readItems fuel depth (inputOf (compactItems items) ++ some ']' :: rest) =
        some (itemsThroughText depth items, rest)

/-- `FieldsReadBack fields` says this of the members of an object, if there are any. -/
def FieldsReadBack (fields : List (String × Json)) : Prop :=
  ∀ (fuel depth : Nat) (rest : Input), fields ≠ [] →
    (inputOf (compactFields fields)).length < fuel →
      readFields fuel depth (inputOf (compactFields fields) ++ some '\x7d' :: rest) =
        some (some (fieldsThroughText depth fields), rest)

/-- One step suffices to start reading. -/
theorem exists_fuel_eq_succ {json : Json} {fuel : Nat}
    (h : (inputOf (compact json)).length ≤ fuel) : ∃ smaller, fuel = smaller + 1 := by
  obtain ⟨c, more, hcons, _⟩ := exists_compact_eq_cons json
  rw [hcons, List.length_cons] at h
  exact ⟨fuel - 1, by omega⟩

/-- What contains no other documents needs no more steps. -/
theorem readBack_scalar {json : Json}
    (h : ∀ (fuel depth : Nat) (rest : Input), EndsValue rest →
      readValue (fuel + 1) depth (inputOf (compact json) ++ rest) =
        some (throughText depth json, rest)) : ReadBack json := by
  intro fuel depth rest hfuel hrest
  obtain ⟨fuel, rfl⟩ := exists_fuel_eq_succ hfuel
  exact h fuel depth rest hrest

theorem readBack_null : ReadBack .null :=
  readBack_scalar fun _ _ _ _ ↦ by rw [compact, throughText, readValue_null]

/-- A part without a value is written as null. -/
theorem readBack_unrepresentable : ReadBack .unrepresentable :=
  readBack_scalar fun _ _ _ _ ↦ by rw [compact, throughText, readValue_null]

theorem readBack_bool (value : Bool) : ReadBack (.bool value) := by
  refine readBack_scalar fun _ _ _ _ ↦ ?_
  cases value with
  | true => rw [compact, throughText, readValue_true]
  | false => rw [compact, throughText, readValue_false]

theorem readBack_number (value : Number) : ReadBack (.number value) :=
  readBack_scalar fun _ _ _ hrest ↦ by
    rw [compact, throughText, readValue_number value hrest.endsNumber]

theorem readBack_string (value : String) : ReadBack (.string value) :=
  readBack_scalar fun _ _ _ _ ↦ by rw [compact, throughText, readValue_string]

theorem readBack_array {items : List Json} (h : ItemsReadBack items) : ReadBack (.array items) := by
  intro fuel depth rest hfuel _
  obtain ⟨fuel, rfl⟩ := exists_fuel_eq_succ hfuel
  cases items with
  | nil => exact readValue_array_nil
  | cons item items =>
      rw [inputOf_array, List.length_cons, List.length_append, List.length_singleton] at hfuel
      rw [inputOf_array, List.cons_append, List.append_assoc]
      exact readValue_array (startsValue_compactItems _ _ _)
        (h _ _ _ (List.cons_ne_nil _ _) (by omega))

theorem readBack_object {fields : List (String × Json)} (h : FieldsReadBack fields) :
    ReadBack (.object fields) := by
  intro fuel depth rest hfuel _
  obtain ⟨fuel, rfl⟩ := exists_fuel_eq_succ hfuel
  cases fields with
  | nil => exact readValue_object_nil
  | cons field fields =>
      rw [inputOf_object, List.length_cons, List.length_append, List.length_singleton] at hfuel
      rw [inputOf_object, List.cons_append, List.append_assoc]
      exact readValue_object (startsValue_compactFields _ _ _)
        (h _ _ _ (List.cons_ne_nil _ _) (by omega))

theorem itemsReadBack_cons {item : Json} {items : List Json} (hitem : ReadBack item)
    (hitems : ItemsReadBack items) : ItemsReadBack (item :: items) := by
  intro fuel depth rest _ hfuel
  obtain ⟨fuel, rfl⟩ : ∃ smaller, fuel = smaller + 1 := ⟨fuel - 1, by omega⟩
  cases items with
  | nil =>
      rw [compactItems] at hfuel ⊢
      have hend := endsValue_cons rest (.inr (.inl rfl))
      exact readItems_last (hitem _ _ _ (Nat.le_of_lt_succ hfuel) hend)
  | cons next items =>
      rw [inputOf_compactItems_cons, List.length_append, List.length_cons] at hfuel
      rw [inputOf_compactItems_cons, List.append_assoc]
      have hend (rest : Input) := endsValue_cons rest (.inl rfl)
      exact readItems_cons (hitem _ _ _ (by omega) (hend _))
        (hitems _ _ _ (List.cons_ne_nil _ _) (by omega))

theorem fieldsReadBack_cons {name : String} {value : Json} {fields : List (String × Json)}
    (hvalue : ReadBack value) (hfields : FieldsReadBack fields) :
    FieldsReadBack ((name, value) :: fields) := by
  intro fuel depth rest _ hfuel
  obtain ⟨fuel, rfl⟩ : ∃ smaller, fuel = smaller + 1 := ⟨fuel - 1, by omega⟩
  cases fields with
  | nil =>
      rw [inputOf_compactFields_singleton] at hfuel ⊢
      have hlength := length_lt_named name (inputOf (compact value))
      have hend := endsValue_cons rest (.inr (.inr rfl))
      rw [named_append]
      exact readFields_last (hvalue _ _ _ (by omega) hend)
  | cons next fields =>
      have hlength := length_lt_named name
        (inputOf (compact value) ++ some ',' :: inputOf (compactFields (next :: fields)))
      have hend (rest : Input) := endsValue_cons rest (.inl rfl)
      rw [inputOf_compactFields_cons] at hfuel ⊢
      rw [List.length_append, List.length_cons] at hlength
      rw [named_append, List.append_assoc]
      exact readFields_cons (hvalue _ _ _ (by omega) (hend _))
        (hfields _ _ _ (List.cons_ne_nil _ _) (by omega))

mutual
theorem readBack (json : Json) : ReadBack json := by
  match json with
  | .null => exact readBack_null
  | .bool value => exact readBack_bool value
  | .number value => exact readBack_number value
  | .string value => exact readBack_string value
  | .array items => exact readBack_array (itemsReadBack items)
  | .object fields => exact readBack_object (fieldsReadBack fields)
  | .unrepresentable => exact readBack_unrepresentable

theorem itemsReadBack (items : List Json) : ItemsReadBack items := by
  match items with
  | [] => exact fun _ _ _ hne ↦ absurd rfl hne
  | item :: rest => exact itemsReadBack_cons (readBack item) (itemsReadBack rest)

theorem fieldsReadBack (fields : List (String × Json)) : FieldsReadBack fields := by
  match fields with
  | [] => exact fun _ _ _ hne ↦ absurd rfl hne
  | (_, value) :: rest => exact fieldsReadBack_cons (readBack value) (fieldsReadBack rest)
end

/-- Every document is read from its text, as `throughText` has it. -/
theorem read?_compact (json : Json) : read? (compact json) = some (throughText 0 json) := by
  have hread := readBack json (2 * (inputOf (compact json)).length + 2) 0 [] (by omega) nofun
  rw [List.append_nil] at hread
  show readInput? (inputOf (compact json)) = _
  rw [readInput?, hread]
  rfl

end FlowGate.Json
