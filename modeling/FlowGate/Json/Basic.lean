import FlowGate.Binary64.Decimal

/-!
# JSON documents

A `Json` is a document as it was read: the members of an object keep their order, and a name may
occur twice. `record?` reads a document as a record, either from an object, by name, or from an
array, by position.
-/

namespace FlowGate

/-- A number: an integer, or a binary64 number when a fraction or an exponent was written or when
the integer is too large for 64 bits. -/
inductive Number where
  | integer (value : Int)
  | real (value : Binary64)
  deriving DecidableEq

/-- The decimal text of a number. -/
def Number.text : Number → String
  | .integer value => toString value
  | .real value => value.text

/-- A document. -/
inductive Json where
  | null
  | bool (value : Bool)
  | number (value : Number)
  | string (value : String)
  | array (items : List Json)
  | object (fields : List (String × Json))
  /-- A well-formed part that has no value here: a string with a lone surrogate, a number that is
  too large, or a container that is nested too deeply. -/
  | unrepresentable

namespace Json

instance : Inhabited Json := ⟨.null⟩

/-- Whether a document is `null`. -/
def isNull : Json → Bool
  | .null => true
  | _ => false

/-- The first member of an object with a given name. -/
def member? : Json → String → Option Json
  | .object fields, name => fields.lookup name
  | _, _ => none

/-- Reads a document as a record with the given field names. An object gives its fields by name
and must not give one of them twice; members with other names are ignored. An array gives the
fields in order and may stop early. -/
def record? (names : List String) : Json → Option (String → Option Json)
  | .object fields =>
      if names.all fun name ↦ (fields.filter (·.1 = name)).length ≤ 1 then
        some fun name ↦ fields.lookup name
      else none
  | .array items =>
      if items.length ≤ names.length then some fun name ↦ (names.zip items).lookup name else none
  | _ => none

/-- Reads a document as a record as `record?` does, but ignores items of an array behind the last
field. -/
def leadingRecord? (names : List String) : Json → Option (String → Option Json)
  | .array items => record? names (.array (items.take names.length))
  | json => record? names json

/-- A field that must be there. -/
def required {α : Type} (decode : Json → Option α) (field : Option Json) : Option α :=
  field.bind decode

/-- A field that has a default value when it is absent. -/
def withDefault {α : Type} (default : α) (decode : Json → Option α) : Option Json → Option α
  | none => some default
  | some json => decode json

/-- A field that may be absent or null. -/
def optional {α : Type} (decode : Json → Option α) : Option Json → Option (Option α)
  | none => some none
  | some .null => some none
  | some json => (decode json).map some

/-- The text of a string. -/
def string? : Json → Option String
  | .string value => some value
  | _ => none

/-- The value of a truth value. -/
def bool? : Json → Option Bool
  | .bool value => some value
  | _ => none

/-- The value of a number that was written as an integer. -/
def integer? : Json → Option Int
  | .number (.integer value) => some value
  | _ => none

/-- A number as a binary64 number; an integer is rounded. -/
def real? : Json → Option Binary64
  | .number (.integer value) => some (.ofInt value)
  | .number (.real value) => some value
  | _ => none

/-- An integer that fits 64 bits with a sign. -/
def int64? (json : Json) : Option Int64 := do
  let value ← json.integer?
  if Int64.minValue.toInt ≤ value ∧ value ≤ Int64.maxValue.toInt then some (.ofInt value)
  else none

/-- An integer that fits 32 bits without a sign. -/
def uint32? (json : Json) : Option UInt32 := do
  let value ← json.integer?
  if 0 ≤ value ∧ value < UInt32.size then some (.ofNat value.toNat) else none

/-- An integer that fits 16 bits without a sign. -/
def uint16? (json : Json) : Option UInt16 := do
  let value ← json.integer?
  if 0 ≤ value ∧ value < UInt16.size then some (.ofNat value.toNat) else none

/-- The items of an array, each decoded. -/
def list? {α : Type} (decode : Json → Option α) : Json → Option (List α)
  | .array items => items.mapM decode
  | _ => none

/-- One of a list of names: a string with the name, or an object whose only member has the name
and the value null. -/
def choice? {α : Type} (choices : List (String × α)) : Json → Option α
  | .string name => choices.lookup name
  | .object [(name, .null)] => choices.lookup name
  | _ => none

/-- A member that is left out when it has no value. -/
def omitNone {α : Type} (name : String) (encode : α → Json) : Option α → List (String × Json)
  | none => []
  | some value => [(name, encode value)]

/-- A text as a document, or null. -/
def ofOption {α : Type} (encode : α → Json) : Option α → Json
  | none => .null
  | some value => encode value

/-- A natural number as a document. -/
def ofNat (value : Nat) : Json := .number (.integer value)

end Json

end FlowGate
