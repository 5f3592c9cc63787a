import FlowGate.Json.Value

/-!
# Envelopes

The answers of the interface for workflows have one form: the data, notes on the answer itself,
the errors if there are some, and links if there are some.
-/

namespace FlowGate

/-- Notes on an answer. -/
@[ext]
structure AnswerNotes where
  requestId : String
  /-- When the answer was made. -/
  timestamp : String
  /-- The milliseconds it took. -/
  elapsed : UInt64
  deriving DecidableEq

/-- One error of an answer. -/
@[ext]
structure ErrorDetail where
  /-- The kind of the error, for programs. -/
  code : String
  message : String
  details : Option Value

/-- An answer. -/
@[ext]
structure Envelope where
  data : Option Value
  notes : AnswerNotes
  errors : List ErrorDetail
  /-- Related addresses by their relation. -/
  links : Table String

/-- The notes as a document. -/
def AnswerNotes.toJson (notes : AnswerNotes) : Json :=
  .object [("request_id", .string notes.requestId), ("timestamp", .string notes.timestamp),
    ("response_time_ms", .ofNat notes.elapsed.toNat)]

/-- An error as a document. -/
def ErrorDetail.toJson (error : ErrorDetail) : Json :=
  .object <|
    [("code", .string error.code), ("message", .string error.message)] ++
    Json.omitNone "details" Value.json error.details

namespace Envelope

/-- An answer with data. -/
def success (data : Value) (notes : AnswerNotes) : Envelope := ⟨some data, notes, [], .empty⟩

/-- An answer with an error; it does not say how long it took. -/
def failure (error : ErrorDetail) (requestId timestamp : String) : Envelope :=
  ⟨none, ⟨requestId, timestamp, 0⟩, [error], .empty⟩

/-- An answer with one more link. -/
def withLink (envelope : Envelope) (relation address : String) : Envelope :=
  { envelope with links := envelope.links.insert relation address }

/-- An answer as a document. -/
def toJson (envelope : Envelope) : Json :=
  .object <|
    [("data", Json.ofOption Value.json envelope.data), ("meta", envelope.notes.toJson)] ++
    (if envelope.errors.isEmpty then []
      else [("errors", .array (envelope.errors.map ErrorDetail.toJson))]) ++
    (if envelope.links.isEmpty then [] else [("_links", Json.ofTable .string envelope.links)])

end Envelope

end FlowGate
