import FlowGate.Http.Method
import FlowGate.Json.Value

/-!
# Webhook calls

A `WebhookCall` is an incoming call on the route of a waiting execution, and a `WebhookResponse`
the engine's answer to it. A `WebhookDescriptor` is a webhook that a node offers.
-/

namespace FlowGate

/-- A call on the route of a waiting execution. -/
@[ext]
structure WebhookCall where
  method : Method
  executionId : String
  /-- The part of the path after the execution id. -/
  suffix : Option String
  /-- The path as it was received. -/
  path : String
  /-- The headers by their names in small letters. -/
  headers : Table String
  query : Table String
  body : Value

/-- The value of a header, by its name in any case. -/
def WebhookCall.header? (call : WebhookCall) (name : String) : Option String :=
  call.headers.get? (Text.lowercase name)

/-- The engine's answer to a call. -/
@[ext]
structure WebhookResponse where
  status : UInt16
  headers : List (String × String)
  body : Option Value

namespace WebhookResponse

/-- A successful answer with a body. -/
def ofValue (body : Value) : WebhookResponse := ⟨200, [], some body⟩

/-- An answer without a body. -/
def ofStatus (status : UInt16) : WebhookResponse := ⟨status, [], none⟩

/-- Reads a header: an array of its name and its value. -/
def headerOfJson? : Json → Option (String × String)
  | .array [.string name, .string value] => some (name, value)
  | _ => none

/-- Reads an answer. -/
def ofJson? (json : Json) : Option WebhookResponse := do
  let field ← json.record? ["status", "headers", "body"]
  let status ← Json.required Json.uint16? (field "status")
  let headers ← Json.withDefault [] (Json.list? headerOfJson?) (field "headers")
  let body ← Json.optional Json.toValue? (field "body")
  return ⟨status, headers, body⟩

/-- An answer as a document. -/
def toJson (response : WebhookResponse) : Json :=
  .object <|
    [("status", .ofNat response.status.toNat),
      ("headers", .array (response.headers.map fun header ↦
        .array [.string header.1, .string header.2]))] ++
    Json.omitNone "body" Value.json response.body

end WebhookResponse

/-- A webhook that a node offers. -/
@[ext]
structure WebhookDescriptor where
  method : Method
  /-- The part of the path after the execution id; empty when there is none. -/
  path : String
  /-- The name of the node. -/
  node : String
  /-- Whether a call resumes the execution. -/
  isRestart : Bool
  deriving DecidableEq

/-- The names of methods in stored webhooks. -/
def Method.choices : List (String × Method) := all.map fun method ↦ (method.name, method)

namespace WebhookDescriptor

/-- Reads a webhook. -/
def ofJson? (json : Json) : Option WebhookDescriptor := do
  let field ← json.record? ["http_method", "path", "node", "restart_webhook"]
  let method ← Json.required (Json.choice? Method.choices) (field "http_method")
  let path ← Json.required Json.string? (field "path")
  let node ← Json.required Json.string? (field "node")
  let isRestart ← Json.required Json.bool? (field "restart_webhook")
  return ⟨method, path, node, isRestart⟩

/-- A webhook as a document. -/
def toJson (webhook : WebhookDescriptor) : Json :=
  .object [("http_method", .string webhook.method.name), ("path", .string webhook.path),
    ("node", .string webhook.node), ("restart_webhook", .bool webhook.isRestart)]

end WebhookDescriptor

end FlowGate
