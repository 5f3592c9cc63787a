import FlowGate.Resume.Engine
import FlowGate.Server.ConfigFile
import FlowGate.Server.Failure
import FlowGate.Server.Seed

/-!
# The server

A `Server` is what the configuration fixes: the signer and the route prefix. Its stores are the
state that requests work on. `Server.waiting` is the service that resumes executions and
`Server.triggers` the one that checks triggers, both over the stores.
-/

namespace FlowGate

/-- What the configuration of a server fixes. -/
structure Server where
  signer : UrlSigner
  /-- The pattern that the paths of waiting executions begin with, without slashes around it. -/
  routePrefix : String

/-- What a request meets besides the stores: the clock and names that nothing has yet. -/
structure Arrival where
  /-- The time in milliseconds since 1970. -/
  now : Int64
  /-- The time as a text. -/
  timestamp : String
  /-- The id of the request. -/
  requestId : String
  /-- The id of a version, should one be published. -/
  versionId : String
  /-- The milliseconds the answer takes. -/
  elapsed : UInt64

/-- The notes on a successful answer. -/
def Arrival.notes (arrival : Arrival) : AnswerNotes :=
  ⟨arrival.requestId, arrival.timestamp, arrival.elapsed⟩

/-- A piece of work on the stores that ends with an answer or a failure. -/
abbrev Handler := ExceptT Failure (StateM Stores)

namespace Server

/-- The server of a configuration. Without a configured secret it uses one that nobody knows. -/
def ofConfig (config : Config) (unknownSecret : List UInt8) : Except SignerError Server := do
  let secret := (config.webhooks.signatureSecret.map Text.Utf8.encode).getD unknownSecret
  let signer ← UrlSigner.hmac? secret
  return ⟨signer, Text.trimSlashes config.webhooks.waitingPrefix⟩

/-- The service that resumes executions, with the bundled engine. -/
def waiting (server : Server) (now : Int64) : WaitingWebhooks (StateM Stores) where
  findExecution id := do return .ok ((← get).executions.get? id)
  webhooks _ node := WebhookCatalog.webhooks node
  resume resumption := modifyGet fun stores ↦
    let (answer, executions) := (Engine.resume now resumption).run stores.executions
    (answer, { stores with executions })
  signer := server.signer
  routePrefix := server.routePrefix

/-- The service that checks triggers. -/
def triggers : TriggerValidation (StateM Stores) where
  registry := .defaults
  find filter := do return .ok ((← get).workflows.find filter)
  listActive := do return .ok (← get).active.ids

end Server

namespace Stores

/-- The workflow with an id. -/
def workflow (stores : Stores) (id : String) : Except Failure Workflow :=
  match stores.workflows.get? id with
  | some workflow => .ok workflow
  | none => .error (.notFound s!"Workflow '{id}' not found")

/-- Publishes a version of a workflow, or withdraws it. -/
def publish (stores : Stores) (id : String) (version : Option String) : Except Failure Stores :=
  match stores.workflows.setActiveVersion id version with
  | .ok (_, workflows) => .ok { stores with workflows }
  | .error error => .error (.internal error.message)

/-- Notes that the triggers of a workflow are live. -/
def register (stores : Stores) (id : String) : Stores :=
  { stores with active := (stores.active.add id).2 }

/-- Notes that the triggers of a workflow are not live. -/
def unregister (stores : Stores) (id : String) : Stores :=
  { stores with active := (stores.active.remove id).2 }

end Stores

end FlowGate
