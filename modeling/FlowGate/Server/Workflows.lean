import FlowGate.Http.Route
import FlowGate.Json.Reader
import FlowGate.Server.Basic

/-!
# The interface for workflows

Activating and deactivating a workflow and checking a test run. Each handler checks everything
before it changes a store, so a refused request leaves the stores as they are. `answer` adds the
headers for other origins to every answer of a known method.
-/

namespace FlowGate.Server

/-- The result of a check of triggers as a handler. -/
def check (result : StateM Stores (Except TriggerError Unit)) : Handler Unit :=
  ExceptT.adapt Failure.trigger (ExceptT.mk result)

/-- The answer to an activation. -/
def activated (arrival : Arrival) (id : String) : Envelope :=
  let data := Value.object <| .ofList
    [("workflow_id", .string id), ("active", .bool true),
      ("active_version_id", .string arrival.versionId)]
  (Envelope.success data arrival.notes).withLink "deactivate" s!"/api/v1/workflows/{id}/deactivate"

/-- Activates a workflow. -/
def activate (arrival : Arrival) (id : String) : Handler Envelope := do
  let workflow ← MonadExcept.ofExcept ((← get).workflow id)
  check (triggers.validateActivation workflow)
  set (← MonadExcept.ofExcept ((← get).publish id arrival.versionId))
  modify fun stores ↦ stores.register id
  return activated arrival id

/-- The answer to a deactivation. -/
def deactivated (arrival : Arrival) (id : String) : Envelope :=
  let data := Value.object (.ofList [("workflow_id", .string id), ("active", .bool false)])
  Envelope.success data arrival.notes

/-- Deactivates a workflow. -/
def deactivate (arrival : Arrival) (id : String) : Handler Envelope := do
  let _ ← MonadExcept.ofExcept ((← get).workflow id)
  set (← MonadExcept.ofExcept ((← get).publish id none))
  modify fun stores ↦ stores.unregister id
  return deactivated arrival id

/-- Reads the trigger that a test run starts from: none for an empty body or an absent field. -/
def readTrigger (body : List UInt8) : Except Failure (Option String) :=
  if body.isEmpty then .ok none
  else
    let trigger := do
      let field ← (← Json.readBytes? body).record? ["trigger_to_start_from"]
      Json.optional Json.string? (field "trigger_to_start_from")
    match trigger with
    | some trigger => .ok trigger
    | none => .error (.invalid "invalid request body: not a test run")

/-- The answer to an accepted test run. -/
def validated (arrival : Arrival) (id : String) (trigger : Option String) : Envelope :=
  let data := Value.object <| .ofList
    [("workflow_id", .string id), ("trigger_to_start_from", (trigger.map .string).getD .null),
      ("status", .string "validated")]
  Envelope.success data arrival.notes

/-- Checks whether a workflow can be tried out. -/
def testRun (arrival : Arrival) (id : String) (body : List UInt8) : Handler Envelope := do
  let trigger ← MonadExcept.ofExcept (readTrigger body)
  let workflow ← MonadExcept.ofExcept ((← get).workflow id)
  if let some name := trigger then
    if (workflow.node? name).isNone then
      throw (.invalid s!"Workflow '{id}' has no node named '{name}'")
  check (triggers.validateManualRun workflow workflow.isActive trigger)
  return validated arrival id trigger

/-- What can be asked about a workflow. -/
inductive WorkflowAction where
  | activate
  | deactivate
  | testRun
  deriving DecidableEq

namespace WorkflowAction

/-- The last segment of the path of an action. -/
def segment : WorkflowAction → String
  | .activate => "activate"
  | .deactivate => "deactivate"
  | .testRun => "test-run"

/-- Every action. -/
def all : List WorkflowAction := [.activate, .deactivate, .testRun]

/-- Whether an action reads the body of a request. -/
def readsBody : WorkflowAction → Bool
  | .activate | .deactivate => false
  | .testRun => true

/-- Carries out an action. -/
def run (action : WorkflowAction) (arrival : Arrival) (id : String) (body : List UInt8) :
    Handler Envelope :=
  match action with
  | .activate => Server.activate arrival id
  | .deactivate => Server.deactivate arrival id
  | .testRun => Server.testRun arrival id body

end WorkflowAction

/-- The parts of a request that decide its cross-origin headers. -/
def originRequest (request : Http.Request) (method : Method) : Cors.Request :=
  ⟨method, request.header? "origin", request.header? "access-control-request-method",
    request.header? "access-control-request-headers"⟩

/-- The methods that pages of other origins are told about. -/
def advertisedMethods : List Method := [.get, .post]

/-- Answers a preflight, and adds the headers for other origins to the answer of any other request
with a known method. -/
def withFallbackHeaders (request : Http.Request) (respond : StateM Stores Http.Response) :
    StateM Stores Http.Response :=
  match Method.parse request.method with
  | .error _ => respond
  | .ok method => do
      let source := originRequest request method
      let headers := Cors.applyFallbackHeaders source (some advertisedMethods) .empty
      let response ← if source.isPreflight then pure (.empty 204) else respond
      return response.withHeaders headers

/-- The result of a handler as a response. -/
def respond (arrival : Arrival) (handler : Handler Envelope) : StateM Stores Http.Response := do
  match ← handler.run with
  | .ok envelope => return .json 200 envelope.toJson
  | .error failure => return failure.response arrival.requestId arrival.timestamp

/-- Answers a request about a workflow. The route has the method POST only, written like this. -/
def answerAction (action : WorkflowAction) (arrival : Arrival) (request : Http.Request)
    (parameters : Http.Parameters) : StateM Stores Http.Response :=
  if request.method = "POST" then
    withFallbackHeaders request <|
      match Http.readParameters "id" none parameters with
      | .error error => pure (.text 400 error.message)
      | .ok (id, _) =>
          if action.readsBody && request.isTooLarge then pure .tooLarge
          else respond arrival (action.run arrival id request.body)
  else do
    let response ← withFallbackHeaders request (pure (.empty 405))
    return response.withHeader Http.Response.allowHeader "POST"

end FlowGate.Server
