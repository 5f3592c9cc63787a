import FlowGate.Http.Route
import FlowGate.Server.Waiting

/-!
# Routing

The routes of the server: the health check, the interface for workflows and the waiting executions
under their prefix. `Server.handle` answers any request.
-/

namespace FlowGate.Server

/-- What a route leads to. -/
inductive Endpoint where
  | health
  | workflow (action : WorkflowAction)
  | waiting
  deriving DecidableEq

/-- The route of an action on a workflow. -/
def actionRoute (action : WorkflowAction) : Http.Route Endpoint :=
  ⟨[.literal "api", .literal "v1", .literal "workflows", .parameter "" "id",
    .literal action.segment], .workflow action⟩

/-- The patterns of waiting executions under a prefix, as they are written. -/
def waitingPatterns (routePrefix : String) : List String :=
  let base := routePrefix ++ "/\x7bexecution_id\x7d"
  [base, base ++ "/\x7bsuffix\x7d"]

/-- The routes of waiting executions under a prefix; none if it does not begin a pattern. -/
def waitingRoutes (routePrefix : String) : List (Http.Route Endpoint) :=
  (waitingPatterns routePrefix).filterMap fun text ↦
    (Http.Pattern.parse? text).map fun pattern ↦ ⟨pattern, .waiting⟩

/-- The routes of a server. -/
def routes (server : Server) : List (Http.Route Endpoint) :=
  waitingRoutes server.routePrefix ++ WorkflowAction.all.map actionRoute ++
    [⟨[.literal "health"], .health⟩]

/-- The version that the health check reports. -/
def version : String := "0.1.0"

/-- Answers a health check. -/
def answerHealth (request : Http.Request) : Http.Response :=
  if request.method = "GET" ∨ request.method = "HEAD" then
    .json 200 (.object [("status", .string "ok"), ("version", .string version)])
  else .methodNotAllowed "GET,HEAD"

/-- Answers a request on one of the routes. -/
def answerAt (server : Server) (arrival : Arrival) (request : Http.Request) (endpoint : Endpoint)
    (parameters : Http.Parameters) : StateM Stores Http.Response :=
  match endpoint with
  | .health => return answerHealth request
  | .workflow action => answerAction action arrival request parameters
  | .waiting => answerWaiting server arrival request parameters

/-- Answers a request. The answer to the method HEAD, written like this, has no body. -/
def handle (server : Server) (arrival : Arrival) (request : Http.Request) :
    StateM Stores Http.Response :=
  match Http.findRoute? server.routes request.target.path with
  | none => return .empty 404
  | some (endpoint, parameters) => do
      let response ← server.answerAt arrival request endpoint parameters
      return if request.method = "HEAD" then response.withoutBody else response

end FlowGate.Server
