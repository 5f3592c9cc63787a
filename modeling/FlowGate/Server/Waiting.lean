import FlowGate.Json.Reader
import FlowGate.Server.Workflows

/-!
# The routes of waiting executions

A request on the route of a waiting execution resumes it. A preflight is answered with the methods
that would; it does not resume anything. Every answer to a known method has the headers for other
origins.
-/

namespace FlowGate.Server

/-- The content of a body: null for none, a document if it is one, and else its text. -/
def readContent (body : List UInt8) : Value :=
  if body.isEmpty then .null
  else
    match (Json.readBytes? body).bind Json.toValue? with
    | some value => value
    | none => .string (Text.Utf8.decodeLossy body)

/-- The readable headers of a request by their names in small letters; of several with one name the
last one counts. -/
def readableHeaders (headers : List (String × String)) : Table String :=
  .ofList ((headers.filter fun line ↦ HeaderList.isReadable line.2).map fun line ↦
    (Text.lowercase line.1, line.2))

/-- The call on a waiting execution that a request makes. -/
def webhookCall (request : Http.Request) (method : Method) (id : String)
    (suffix : Option String) : WebhookCall where
  method := method
  executionId := id
  suffix := suffix
  path := request.target.path
  headers := readableHeaders request.headers
  query := .ofList (Text.Percent.formPairs request.target.query)
  body := readContent request.body

/-- The path of a waiting execution behind the prefix. -/
def webhookPath (id : String) : Option String → String
  | some suffix => s!"{id}/{suffix}"
  | none => id

/-- `isHeaderName name` says `name` can be the name of a header. -/
def isHeaderName (name : String) : Bool :=
  name ≠ "" && name.toList.all fun c ↦ c.isAlphanum || c ∈ "!#$%&'*+-.^_`|~".toList

/-- The answer of the engine as a response; headers that cannot be sent are left out. -/
def ofWebhookResponse (answer : WebhookResponse) : Http.Response :=
  let status := if 100 ≤ answer.status ∧ answer.status < 1000 then answer.status else 500
  let response : Http.Response := match answer.body with
    | some body => .json status body.json
    | none => .empty status
  let headers := (answer.headers.filter fun header ↦ isHeaderName header.1).map fun header ↦
    (Text.lowercase header.1, header.2)
  response.withHeaders ⟨headers⟩

/-- The headers for other origins on the route of a waiting execution. -/
def waitingHeaders (source : Cors.Request) (methods : List Method) : HeaderList :=
  Cors.applyHeaders source
    ⟨methods, some WaitingWebhooks.accessControl, source.isPreflight, source.requestedMethod⟩ .empty

/-- Answers a request with a known method on a waiting execution. -/
def answerCall (server : Server) (arrival : Arrival) (request : Http.Request) (method : Method)
    (id : String) (suffix : Option String) : StateM Stores Http.Response := do
  let service := server.waiting arrival.now
  let methods ← service.methods (webhookPath id suffix)
  let headers := waitingHeaders (originRequest request method) methods
  if method = .options then return (Http.Response.empty 204).withHeaders headers
  match ← service.execute (webhookCall request method id suffix) with
  | .ok answer => return (ofWebhookResponse answer).withHeaders headers
  | .error error =>
      let failure := Failure.webhook error
      return (failure.response arrival.requestId arrival.timestamp).withHeaders headers

/-- Answers a request on the route of a waiting execution. -/
def answerWaiting (server : Server) (arrival : Arrival) (request : Http.Request)
    (parameters : Http.Parameters) : StateM Stores Http.Response :=
  match Http.readParameters "execution_id" "suffix" parameters with
  | .error error => return .text 400 error.message
  | .ok (id, suffix) =>
      if request.isTooLarge then return .tooLarge
      else
        match Method.parse request.method with
        | .error _ =>
            let failure := Failure.methodNotAllowed s!"method {request.method} is not supported"
            return failure.response arrival.requestId arrival.timestamp
        | .ok method => answerCall server arrival request method id suffix

end FlowGate.Server
