import FlowGate.Cors.Policy
import FlowGate.Resume.Catalog
import FlowGate.Resume.Token
import FlowGate.Store.Basic

/-!
# Waiting webhooks

A call on `/<prefix>/<execution id>[/<suffix>]` resumes a waiting execution. `resolveCall` decides
on a call from the stored execution alone: it checks the token, the state of the execution, its
node and the node's webhooks, in this order, and prepares the execution so that it goes on behind
the node. A `WebhookError` says why a call was refused. `WaitingWebhooks.execute` looks the
execution up, resolves the call and hands it to the engine. Nothing here locks the execution: that
only one call resumes it is up to the engine.
-/

namespace FlowGate

/-- A refused call. -/
inductive WebhookError where
  /-- The execution, its node or a webhook for the call does not exist. -/
  | notFound (text : String)
  /-- The execution cannot be resumed in its state. -/
  | conflict (text : String)
  /-- The token is missing or invalid. -/
  | unauthorized (text : String)
  /-- A store could not answer. -/
  | repository (error : RepositoryError)
  /-- The call could not be carried out. -/
  | internal (text : String)
  deriving DecidableEq

/-- The text of the error. -/
def WebhookError.message : WebhookError → String
  | .notFound text => text
  | .conflict text => text
  | .unauthorized text => text
  | .repository error => s!"repository error: {error.message}"
  | .internal text => s!"internal error: {text}"

/-- What the engine needs to resume an execution. -/
@[ext]
structure Resumption where
  /-- The execution, prepared to go on behind the node. -/
  execution : Execution
  workflow : Workflow
  /-- The node the execution was waiting in. -/
  node : Node
  /-- The webhook that matched the call. -/
  webhook : WebhookDescriptor
  call : WebhookCall

/-- The runs of a resumed node without the last one. If that had a frozen input, a run without
times takes its place. -/
def Run.reopen (runs : List Run) : List Run :=
  match runs.getLast? with
  | none => runs
  | some last =>
      runs.dropLast ++
        (last.inputOverride.map (Run.placeholder last.source last.executionIndex)).toList

/-- The first entry of a stack with its node disabled, so that it does not wait again. The output
of a tool that waits for a human is logged as that of a tool. -/
def StackEntry.release (nodeType : String) : List StackEntry → List StackEntry
  | [] => []
  | entry :: rest =>
      let rewire := if isHumanToolType nodeType then some .aiTool else entry.node.rewireOutputLogTo
      { entry with node := { entry.node with disabled := true, rewireOutputLogTo := rewire } } ::
        rest

namespace Execution

/-- The execution, changed so that the engine goes on behind a node. -/
def prepareForResume (execution : Execution) (node : Node) : Execution :=
  let results := execution.data.resultData
  { execution with
    data := { execution.data with
      waitTill := none
      nodeStack := execution.data.nodeStack.map (StackEntry.release node.type)
      resultData := { results with runData := results.runData.modify node.name Run.reopen } } }

/-- Refuses an execution that cannot be resumed in its state. -/
def ensureResumable (execution : Execution) : Except WebhookError Unit :=
  if execution.status = .running then
    .error (.conflict s!"The execution \"{execution.id}\" is running already.")
  else if execution.data.resultData.error.isSome then
    .error (.conflict s!"The execution \"{execution.id}\" has finished with error.")
  else if execution.finished ∨ execution.status.isTerminal then
    .error (.conflict s!"The execution \"{execution.id}\" has finished already.")
  else if execution.status ≠ .waiting then
    .error (.conflict s!"The execution \"{execution.id}\" is not waiting.")
  else .ok ()

end Execution

/-- A way to find the webhooks that a node of a workflow offers. -/
abbrev NodeWebhooks := Workflow → Node → List WebhookDescriptor

/-- The first webhook that resumes an execution for a method and a path suffix. -/
def findRestart? (webhooks : List WebhookDescriptor) (method : Method) (suffix : Option String) :
    Option WebhookDescriptor :=
  webhooks.find? fun webhook ↦
    webhook.isRestart && webhook.method = method && webhook.path = suffix.getD ""

/-- The methods that resume an execution for a path suffix, each once, in order. -/
def restartMethods (webhooks : List WebhookDescriptor) (suffix : Option String) : List Method :=
  webhooks.foldl
    (fun methods webhook ↦
      if webhook.isRestart && webhook.path = suffix.getD "" && webhook.method ∉ methods then
        methods ++ [webhook.method]
      else methods)
    []

/-- Whether a call carries a valid token for its host and path. -/
def UrlSigner.accepts (signer : UrlSigner) (call : WebhookCall) : Bool :=
  match call.query.get? tokenParameter, call.effectiveHost? with
  | some token, some host => token ≠ "" && signer.verify (signedText host call.path) token
  | _, _ => false

/-- Decides on a call from the result of looking its execution up. -/
def resolveCall (webhooks : NodeWebhooks) (signer : UrlSigner) (call : WebhookCall)
    (found : Except RepositoryError (Option Execution)) : Except WebhookError Resumption := do
  let execution ← match found with
    | .error error => .error (.repository error)
    | .ok none => .error (.notFound s!"The execution \"{call.executionId}\" does not exist.")
    | .ok (some execution) => .ok execution
  if execution.data.validateSignature && !signer.accepts call then
    .error (.unauthorized "Invalid or missing resume token")
  execution.ensureResumable
  let nodeName ← match execution.data.resultData.lastNodeExecuted with
    | none =>
        .error (.notFound s!"The execution \"{call.executionId}\" has no node to resume from.")
    | some nodeName => .ok nodeName
  let workflow := Workflow.ofSnapshot execution.workflowData
  let node ← match workflow.node? nodeName with
    | none =>
        .error (.notFound <| s!"The node \"{nodeName}\" of execution \"{call.executionId}\" " ++
          "does not exist in its workflow.")
    | some node => .ok node
  let webhook ← match findRestart? (webhooks workflow node) call.method call.suffix with
    | none =>
        .error (.notFound <| s!"The execution \"{call.executionId}\" is not waiting for a " ++
          s!"{call.method.name} request on this path.")
    | some webhook => .ok webhook
  return ⟨execution.prepareForResume node, workflow, node, webhook, call⟩

/-- The execution id and the path suffix of a webhook path, without slashes around it. -/
def splitWebhookPath? (path : String) : Option (String × Option String) :=
  let path := Text.trimSlashes path
  if path = "" then none
  else
    match Text.splitOnce? '/' path with
    | some (id, suffix) => some (id, some suffix)
    | none => some (path, none)

/-- The methods with which an execution can be resumed on a path suffix, judged from the result of
looking it up; none when its state is not one to resume from. -/
def advertisedMethods (webhooks : NodeWebhooks) (suffix : Option String)
    (found : Except RepositoryError (Option Execution)) : List Method :=
  match found with
  | .ok (some execution) =>
      if execution.finished || execution.status.isTerminal || execution.status = .running then []
      else
        let workflow := Workflow.ofSnapshot execution.workflowData
        match execution.data.resultData.lastNodeExecuted.bind workflow.node? with
        | none => []
        | some node => restartMethods (webhooks workflow node) suffix
  | _ => []

/-- The service that resumes waiting executions, over an execution store and an engine. -/
structure WaitingWebhooks (m : Type → Type) where
  /-- Looks an execution up. -/
  findExecution : String → m (Except RepositoryError (Option Execution))
  /-- The webhooks of the nodes. -/
  webhooks : NodeWebhooks
  /-- Hands an execution to the engine. The engine may finish without an answer. -/
  resume : Resumption → m (Except WebhookError (Option WebhookResponse))
  signer : UrlSigner
  /-- The first segment of the paths of waiting executions. -/
  routePrefix : String

namespace WaitingWebhooks

variable {m : Type → Type} [Monad m]

/-- The answer of the engine to the caller. -/
def relay : Except WebhookError (Option WebhookResponse) → Except WebhookError WebhookResponse
  | .error error => .error error
  | .ok (some response) => .ok response
  | .ok none => .error (.internal "execution engine finished without responding")

/-- Resumes the execution that a call is addressed to. -/
def execute (service : WaitingWebhooks m) (call : WebhookCall) :
    m (Except WebhookError WebhookResponse) := do
  let found ← service.findExecution call.executionId
  match resolveCall service.webhooks service.signer call found with
  | .error error => return .error error
  | .ok resumption => return relay (← service.resume resumption)

/-- The methods with which the execution of a webhook path can be resumed. -/
def methods (service : WaitingWebhooks m) (path : String) : m (List Method) := do
  match splitWebhookPath? path with
  | none => return []
  | some (id, suffix) =>
      return advertisedMethods service.webhooks suffix (← service.findExecution id)

/-- The origin policy of every webhook path: any origin. -/
def accessControl : Cors.AccessControl := ⟨some Cors.anyOrigin⟩

/-- The path under which an execution is resumed, behind the path of a base URL. -/
def resumePath (routePrefix basePath executionId : String) (suffix : Option String) : String :=
  let path := s!"{basePath}/{routePrefix}/{executionId}"
  match (suffix.map Text.trimSlashes).filter (· ≠ "") with
  | some suffix => path ++ "/" ++ suffix
  | none => path

/-- A signed URL that resumes an execution. -/
def resumeUrl (service : WaitingWebhooks m) (baseUrl executionId : String)
    (suffix : Option String) : Except WebhookError String :=
  match splitBaseUrl? baseUrl with
  | none => .error (.internal s!"invalid base URL: '{baseUrl}'")
  | some (scheme, host, basePath) =>
      let path := resumePath service.routePrefix basePath executionId suffix
      let token := service.signer.sign (signedText host path)
      .ok s!"{scheme}://{host}{path}?{tokenParameter}={token}"

end WaitingWebhooks

end FlowGate
