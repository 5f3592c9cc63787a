import FlowGate.Proofs.Resume.PathReadings
import FlowGate.Proofs.Server.Preflight

/-!
# The methods that an answer names

Every answer on the route of waiting executions to an understood request names the methods that the
service finds for the path of the request. `readings_alike_iff` says for which ids and suffixes this
path is read like a call with the two, and that the answer then names the methods of the execution
that the request is addressed to. `encoded_slash_names_another_execution` is a request for which the
two readings part.
-/

namespace FlowGate

namespace Cors

/-- The values of the header that lists methods: one, unless there are none to be listed. -/
def methodLines (methods : List Method) : List String :=
  if methods.isEmpty then [] else [methodList methods]

/-- A list of methods can be sent. -/
theorem isValueText_methodList (methods : List Method) :
    HeaderList.isValueText (methodList methods) = true := by
  -- names of methods and the text between them are plain letters, commas and blanks
  have hnames : ∀ name ∈ methods.map Method.name, HeaderList.isValueText name = true := by
    rw [List.forall_mem_map]
    intro method _
    cases method <;> decide
  rw [methodList, HeaderList.isValueText_append,
    HeaderList.isValueText_intercalate (by decide) hnames]
  decide

/-- The headers for a request list the methods of the route. -/
theorem valuesOf_allowMethods (request : Request) (policy : Policy) :
    (applyHeaders request policy .empty).valuesOf allowMethodsHeader =
      methodLines policy.allowedMethods := by
  rw [valuesOf_applyHeaders_eq_plain (by decide) (by decide)]
  simp only [applyHeaders, Bool.false_eq_true, if_false, methodLines]
  rw [HeaderList.valuesOf_set_of_ne (by decide)]
  split
  · rfl
  · exact HeaderList.valuesOf_set_of_absent rfl _

end Cors

namespace Http.Response

variable {response : Response}

/-- What a response says about the methods of its route. -/
def allowedMethods (response : Response) : List String :=
  response.headers.valuesOf Cors.allowMethodsHeader

theorem allowedMethods_json (status : UInt16) (content : Json) :
    (json status content).allowedMethods = [] :=
  HeaderList.valuesOf_set_of_ne (by decide) .empty _

/-- A response that is silent about methods lists those of the added headers for a request. -/
theorem allowedMethods_withHeaders {source : Cors.Request} {policy : Cors.Policy}
    (hsilent : response.allowedMethods = []) :
    (response.withHeaders (Cors.applyHeaders source policy .empty)).allowedMethods =
      Cors.methodLines policy.allowedMethods := by
  have hvalues := Cors.valuesOf_allowMethods source policy
  cases hmethods : policy.allowedMethods with
  | nil =>
      rw [hmethods] at hvalues
      exact (HeaderList.valuesOf_copyOnto_of_absent hvalues response.headers).trans hsilent
  | cons method methods =>
      rw [hmethods] at hvalues
      exact HeaderList.valuesOf_copyOnto hvalues (Cors.isValueText_methodList _) hsilent

end Http.Response

namespace Server

variable {server : Server} {arrival : Arrival} {request : Http.Request} {stores : Stores}
  {parameters : Http.Parameters} {id : String} {suffix : Option String}

/-- A response that is silent about methods names those with whose headers it is sent. -/
theorem allowedMethods_waitingHeaders {response : Http.Response}
    (hsilent : response.allowedMethods = []) (source : Cors.Request) (methods : List Method) :
    (response.withHeaders (waitingHeaders source methods)).allowedMethods =
      Cors.methodLines methods :=
  Http.Response.allowedMethods_withHeaders hsilent

/-- Every answer to a call with a known method names the methods of its path: to a preflight, of the
engine, and that the call is refused. -/
theorem answerCall_allowedMethods (method : Method) (id : String) (suffix : Option String) :
    ((server.answerCall arrival request method id suffix).run stores).1.allowedMethods =
      Cors.methodLines (server.namedMethods arrival stores id suffix) := by
  rw [run_answerCall]
  split
  · exact allowedMethods_waitingHeaders rfl _ _
  rw [WaitingWebhooks.waiting_execute]
  rcases hrun : ((WaitingWebhooks.bundled (fun _ node ↦ WebhookCatalog.webhooks node)
      server.signer server.routePrefix arrival.now).execute
        (webhookCall request method id suffix)).run stores.executions with ⟨error | answer, after⟩
  · exact allowedMethods_waitingHeaders (Http.Response.allowedMethods_json ..) _ _
  · rw [WaitingWebhooks.answer_eq_started hrun]
    exact allowedMethods_waitingHeaders (Http.Response.allowedMethods_json ..) _ _

/-- So does every answer on the route of waiting executions to a request that is understood. -/
theorem handle_allowedMethods
    (hroute : Http.findRoute? server.routes request.target.path = some (.waiting, parameters))
    (hread : Http.readParameters "execution_id" "suffix" parameters = .ok (id, suffix))
    (hknown : Understood .waiting parameters request) :
    ((server.handle arrival request).run stores).1.allowedMethods =
      Cors.methodLines (server.namedMethods arrival stores id suffix) := by
  obtain ⟨method, hmethod⟩ := hknown.method
  rw [Http.Response.allowedMethods, handle_headers hroute]
  simp only [answerAt, answerWaiting, hread, hmethod, if_neg (hknown.body rfl)]
  exact answerCall_allowedMethods method id suffix

theorem webhookPath_eq (id : String) (suffix : Option String) :
    webhookPath id suffix = FlowGate.webhookPath id suffix := by
  cases suffix <;> rfl

/-- A service reads the path of an id and a suffix as it reads a call with the two exactly if the id
is one segment and the suffix does not end with a slash. Every answer to an understood request with
such an id and suffix names the methods of the execution with this id, on this suffix. -/
theorem readings_alike_iff (id : String) (suffix : Option String) :
    (WaitingWebhooks.ReadsAlike id suffix ↔
      id ≠ "" ∧ '/' ∉ id.toList ∧ (suffix.getD "").toList.getLast? ≠ some '/') ∧
    ∀ (server : Server) (arrival : Arrival) (request : Http.Request) (stores : Stores)
      (parameters : Http.Parameters),
      Http.findRoute? server.routes request.target.path = some (.waiting, parameters) →
      Http.readParameters "execution_id" "suffix" parameters = .ok (id, suffix) →
      Understood .waiting parameters request → WaitingWebhooks.ReadsAlike id suffix →
      ((server.handle arrival request).run stores).1.allowedMethods =
        Cors.methodLines (FlowGate.advertisedMethods (fun _ node ↦ WebhookCatalog.webhooks node)
          suffix (.ok (stores.executions.get? id))) := by
  refine ⟨WaitingWebhooks.readsAlike_iff, ?_⟩
  intro server arrival request stores parameters hroute hread hknown halike
  have hnamed : server.namedMethods arrival stores id suffix =
      FlowGate.advertisedMethods (fun _ node ↦ WebhookCatalog.webhooks node) suffix
        (.ok (stores.executions.get? id)) := by
    rw [namedMethods, webhookPath_eq]
    exact halike.named_eq (server.waiting arrival.now) stores
  rw [handle_allowedMethods hroute hread hknown, hnamed]

/-- A wait node that is resumed by GET requests on one suffix. -/
def suffixedWait (suffix : String) : Node :=
  { Node.plain "Wait" WebhookCatalog.waitNodeType with
    parameters := .singleton "options" (.object (.singleton "webhookSuffix" (.string suffix))) }

/-- A preflight on the suffix of one of two executions names the method with which this one waits,
and none of the other, which waits with a form on the bare path. -/
theorem preflight_names_addressed_execution :
    let server : Server := ⟨⟨(· ++ "!"), fun _ _ ↦ false⟩, "webhook-waiting"⟩
    let form : Node := { Node.plain "Wait" WebhookCatalog.waitNodeType with
      parameters := .singleton "resume" (.string "form") }
    let stores : Stores := { Stores.empty with
      executions := (ExecutionStore.put .empty (.waitingIn "7" (suffixedWait "approve"))).put
        (.waitingIn "8" form) }
    let request : Http.Request := ⟨"OPTIONS", .parse "/webhook-waiting/7/approve", [], []⟩
    WaitingWebhooks.ReadsAlike "7" (some "approve") ∧
      ((server.handle ⟨0, "", "", "", 0⟩ request).run stores).1.allowedMethods =
        ["OPTIONS, GET"] := by
  intro server form stores request
  have hroute : Http.findRoute? server.routes request.target.path =
      some (.waiting, [("execution_id", "7"), ("suffix", "approve")]) := by decide
  have hknown : Understood .waiting [("execution_id", "7"), ("suffix", "approve")] request :=
    ⟨⟨.options, Method.parse_name .options⟩, fun _ ↦ ⟨("7", some "approve"), rfl⟩,
      fun _ ↦ by decide⟩
  obtain ⟨halike, hnamed⟩ := readings_alike_iff "7" (some "approve")
  have hreads : WaitingWebhooks.ReadsAlike "7" (some "approve") :=
    halike.2 ⟨by decide, by decide, by decide⟩
  refine ⟨hreads, ?_⟩
  rw [hnamed server ⟨0, "", "", "", 0⟩ request stores _ hroute rfl hknown hreads]
  decide +kernel

/-- A request for the execution `a/b`, which does not exist, with its slash encoded: the preflight
names the method with which the execution `a` waits on the suffix `b`, and the call is refused. -/
theorem encoded_slash_names_another_execution :
    let server : Server := ⟨⟨(· ++ "!"), fun _ _ ↦ false⟩, "webhook-waiting"⟩
    let stores : Stores := { Stores.empty with
      executions := .put .empty (.waitingIn "a" (suffixedWait "b")) }
    let answer (method : String) : Http.Response :=
      ((server.handle ⟨0, "", "", "", 0⟩
        ⟨method, .parse "/webhook-waiting/a%2Fb", [], []⟩).run stores).1
    Http.findRoute? server.routes "/webhook-waiting/a%2Fb" =
        some (.waiting, [("execution_id", "a%2Fb")]) ∧
      Http.readParameters "execution_id" "suffix" [("execution_id", "a%2Fb")] =
        .ok ("a/b", none) ∧
      stores.executions.get? "a/b" = none ∧
      (answer "OPTIONS").allowedMethods = ["OPTIONS, GET"] ∧ (answer "GET").status = 404 ∧
      ¬ WaitingWebhooks.ReadsAlike "a/b" none := by
  intro server stores answer
  exact ⟨by decide, by decide, rfl, by decide +kernel, by decide +kernel,
    fun h ↦ (WaitingWebhooks.readsAlike_iff.1 h).2.1 (by decide)⟩

end Server

end FlowGate
