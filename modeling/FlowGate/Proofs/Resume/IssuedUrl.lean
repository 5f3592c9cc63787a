import FlowGate.Proofs.Resume.Advertised
import FlowGate.Proofs.Resume.Bundled
import FlowGate.Proofs.Text.Hex

/-!
# Issued URLs are accepted

The URL that resumes an execution is put together from a base URL, and its token is checked on the
host and the path that a call reports. `UrlSigner.hmac_verify_sign` says a token passes the check
that was issued for the same text, `WebhookCatalog.webhooks_of_waitsFor` what a wait node offers,
and `issued_url_resumes` that a call as the URL asks for it resumes the execution.
-/

namespace FlowGate

namespace UrlSigner

variable {secret : List UInt8}

/-- A secret that is not empty gives a signer. -/
theorem hmac?_eq_ok (h : secret ≠ []) : hmac? secret = .ok (hmac secret) := if_neg h

/-- A token is accepted for the text that it was issued for. -/
theorem hmac_verify_sign (secret : List UInt8) (text : String) :
    (hmac secret).verify text ((hmac secret).sign text) = true := by
  simp only [hmac, Text.Hex.decode?_encode, decide_true]

/-- No token is empty. -/
theorem hmac_sign_ne_empty (secret : List UInt8) (text : String) :
    (hmac secret).sign text ≠ "" := by
  intro hempty
  have hdecoded := Text.Hex.decode?_encode (Hmac.digest secret (Text.Utf8.encode text))
  rw [show Text.Hex.encode (Hmac.digest secret (Text.Utf8.encode text)) = "" from hempty]
    at hdecoded
  -- an empty text is read as no bytes, but a code has 32
  have hlength := congrArg List.length (Option.some.inj hdecoded)
  rw [Hmac.length_digest] at hlength
  cases hlength

end UrlSigner

/-- `call.Presents host path token` says the call was addressed to the host on the path and carries
the token. -/
structure WebhookCall.Presents (call : WebhookCall) (host path token : String) : Prop where
  host : call.effectiveHost? = some host
  path : call.path = path
  token : call.query.get? tokenParameter = some token

/-- A call that presents the token issued for its host and path is accepted. -/
theorem UrlSigner.hmac_accepts {secret : List UInt8} {call : WebhookCall} {host path : String}
    (h : call.Presents host path ((hmac secret).sign (signedText host path))) :
    (hmac secret).accepts call = true := by
  simp only [accepts, h.token, h.host, h.path, hmac_verify_sign, Bool.and_true, decide_eq_true_eq,
    ne_eq]
  exact hmac_sign_ne_empty secret _

/-- A call without a forwarded host is addressed to the one in its host header. -/
theorem WebhookCall.effectiveHost?_of_host {call : WebhookCall} {host : String}
    (hforwarded : call.header? "x-forwarded-host" = none)
    (hheader : call.header? "host" = some host) (htrim : Text.trim host = host)
    (hhost : host ≠ "") : call.effectiveHost? = some host := by
  simp only [effectiveHost?, hforwarded, hheader, Option.bind_none, Option.none_or,
    Option.bind_some, nonBlank?, htrim, if_neg hhost]

/-- A base URL is only taken apart if it has a host. -/
theorem host_ne_empty_of_splitBaseUrl? {url scheme host path : String}
    (h : splitBaseUrl? url = some (scheme, host, path)) : host ≠ "" := by
  obtain ⟨⟨before, rest⟩, _, h⟩ := Option.bind_eq_some_iff.1 h
  simp only at h
  split at h
  · cases h
  next hparts =>
  cases h
  exact fun hempty ↦ hparts (.inr hempty)

namespace WebhookCatalog

/-- `WaitsFor node method suffix` says the node waits for a call with the method, and the suffix is
the one in its options, if there is one. -/
structure WaitsFor (node : Node) (method : Method) (suffix : Option String) : Prop where
  type : node.type = waitNodeType
  resume : (node.textParameter? "resume").getD "webhook" = "webhook"
  method : ((node.textParameter? "httpMethod").map Method.parse).getD (.ok .get) = .ok method
  suffix : (node.textParameter? "options.webhookSuffix").getD "" = suffix.getD ""

variable {node : Node} {method : Method} {suffix : Option String}

/-- A node that waits for a call offers one webhook, on the suffix without slashes around it. -/
theorem webhooks_of_waitsFor (h : WaitsFor node method suffix) :
    webhooks node = [restart node (Text.trimSlashes (suffix.getD "")) method] := by
  have hmethods : waitMethods node = [method] := by
    have hmethod := h.method
    rw [waitMethods, h.resume]
    cases hname : node.textParameter? "httpMethod" with
    | none =>
        rw [hname] at hmethod
        cases hmethod
        rfl
    | some name =>
        rw [hname, Option.map_some, Option.getD_some] at hmethod
        simp only [hmethod, Except.toOption, Option.toList]
  have hsuffix : waitSuffix node = Text.trimSlashes (suffix.getD "") := by
    rw [← h.suffix, waitSuffix]
    cases node.textParameter? "options.webhookSuffix" <;> rfl
  rw [webhooks, if_pos h.type, hmethods, hsuffix, List.map_cons, List.map_nil]

end WebhookCatalog

namespace WaitingWebhooks

/-- The path of a resume URL, with the suffix at its end unless nothing is left of it. -/
theorem resumePath_eq (routePrefix basePath id : String) (suffix : Option String) :
    resumePath routePrefix basePath id suffix =
      basePath ++ "/" ++ routePrefix ++ "/" ++ id ++
        if Text.trimSlashes (suffix.getD "") = "" then ""
        else "/" ++ Text.trimSlashes (suffix.getD "") := by
  have hbare : Text.trimSlashes "" = "" := by decide
  cases suffix with
  | none => simp [resumePath, hbare, toString]
  | some text =>
      by_cases htext : Text.trimSlashes text = ""
      · simp [resumePath, htext, toString, Option.filter_some]
      · simp [resumePath, htext, toString, Option.filter_some, String.append_assoc]

/-- The service of a server over one execution store: the known webhooks and the bundled engine. -/
def standard (signer : UrlSigner) (routePrefix : String) (now : Int64) :
    WaitingWebhooks (StateM ExecutionStore) :=
  bundled (fun _ node ↦ WebhookCatalog.webhooks node) signer routePrefix now

/-- What holds of the URL that is issued for an execution id and a suffix. -/
structure HonoursUrl (signer : UrlSigner) (routePrefix baseUrl id : String) (suffix : Option String)
    (scheme host path token : String) : Prop where
  /-- The URL has the host and the path, and the token behind them. -/
  issued : ∀ {m : Type → Type} [Monad m] (service : WaitingWebhooks m), service.signer = signer →
    service.routePrefix = routePrefix →
      service.resumeUrl baseUrl id suffix =
        .ok (scheme ++ "://" ++ host ++ path ++ "?signature=" ++ token)
  /-- Every call on this host and path with this token is accepted. -/
  accepted : ∀ call : WebhookCall, call.Presents host path token → signer.accepts call = true
  /-- A call is on this host if its host header says so and no proxy has forwarded it. -/
  addressed : ∀ call : WebhookCall, call.header? "x-forwarded-host" = none →
    call.header? "host" = some host → call.effectiveHost? = some host
  /-- The call that the execution is waiting for succeeds. -/
  resumes : ∀ (now : Int64) (store : ExecutionStore) (execution : Execution) (node : Node)
    (call : WebhookCall), store.KeyedBy Execution.id → store.get? id = some execution →
      execution.ensureResumable = .ok () → execution.lastNode? = some node →
      WebhookCatalog.WaitsFor node call.method suffix → call.executionId = id →
      call.suffix.getD "" = Text.trimSlashes (suffix.getD "") → call.Presents host path token →
        ∃ answer, (((standard signer routePrefix now).execute call).run store).1 = .ok answer ∧
          answer.status = 200

/-- The URL that is issued with any secret, on any base URL, for any execution id and suffix is
accepted and resumes the execution. -/
theorem issued_url_resumes {secret : List UInt8} (hsecret : secret ≠ [])
    {baseUrl scheme host basePath : String}
    (hsplit : splitBaseUrl? baseUrl = some (scheme, host, basePath)) (htrim : Text.trim host = host)
    (routePrefix id : String) (suffix : Option String) :
    ∃ signer token, UrlSigner.hmac? secret = .ok signer ∧
      HonoursUrl signer routePrefix baseUrl id suffix scheme host
        (basePath ++ "/" ++ routePrefix ++ "/" ++ id ++
          if Text.trimSlashes (suffix.getD "") = "" then ""
          else "/" ++ Text.trimSlashes (suffix.getD "")) token := by
  rw [← resumePath_eq]
  refine ⟨.hmac secret,
    (UrlSigner.hmac secret).sign (signedText host (resumePath routePrefix basePath id suffix)),
    UrlSigner.hmac?_eq_ok hsecret, ?_⟩
  constructor
  case issued =>
    intro m _ service hsigner hprefix
    have hquery : "?signature=" = "?" ++ tokenParameter ++ "=" := by decide
    simp only [resumeUrl, hsplit, hsigner, hprefix, hquery, toString, String.append_assoc]
  case accepted =>
    intro call h
    exact UrlSigner.hmac_accepts h
  case addressed =>
    intro call hforwarded hheader
    exact WebhookCall.effectiveHost?_of_host hforwarded hheader htrim
      (host_ne_empty_of_splitBaseUrl? hsplit)
  case resumes =>
    rintro now store execution node call hkeyed hstored hresumable hnode hwaits rfl hsuffix
      hpresents
    have hwebhooks : execution.lastWebhooks (fun _ node ↦ WebhookCatalog.webhooks node) =
        [WebhookCatalog.restart node (Text.trimSlashes (suffix.getD "")) call.method] := by
      rw [Execution.lastWebhooks, hnode]
      exact WebhookCatalog.webhooks_of_waitsFor hwaits
    have hmatches : call.method ∈ matchingMethods
        (execution.lastWebhooks fun _ node ↦ WebhookCatalog.webhooks node) call.suffix := by
      rw [hwebhooks]
      simp [matchingMethods, WebhookCatalog.restart, hsuffix]
    obtain ⟨resumption, hfor⟩ := Execution.exists_isFor_iff.2
      ⟨fun _ ↦ UrlSigner.hmac_accepts hpresents, hresumable, hmatches⟩
    refine ⟨Engine.started, ?_, rfl⟩
    rw [standard, run_execute_bundled_of_isFor routePrefix now hkeyed hstored hfor]

/-- An execution that waits for a POST request on a suffix and demands a token is resumed by the URL
that was issued for it. -/
theorem approval_url_resumes :
    let node : Node := { Node.plain "Wait" WebhookCatalog.waitNodeType with
      parameters := .ofList [("httpMethod", .string "POST"),
        ("options", .object (.singleton "webhookSuffix" (.string "/approve/")))] }
    let waiting := Execution.waitingIn "7" node
    let execution := { waiting with data := { waiting.data with validateSignature := true } }
    let path := "/base/webhook-waiting/7/approve"
    ∃ signer token, UrlSigner.hmac? [107, 101, 121] = .ok signer ∧
      HonoursUrl signer "webhook-waiting" "https://example.com/base/" "7" (some "/approve/")
        "https" "example.com" path token ∧
      ∃ answer, (((standard signer "webhook-waiting" 0).execute
          ⟨.post, "7", some "approve", path, .singleton "host" "example.com",
            .singleton "signature" token, .null⟩).run (.put .empty execution)).1 = .ok answer ∧
        answer.status = 200 := by
  intro node waiting execution path
  obtain ⟨signer, token, hsigner, hhonours⟩ := issued_url_resumes
    (show [107, 101, 121] ≠ ([] : List UInt8) by decide)
    (show splitBaseUrl? "https://example.com/base/" = some ("https", "example.com", "/base") by
      decide)
    (by decide) "webhook-waiting" "7" (some "/approve/")
  have hpath : "/base" ++ "/" ++ "webhook-waiting" ++ "/" ++ "7" ++
      (if Text.trimSlashes ((some "/approve/").getD "") = "" then ""
        else "/" ++ Text.trimSlashes ((some "/approve/").getD "")) = path := by decide
  rw [hpath] at hhonours
  have hwaits : WebhookCatalog.WaitsFor node .post (some "/approve/") :=
    ⟨rfl, by decide, rfl, by decide⟩
  have hsuffix : (some "approve").getD "" = Text.trimSlashes ((some "/approve/").getD "") := by
    decide
  refine ⟨signer, token, hsigner, hhonours, ?_⟩
  refine hhonours.resumes 0 _ execution node _ ?_ rfl rfl rfl hwaits rfl hsuffix ?_
  · exact ExecutionStore.keyed_put (Table.keyedBy_empty _) execution
  · exact ⟨hhonours.addressed _ rfl rfl, rfl, rfl⟩

end WaitingWebhooks

end FlowGate
