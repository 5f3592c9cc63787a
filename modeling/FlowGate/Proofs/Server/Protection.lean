import FlowGate.Proofs.Resume.SignedText
import FlowGate.Proofs.Server.Requests
import FlowGate.Server.Start

/-!
# Protected executions

A stored execution that demands a token stays stored and keeps demanding one, whatever requests the
server gets. `protected_changes_need_tokens` says its record only changes by a call that presents a
token for its host and path under the secret of the server.
-/

namespace FlowGate

/-- The secret of a server; without a configured one it is one that nobody knows. -/
def Config.secret (config : Config) (unknownSecret : List UInt8) : List UInt8 :=
  (config.webhooks.signatureSecret.map Text.Utf8.encode).getD unknownSecret

/-- `stores.Protects id` says an execution with the id is stored and demands a token. -/
def Stores.Protects (stores : Stores) (id : String) : Prop :=
  ∃ execution, stores.executions.get? id = some execution ∧
    execution.data.validateSignature = true

/-- The stores that a server starts with have every execution under its own id. -/
theorem Stores.keyed_start {seedFile : Option (Option (List UInt8))} {stores : Stores}
    (h : Stores.start seedFile = .ok stores) : stores.executions.KeyedBy Execution.id := by
  cases seedFile with
  | none =>
      cases h
      exact Table.keyedBy_empty _
  | some file =>
      rw [Stores.start] at h
      cases hseed : Seed.ofFile file with
      | error error =>
          rw [hseed] at h
          cases h
      | ok seed =>
          rw [hseed] at h
          cases h
          exact (Stores.keyed_load seed (Table.keyedBy_empty _) (Table.keyedBy_empty _)).2

namespace Server

variable {config : Config} {unknownSecret : List UInt8} {seedFile : Option (Option (List UInt8))}
  {server : Server} {arrival : Arrival} {request : Http.Request} {stores next : Stores}
  {id : String}

/-- A server checks tokens with its secret. -/
theorem signer_of_ofConfig (h : Server.ofConfig config unknownSecret = .ok server) :
    server.signer = .hmac (config.secret unknownSecret) := by
  rw [ofConfig, UrlSigner.hmac?] at h
  split at h
  · cases h
  · cases h
    rfl

/-- A server starts only with a usable secret and a usable seed. -/
theorem start_eq_ok_iff :
    Server.start config unknownSecret seedFile = .ok (server, stores) ↔
      Server.ofConfig config unknownSecret = .ok server ∧ Stores.start seedFile = .ok stores := by
  rw [Server.start]
  constructor
  · intro h
    cases hserver : Server.ofConfig config unknownSecret with
    | error error =>
        rw [hserver] at h
        cases h
    | ok configured =>
        cases hstores : Stores.start seedFile with
        | error error =>
            rw [hserver, hstores] at h
            cases h
        | ok loaded =>
            rw [hserver, hstores] at h
            cases h
            exact ⟨rfl, rfl⟩
  · rintro ⟨hserver, hstores⟩
    rw [hserver, hstores]
    rfl

/-- `server.Authorizes secret request id` says the request is a call on the execution with the id
and presents a token that is not empty and was computed with the secret from the host it is
addressed to and its path. -/
def Authorizes (server : Server) (secret : List UInt8) (request : Http.Request) (id : String) :
    Prop :=
  ∃ call host token, server.Receives request call ∧ call.executionId = id ∧
    call.effectiveHost? = some host ∧ call.query.get? tokenParameter = some token ∧ token ≠ "" ∧
    (UrlSigner.hmac secret).verify (signedText host request.target.path) token = true

/-- A call that is accepted authorizes its request. -/
theorem authorizes_of_accepts {secret : List UInt8} {call : WebhookCall}
    (hreceives : server.Receives request call) (h : (UrlSigner.hmac secret).accepts call = true) :
    server.Authorizes secret request call.executionId := by
  obtain ⟨token, htoken, hne, text, htext, hverify⟩ := UrlSigner.accepts_iff.1 h
  obtain ⟨host, hhost, rfl⟩ := WebhookCall.signedText?_eq_some_iff.1 htext
  rw [hreceives.path_eq] at hverify
  exact ⟨call, host, token, hreceives, rfl, hhost, htoken, hne, hverify⟩

/-- A request does not lift the protection of an execution. -/
theorem Effect.protects (h : Effect server arrival request stores next)
    (hprotects : stores.Protects id) : next.Protects id := by
  cases h with
  | unchanged => exact hprotects
  | action action name => rwa [Stores.Protects, Stores.after_executions]
  | resumed call execution resumption hreceives hstored hfor =>
      obtain ⟨record, hrecord, hflag⟩ := hprotects
      by_cases hid : id = call.executionId
      · subst hid
        rw [hstored] at hrecord
        cases hrecord
        refine ⟨execution.resumedOnce resumption.node call arrival.now, ?_, ?_⟩
        · rw [Table.get?_insert, if_pos rfl]
        · rwa [Execution.resumedOnce_validateSignature]
      · refine ⟨record, ?_, hflag⟩
        rw [Table.get?_insert, if_neg hid, hrecord]

/-- A request that changes the record of a protected execution authorizes itself for it. -/
theorem Effect.authorizes {secret : List UInt8} {execution : Execution}
    (h : Effect server arrival request stores next) (hsigner : server.signer = .hmac secret)
    (hstored : stores.executions.get? id = some execution)
    (hprotected : execution.data.validateSignature = true)
    (hchanged : next.executions.get? id ≠ some execution) :
    server.Authorizes secret request id := by
  cases h with
  | unchanged => exact absurd hstored hchanged
  | action action name =>
      rw [Stores.after_executions] at hchanged
      exact absurd hstored hchanged
  | resumed call record resumption hreceives hrecord hfor =>
      by_cases hid : id = call.executionId
      · subst hid
        rw [hstored] at hrecord
        cases hrecord
        refine authorizes_of_accepts hreceives ?_
        rw [← hsigner]
        exact hfor.authorized hprotected
      · rw [Table.get?_insert, if_neg hid] at hchanged
        exact absurd hstored hchanged

/-- Nor do any requests, one after the other. -/
theorem protects_afterAll (server : Server) (hkeyed : stores.executions.KeyedBy Execution.id)
    (hprotects : stores.Protects id) (requests : List (Arrival × Http.Request)) :
    (server.afterAll stores requests).Protects id := by
  induction requests generalizing stores with
  | nil => exact hprotects
  | cons request requests ih =>
      have heffect := after_cases server hkeyed request.1 request.2
      exact ih (heffect.keyed hkeyed) (heffect.protects hprotects)

/-- Whatever requests a server has got since its start, the next one changes the record of a
protected execution only if it authorizes itself, and no requests lift the protection. -/
theorem protected_changes_need_tokens
    (hstart : Server.start config unknownSecret seedFile = .ok (server, stores))
    (requests : List (Arrival × Http.Request)) {execution : Execution}
    (hstored : (server.afterAll stores requests).executions.get? id = some execution)
    (hprotected : execution.data.validateSignature = true) :
    (∀ next, (server.afterAll stores (requests ++ [next])).executions.get? id ≠ some execution →
      server.Authorizes (config.secret unknownSecret) next.2 id) ∧
      ∀ later, ∃ record,
        (server.afterAll stores (requests ++ later)).executions.get? id = some record ∧
          record.data.validateSignature = true := by
  obtain ⟨hserver, hstores⟩ := start_eq_ok_iff.1 hstart
  have hkeyed := keyed_afterAll server requests (Stores.keyed_start hstores)
  constructor
  · intro next hchanged
    rw [afterAll, List.foldl_append] at hchanged
    exact (after_cases server hkeyed next.1 next.2).authorizes (signer_of_ofConfig hserver)
      hstored hprotected hchanged
  · intro later
    rw [afterAll, List.foldl_append]
    exact protects_afterAll server hkeyed ⟨execution, hstored, hprotected⟩ later

/-- A configuration with the secret `key`. -/
def keyConfig : Config :=
  { Config.default with webhooks := { WebhookConfig.default with signatureSecret := some "key" } }

/-- The document of a seed with one waiting execution, which demands a token. -/
def protectedSeed : String :=
  "\x7b\"executions\":[\x7b\"id\":\"7\",\"status\":\"waiting\"," ++
    "\"workflowData\":[\"w\",\"\",[]],\"data\":\x7b\"validateSignature\":true\x7d\x7d]\x7d"

/-- The server starts with the seed, and its execution demands a token. -/
theorem exists_start_protectedSeed :
    ∃ server stores execution,
      Server.start keyConfig [] (some (some (Text.Utf8.encode protectedSeed))) =
          .ok (server, stores) ∧
        stores.executions.get? "7" = some execution ∧
        execution.data.validateSignature = true := by
  have hflag : (match Server.start keyConfig [] (some (some (Text.Utf8.encode protectedSeed))) with
    | .ok (_, stores) => (stores.executions.get? "7").map (·.data.validateSignature)
    | .error _ => none) = some true := by decide +kernel
  split at hflag
  next server stores hstart =>
    obtain ⟨execution, hstored, hflag⟩ := Option.map_eq_some_iff.1 hflag
    exact ⟨server, stores, execution, hstart, hstored, hflag⟩
  · cases hflag

/-- A call with a token of one byte does not change the execution of the seed, and nothing lifts its
protection. -/
theorem protectedSeed_changes_need_tokens :
    let call : Arrival × Http.Request := (⟨0, "", "", "", 0⟩,
      ⟨"GET", .parse "/webhook-waiting/7?signature=00", [("Host", "example.com")], []⟩)
    ∃ server stores execution,
      Server.start keyConfig [] (some (some (Text.Utf8.encode protectedSeed))) =
          .ok (server, stores) ∧
        stores.executions.get? "7" = some execution ∧ execution.data.validateSignature = true ∧
        (server.afterAll stores [call]).executions.get? "7" = some execution ∧
        ∀ requests, (server.afterAll stores requests).Protects "7" := by
  intro call
  obtain ⟨server, stores, execution, hstart, hstored, hflag⟩ := exists_start_protectedSeed
  obtain ⟨hchanged, hlater⟩ := protected_changes_need_tokens hstart [] hstored hflag
  refine ⟨server, stores, execution, hstart, hstored, hflag, ?_, hlater⟩
  refine Classical.byContradiction fun hchange ↦ ?_
  obtain ⟨caller, host, token, hreceives, _, _, htoken, _, hverify⟩ := hchanged call hchange
  have hquery : caller.query.get? tokenParameter = some "00" := by
    rw [hreceives.call_eq]
    show (Table.ofList (Text.Percent.formPairs call.2.target.query)).get? tokenParameter = _
    decide
  cases hquery.symm.trans htoken
  -- a code has 32 bytes
  have hbytes : Text.Hex.decode? "00" = some [0] := by decide
  simp only [UrlSigner.hmac, hbytes, decide_eq_true_eq, Option.some.injEq] at hverify
  have hlength := congrArg List.length hverify
  rw [Hmac.length_digest] at hlength
  cases hlength

end Server

end FlowGate
