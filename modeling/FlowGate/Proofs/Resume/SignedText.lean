import FlowGate.Server.Waiting

/-!
# What a token is bound to

A token is computed from a host and a path, one directly behind the other. `signedText_eq_iff` says
two pairs of a host and a path give the same text only if one host is the other one followed by a
piece of a path, and `signedApart_iff` what this means for calls: their tokens are told apart unless
the host of one call absorbs the beginning of the other's path. A host without slashes absorbs
nothing.
-/

namespace FlowGate

/-- Two hosts and paths give the same text exactly if one host takes in what the path behind the
other host begins with. -/
theorem signedText_eq_iff {host path otherHost otherPath : String} :
    signedText host path = signedText otherHost otherPath ↔
      (∃ piece, otherHost = host ++ piece ∧ path = piece ++ otherPath) ∨
        ∃ piece, host = otherHost ++ piece ∧ otherPath = piece ++ path := by
  constructor
  · intro h
    have hchars := congrArg String.toList h
    rw [signedText, signedText, String.toList_append, String.toList_append,
      List.append_eq_append_iff] at hchars
    rcases hchars with ⟨piece, hhost, hpath⟩ | ⟨piece, hhost, hpath⟩
    · refine .inl ⟨String.ofList piece, ?_, ?_⟩
      · rw [← String.toList_inj, hhost, String.toList_append, String.toList_ofList]
      · rw [← String.toList_inj, hpath, String.toList_append, String.toList_ofList]
    · refine .inr ⟨String.ofList piece, ?_, ?_⟩
      · rw [← String.toList_inj, hhost, String.toList_append, String.toList_ofList]
      · rw [← String.toList_inj, hpath, String.toList_append, String.toList_ofList]
  · rintro (⟨piece, rfl, rfl⟩ | ⟨piece, rfl, rfl⟩)
    · rw [signedText, signedText, String.append_assoc]
    · rw [signedText, signedText, String.append_assoc]

namespace WebhookCall

/-- The text that the token of a call is checked on; there is none without a host. -/
def signedText? (call : WebhookCall) : Option String :=
  call.effectiveHost?.map (signedText · call.path)

/-- `call.IsUnder routePrefix` says the path of the call begins with the prefix as its first
segment. -/
def IsUnder (routePrefix : String) (call : WebhookCall) : Prop :=
  ∃ rest, call.path = "/" ++ routePrefix ++ "/" ++ rest

/-- `call.Absorbs other` says the host of `call` is the host of `other` followed by a piece of a
path, and `other` has this piece in front of the path of `call`. -/
def Absorbs (call other : WebhookCall) : Prop :=
  ∃ host piece, piece ≠ "" ∧ other.effectiveHost? = some host ∧
    call.effectiveHost? = some (host ++ piece) ∧ other.path = piece ++ call.path

variable {call other : WebhookCall} {text routePrefix : String}

theorem signedText?_eq_some_iff :
    call.signedText? = some text ↔
      ∃ host, call.effectiveHost? = some host ∧ signedText host call.path = text :=
  Option.map_eq_some_iff

/-- A call that absorbs a piece of another one's path is checked on the same text. -/
theorem Absorbs.signedText?_eq (h : call.Absorbs other) :
    ∃ text, call.signedText? = some text ∧ other.signedText? = some text := by
  obtain ⟨host, piece, _, hother, hcall, hpath⟩ := h
  refine ⟨signedText host other.path, signedText?_eq_some_iff.2 ⟨_, hcall, ?_⟩,
    signedText?_eq_some_iff.2 ⟨_, hother, rfl⟩⟩
  exact signedText_eq_iff.2 (.inr ⟨piece, rfl, hpath⟩)

/-- Two calls that are checked on the same text are on the same host and path, or one absorbs a
piece of the other's path. -/
theorem absorbs_of_signedText?_eq (hcall : call.signedText? = some text)
    (hother : other.signedText? = some text)
    (hdiffer : call.effectiveHost? ≠ other.effectiveHost? ∨ call.path ≠ other.path) :
    call.Absorbs other ∨ other.Absorbs call := by
  obtain ⟨host, hhost, hsigned⟩ := signedText?_eq_some_iff.1 hcall
  obtain ⟨otherHost, hotherHost, rfl⟩ := signedText?_eq_some_iff.1 hother
  -- an empty piece would leave no difference
  have hpiece {piece : String} (h : host = otherHost ++ piece ∧ other.path = piece ++ call.path ∨
      otherHost = host ++ piece ∧ call.path = piece ++ other.path) : piece ≠ "" := by
    rintro rfl
    simp only [String.append_empty, String.empty_append] at h
    rw [hhost, hotherHost] at hdiffer
    rcases h with ⟨rfl, hpath⟩ | ⟨rfl, hpath⟩
    · exact hdiffer.elim (fun hne ↦ hne rfl) fun hne ↦ hne hpath.symm
    · exact hdiffer.elim (fun hne ↦ hne rfl) fun hne ↦ hne hpath
  rcases signedText_eq_iff.1 hsigned with ⟨piece, h⟩ | ⟨piece, h⟩
  · exact .inr ⟨host, piece, hpiece (.inr h), hhost, by rw [hotherHost, h.1], h.2⟩
  · exact .inl ⟨otherHost, piece, hpiece (.inl h), hotherHost, by rw [hhost, h.1], h.2⟩

/-- Only a host with a slash absorbs anything of a path that begins with one. -/
theorem Absorbs.slash_mem (h : call.Absorbs other) (hother : other.IsUnder routePrefix) :
    ∃ host, call.effectiveHost? = some host ∧ '/' ∈ host.toList := by
  obtain ⟨host, piece, hpiece, _, hcall, hpath⟩ := h
  obtain ⟨rest, hunder⟩ := hother
  refine ⟨_, hcall, ?_⟩
  rw [String.toList_append, List.mem_append]
  right
  have hchars := congrArg String.toList (hpath.symm.trans hunder)
  rw [String.append_assoc, String.append_assoc, String.toList_append, String.toList_append]
    at hchars
  cases hpieceChars : piece.toList with
  | nil => exact absurd (String.toList_eq_nil_iff.1 hpieceChars) hpiece
  | cons first others =>
      rw [hpieceChars] at hchars
      cases List.head_eq_of_cons_eq hchars
      exact List.mem_cons_self

end WebhookCall

namespace UrlSigner

/-- `signer.CollisionFree` says no token is one for two texts. -/
def CollisionFree (signer : UrlSigner) : Prop :=
  ∀ text other token, signer.verify text token = true → signer.verify other token = true →
    text = other

/-- `signer.VerifiesFor call token` says the token is one for the host and the path of the call. -/
def VerifiesFor (signer : UrlSigner) (call : WebhookCall) (token : String) : Prop :=
  ∃ text, call.signedText? = some text ∧ signer.verify text token = true

/-- A call is accepted exactly if its token is not empty and is one for its host and path. -/
theorem accepts_iff {signer : UrlSigner} {call : WebhookCall} :
    signer.accepts call = true ↔
      ∃ token, call.query.get? tokenParameter = some token ∧ token ≠ "" ∧
        signer.VerifiesFor call token := by
  unfold accepts VerifiesFor WebhookCall.signedText?
  cases call.query.get? tokenParameter with
  | none => simp
  | some token => cases call.effectiveHost? <;> simp

end UrlSigner

namespace WebhookCall

/-- `call.SignedApart other` says a token for one of the calls does not serve for the other one. -/
structure SignedApart (call other : WebhookCall) : Prop where
  /-- The two are checked on different texts. -/
  texts : ∀ text, call.signedText? = some text → other.signedText? ≠ some text
  /-- No token of a signer without collisions is one for both. -/
  tokens : ∀ signer : UrlSigner, signer.CollisionFree → ∀ token, signer.VerifiesFor call token →
    ¬ signer.VerifiesFor other token

variable {call other : WebhookCall} {routePrefix : String}

/-- Calls that are checked on different texts need different tokens. -/
theorem signedApart_of_texts
    (h : ∀ text, call.signedText? = some text → other.signedText? ≠ some text) :
    call.SignedApart other where
  texts := h
  tokens := by
    rintro signer hfree token ⟨text, htext, hverify⟩ ⟨otherText, hother, hotherVerify⟩
    rw [← hfree text otherText token hverify hotherVerify] at hother
    exact h text htext hother

/-- Two calls under one prefix that differ in their hosts or paths are told apart by their tokens
unless the host of one absorbs a piece of the other's path, which no host without slashes does. -/
theorem signedApart_iff (hcall : call.IsUnder routePrefix) (hother : other.IsUnder routePrefix)
    (hdiffer : call.effectiveHost? ≠ other.effectiveHost? ∨ call.path ≠ other.path) :
    (call.SignedApart other ↔ ¬ call.Absorbs other ∧ ¬ other.Absorbs call) ∧
      ((∀ host, call.effectiveHost? = some host → '/' ∉ host.toList) →
        (∀ host, other.effectiveHost? = some host → '/' ∉ host.toList) →
          call.SignedApart other) := by
  have hiff : call.SignedApart other ↔ ¬ call.Absorbs other ∧ ¬ other.Absorbs call := by
    constructor
    · intro h
      constructor
      · intro habsorbs
        obtain ⟨text, htext, hotherText⟩ := habsorbs.signedText?_eq
        exact h.texts text htext hotherText
      · intro habsorbs
        obtain ⟨text, hotherText, htext⟩ := habsorbs.signedText?_eq
        exact h.texts text htext hotherText
    · intro h
      refine signedApart_of_texts fun text htext hotherText ↦ ?_
      exact (absorbs_of_signedText?_eq htext hotherText hdiffer).elim h.1 h.2
  refine ⟨hiff, fun hhost hotherHost ↦ hiff.2 ⟨fun habsorbs ↦ ?_, fun habsorbs ↦ ?_⟩⟩
  · obtain ⟨host, hsome, hslash⟩ := habsorbs.slash_mem hother
    exact hhost host hsome hslash
  · obtain ⟨host, hsome, hslash⟩ := habsorbs.slash_mem hcall
    exact hotherHost host hsome hslash

/-- Requests on one path that name different hosts are told apart by their tokens. -/
theorem signedApart_of_two_hosts :
    let call := Server.webhookCall
      ⟨"POST", .parse "/webhook-waiting/7?signature=00", [("Host", "example.com")], []⟩
      .post "7" none
    let other := Server.webhookCall
      ⟨"POST", .parse "/webhook-waiting/7?signature=00", [("X-Forwarded-Host", "other.com, proxy")],
        []⟩ .post "7" none
    call.effectiveHost? = some "example.com" ∧ other.effectiveHost? = some "other.com" ∧
      call.SignedApart other := by
  intro call other
  have hhost : call.effectiveHost? = some "example.com" := by decide
  have hotherHost : other.effectiveHost? = some "other.com" := by decide
  have hcall : call.IsUnder "webhook-waiting" := ⟨"7", by decide⟩
  have hother : other.IsUnder "webhook-waiting" := ⟨"7", by decide⟩
  refine ⟨hhost, hotherHost, (signedApart_iff hcall hother (.inl ?_)).2 ?_ ?_⟩
  · rw [hhost, hotherHost]
    decide
  · rw [hhost]
    rintro host ⟨⟩
    decide
  · rw [hotherHost]
    rintro host ⟨⟩
    decide

/-- A forwarded host that ends like a path takes in the beginning of another request's path: both
requests are checked on one text, and a token for either serves for both. -/
theorem forwarded_path_not_signedApart :
    let call := Server.webhookCall
      ⟨"GET", .parse "/webhook-waiting/webhook-waiting/7", [("Host", "example.com")], []⟩ .get
      "webhook-waiting" (some "7")
    let other := Server.webhookCall
      ⟨"GET", .parse "/webhook-waiting/7",
        [("X-Forwarded-Host", "example.com/webhook-waiting")], []⟩ .get "7" none
    call.IsUnder "webhook-waiting" ∧ other.IsUnder "webhook-waiting" ∧
      call.effectiveHost? = some "example.com" ∧
      other.effectiveHost? = some "example.com/webhook-waiting" ∧ call.path ≠ other.path ∧
      (∀ (signer : UrlSigner) (token : String),
        signer.VerifiesFor call token ↔ signer.VerifiesFor other token) ∧
      ¬ call.SignedApart other := by
  intro call other
  have htext : call.signedText? = some "example.com/webhook-waiting/webhook-waiting/7" := by decide
  have hotherText : other.signedText? = some "example.com/webhook-waiting/webhook-waiting/7" := by
    decide
  refine ⟨⟨"webhook-waiting/7", by decide⟩, ⟨"7", by decide⟩, by decide, by decide, by decide,
    fun signer token ↦ ?_, fun h ↦ h.texts _ htext hotherText⟩
  rw [UrlSigner.VerifiesFor, UrlSigner.VerifiesFor, htext, hotherText]

end WebhookCall

end FlowGate
