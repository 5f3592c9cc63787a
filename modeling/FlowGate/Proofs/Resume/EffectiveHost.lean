import FlowGate.Proofs.Resume.SignedText
import FlowGate.Proofs.Text.Split

/-!
# The host a call was addressed to

`Addresses` says which host a call was addressed to: the first one that a proxy reports, without the
blanks around it, or the one in the host header if no proxy reports any.
`effectiveHost?_eq_some_iff` says that this is what is computed. The rest is on what a token depends
on: `UrlSigner.accepts_eq_of_same_host` says calls with one path, one token and one host are treated
alike, so hosts behind the first one that a proxy reports make no difference, and neither does the
host header if a proxy reports one (`UrlSigner.bound_to_host_and_path`).
-/

namespace FlowGate

/-- `IsHost text host` says the host is what stands between the blanks around a text, and that this
is not nothing. -/
structure IsHost (text host : String) : Prop where
  trims : Text.TrimsTo Text.isBlank text host
  ne_empty : host ≠ ""

theorem nonBlank?_eq_some_iff {text host : String} :
    nonBlank? text = some host ↔ IsHost text host := by
  have htrim : Text.trim text = host ↔ Text.TrimsTo Text.isBlank text host := Text.trimBy_eq_iff
  constructor
  · intro h
    simp only [nonBlank?, Option.ite_none_left_eq_some, Option.some.injEq] at h
    obtain ⟨hne, rfl⟩ := h
    exact ⟨htrim.1 rfl, hne⟩
  · rintro ⟨htrims, hne⟩
    obtain rfl := htrim.2 htrims
    simp only [nonBlank?, if_neg hne]

theorem firstEntry?_eq_some_iff {list host : String} :
    firstEntry? list = some host ↔ ∃ entry, Text.FirstPiece ',' list entry ∧ IsHost entry host := by
  unfold firstEntry?
  rw [Option.bind_eq_some_iff]
  simp only [Text.head?_splitOn_eq_some_iff, nonBlank?_eq_some_iff]

/-- What stands behind a comma makes no difference to the first entry of a list. -/
theorem firstEntry?_append (list text : String) :
    firstEntry? (list ++ "," ++ text) = firstEntry? list :=
  congrArg (·.bind nonBlank?) (Text.head?_splitOn_append list text)

namespace WebhookCall

variable {call other : WebhookCall} {host name value : String}

/-- `call.Forwards host` says a proxy reports the host as the first one of its list. -/
def Forwards (call : WebhookCall) (host : String) : Prop :=
  ∃ list entry, call.header? "x-forwarded-host" = some list ∧ Text.FirstPiece ',' list entry ∧
    IsHost entry host

/-- `call.Names host` says the host stands in the host header. -/
def Names (call : WebhookCall) (host : String) : Prop :=
  ∃ value, call.header? "host" = some value ∧ IsHost value host

/-- `call.Addresses host` says the call was addressed to the host: a proxy reports it, or no proxy
reports any and the host header names it. -/
inductive Addresses (call : WebhookCall) : String → Prop
  | forwarded {host : String} (hforwards : call.Forwards host) : Addresses call host
  | named {host : String} (hnone : ∀ reported, ¬ call.Forwards reported)
      (hnames : call.Names host) : Addresses call host

theorem forwards_iff :
    call.Forwards host ↔ (call.header? "x-forwarded-host").bind firstEntry? = some host := by
  rw [Option.bind_eq_some_iff]
  simp only [firstEntry?_eq_some_iff, ← exists_and_left]
  rfl

theorem names_iff : call.Names host ↔ (call.header? "host").bind nonBlank? = some host := by
  rw [Option.bind_eq_some_iff]
  simp only [nonBlank?_eq_some_iff]
  rfl

/-- The host that is computed is the one that the call was addressed to. -/
theorem effectiveHost?_eq_some_iff : call.effectiveHost? = some host ↔ call.Addresses host := by
  rw [effectiveHost?, Option.or_eq_some_iff, ← forwards_iff, ← names_iff]
  constructor
  · rintro (hforwards | ⟨hnone, hnames⟩)
    · exact .forwarded hforwards
    · refine .named (fun reported hreported ↦ ?_) hnames
      rw [forwards_iff, hnone] at hreported
      cases hreported
  · rintro (hforwards | ⟨hnone, hnames⟩)
    · exact .inl hforwards
    · refine .inr ⟨Option.eq_none_iff_forall_ne_some.2 fun reported hreported ↦ ?_, hnames⟩
      exact hnone reported (forwards_iff.2 hreported)

/-- A list that begins with a comma reports no host. -/
example : (Server.webhookCall ⟨"GET", .parse "/webhook-waiting/7",
    [("X-Forwarded-Host", " , proxy"), ("Host", " example.com\t")], []⟩ .get "7"
      none).effectiveHost? = some "example.com" := by
  decide

/-- A call is addressed to a host that is not empty and has no blanks around it. -/
theorem Addresses.bare (h : call.Addresses host) : host ≠ "" ∧ Text.Bare Text.isBlank host := by
  rcases h with ⟨_, _, _, _, hhost⟩ | ⟨_, _, _, hhost⟩
  · exact ⟨hhost.ne_empty, hhost.trims.bare⟩
  · exact ⟨hhost.ne_empty, hhost.trims.bare⟩

/-- `call.HasToken signer` says the call carries a token for its path and the host it was addressed
to. -/
def HasToken (signer : UrlSigner) (call : WebhookCall) : Prop :=
  ∃ token host, call.query.get? tokenParameter = some token ∧ token ≠ "" ∧ call.Addresses host ∧
    signer.verify (host ++ call.path) token = true

/-- The call with a value for a header, by its name in any case. -/
def withHeader (call : WebhookCall) (name value : String) : WebhookCall :=
  { call with headers := call.headers.insert (Text.lowercase name) value }

/-- Giving a header a value leaves the other headers alone. -/
theorem header?_withHeader (call : WebhookCall) (name value other : String) :
    (call.withHeader name value).header? other =
      if Text.lowercase other = Text.lowercase name then some value else call.header? other :=
  call.headers.get?_insert (Text.lowercase name) value (Text.lowercase other)

/-- More hosts behind the ones that a proxy reports make no difference. -/
theorem effectiveHost?_append (hname : Text.lowercase name = "x-forwarded-host")
    (hvalue : call.header? name = some value) (text : String) :
    (call.withHeader name (value ++ "," ++ text)).effectiveHost? = call.effectiveHost? := by
  have hlist : call.header? "x-forwarded-host" = some value := by
    rw [← hvalue, header?, header?, hname]
    rfl
  simp only [effectiveHost?, header?_withHeader, hname, hlist]
  rw [if_pos (by decide), if_neg (by decide), Option.bind_some, Option.bind_some,
    firstEntry?_append]

/-- A host that a proxy reports hides the host header. -/
theorem effectiveHost?_eq_of_forwards (hforwards : call.Forwards host)
    (hheader : other.header? "x-forwarded-host" = call.header? "x-forwarded-host") :
    other.effectiveHost? = call.effectiveHost? := by
  rw [forwards_iff] at hforwards
  rw [effectiveHost?, effectiveHost?, hheader, hforwards, Option.some_or, Option.some_or]

end WebhookCall

namespace UrlSigner

variable {signer : UrlSigner} {call other : WebhookCall}

/-- Calls with one path, one token and one host are treated alike. -/
theorem accepts_eq_of_same_host (hpath : other.path = call.path)
    (htoken : other.query.get? tokenParameter = call.query.get? tokenParameter)
    (hhost : other.effectiveHost? = call.effectiveHost?) :
    signer.accepts other = signer.accepts call := by
  rw [accepts, accepts, hpath, htoken, hhost]

/-- A call is accepted exactly if it carries such a token. -/
theorem accepts_iff_hasToken : signer.accepts call = true ↔ call.HasToken signer := by
  rw [accepts_iff]
  constructor
  · rintro ⟨token, htoken, hne, text, htext, hverify⟩
    obtain ⟨host, hhost, rfl⟩ := WebhookCall.signedText?_eq_some_iff.1 htext
    exact ⟨token, host, htoken, hne, WebhookCall.effectiveHost?_eq_some_iff.1 hhost, hverify⟩
  · rintro ⟨token, host, htoken, hne, haddresses, hverify⟩
    have hhost := WebhookCall.effectiveHost?_eq_some_iff.2 haddresses
    exact ⟨token, htoken, hne, _, WebhookCall.signedText?_eq_some_iff.2 ⟨host, hhost, rfl⟩,
      hverify⟩

/-- What the acceptance of a call depends on: its path, its token and the host it was addressed
to. -/
structure BoundToHostAndPath (signer : UrlSigner) (call : WebhookCall) : Prop where
  /-- A call is accepted if its token is not empty and is one for its host and path. -/
  accepted_iff : signer.accepts call = true ↔ ∃ token host,
    call.query.get? tokenParameter = some token ∧ token ≠ "" ∧ call.Addresses host ∧
      signer.verify (host ++ call.path) token = true
  /-- Nothing else in a call makes a difference. -/
  determined : ∀ other : WebhookCall, other.path = call.path →
    other.query.get? tokenParameter = call.query.get? tokenParameter →
      other.effectiveHost? = call.effectiveHost? → signer.accepts other = signer.accepts call
  /-- The host is the first one that a proxy reports, else the one in the host header. -/
  addressed : ∀ host, call.effectiveHost? = some host ↔ call.Addresses host
  /-- The host is not empty and has no blanks around it. -/
  bare : ∀ host, call.effectiveHost? = some host → host ≠ "" ∧ Text.Bare Text.isBlank host
  /-- More entries behind the ones that a proxy reports make no difference. -/
  appended : ∀ name value text, Text.lowercase name = "x-forwarded-host" →
    call.header? name = some value →
      signer.accepts (call.withHeader name (value ++ "," ++ text)) = signer.accepts call
  /-- A host header that is changed or removed makes no difference if a proxy reports a host. -/
  forwarded : ∀ host, call.Forwards host → ∀ headers : Table String,
    (∀ name, name ≠ "host" → headers.get? name = call.headers.get? name) →
      signer.accepts { call with headers := headers } = signer.accepts call

/-- The acceptance of every call is bound to its host and its path. -/
theorem bound_to_host_and_path (signer : UrlSigner) (call : WebhookCall) :
    signer.BoundToHostAndPath call where
  accepted_iff := accepts_iff_hasToken
  determined _ hpath htoken hhost := accepts_eq_of_same_host hpath htoken hhost
  addressed _ := WebhookCall.effectiveHost?_eq_some_iff
  bare _ hhost := (WebhookCall.effectiveHost?_eq_some_iff.1 hhost).bare
  appended _ _ text hname hvalue :=
    accepts_eq_of_same_host rfl rfl (WebhookCall.effectiveHost?_append hname hvalue text)
  forwarded _ hforwards headers hothers := by
    refine accepts_eq_of_same_host rfl rfl (WebhookCall.effectiveHost?_eq_of_forwards hforwards ?_)
    exact hothers (Text.lowercase "x-forwarded-host") (by decide)

end UrlSigner

end FlowGate
