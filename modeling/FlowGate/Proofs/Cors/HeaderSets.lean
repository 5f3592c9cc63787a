import FlowGate.Cors.Policy
import FlowGate.Proofs.Cors.AllowList
import FlowGate.Proofs.Cors.GrantedOrigin

/-!
# The headers that are set for a request

`Sets` says which headers are set for a request under a policy, and with which values.
`applyHeaders_eq_setAll` and `mem_headerChanges_iff` say these are the ones that `applyHeaders`
sets. `cross_origin_headers_exact` says what becomes of the headers that were there before, and that
all policies under which no origin is restricted are the same as none.
-/

namespace FlowGate.Cors

/-- `Sets request policy name value` says a header is set for a request under a policy. -/
inductive Sets (request : Request) (policy : Policy) : String → String → Prop where
  | methods (hmethods : policy.allowedMethods ≠ []) :
      Sets request policy allowMethodsHeader
        ("OPTIONS, " ++ String.intercalate ", " (policy.allowedMethods.map Method.name))
  | origin :
      Sets request policy allowOriginHeader (allowedOrigin policy.origins request.origin)
  | maxAge (hpreflight : policy.isPreflight = true) : Sets request policy maxAgeHeader "300"
  | announced {value : String} (hpreflight : policy.isPreflight = true)
      (hvalue : request.announcedHeaders = some value) (hne : value ≠ "") :
      Sets request policy allowHeadersHeader value

/-- The headers that only the answer to a preflight has. -/
def preflightChanges (request : Request) : List (String × String) :=
  (maxAgeHeader, toString preflightMaxAge) ::
    ((request.announcedHeaders.filter (· ≠ "")).map fun value ↦ (allowHeadersHeader, value)).toList

/-- The headers that are set for a request, in order. -/
def headerChanges (request : Request) (policy : Policy) : List (String × String) :=
  (if policy.allowedMethods.isEmpty then []
    else [(allowMethodsHeader, methodList policy.allowedMethods)]) ++
  (allowOriginHeader, allowedOrigin policy.origins request.origin) ::
    if policy.isPreflight then preflightChanges request else []

variable {request : Request} {policy : Policy} {name value : String}

theorem applyHeaders_eq_setAll (request : Request) (policy : Policy) (headers : HeaderList) :
    applyHeaders request policy headers = headers.setAll (headerChanges request policy) := by
  have hplain : applyHeaders request { policy with isPreflight := false } headers =
      headers.setAll (headerChanges request { policy with isPreflight := false }) := by
    unfold applyHeaders headerChanges
    cases policy.allowedMethods.isEmpty <;> rfl
  cases hpreflight : policy.isPreflight with
  | false =>
      rw [← hpreflight] at hplain
      exact hplain
  | true =>
      have hchanges : headerChanges request policy =
          headerChanges request { policy with isPreflight := false } ++
            preflightChanges request := by
        rw [headerChanges, headerChanges, if_pos hpreflight, List.append_assoc]
        rfl
      rw [applyHeaders_of_preflight hpreflight, hplain, hchanges, HeaderList.setAll,
        HeaderList.setAll, List.foldl_append, preflightChanges]
      cases request.announcedHeaders.filter (· ≠ "") <;> rfl

theorem mem_preflightChanges_iff :
    (name, value) ∈ preflightChanges request ↔
      (name, value) = (maxAgeHeader, "300") ∨
        name = allowHeadersHeader ∧ request.announcedHeaders = some value ∧ value ≠ "" := by
  have hage : toString preflightMaxAge = "300" := by decide
  rw [preflightChanges, hage, List.mem_cons, Option.mem_toList, Option.map_eq_some_iff]
  refine or_congr_right ⟨?_, fun ⟨hname, hvalue, hne⟩ ↦ ?_⟩
  · intro hannounced
    obtain ⟨announced, hkept, heq⟩ := hannounced
    obtain ⟨rfl, rfl⟩ := Prod.mk.inj heq
    obtain ⟨hvalue, hne⟩ := Option.filter_eq_some_iff.1 hkept
    exact ⟨rfl, hvalue, of_decide_eq_true hne⟩
  · exact ⟨value, Option.filter_eq_some_iff.2 ⟨hvalue, decide_eq_true hne⟩, by rw [hname]⟩

/-- These are the headers that the relation says are set. -/
theorem mem_headerChanges_iff :
    (name, value) ∈ headerChanges request policy ↔ Sets request policy name value := by
  have hmethods : (name, value) ∈ (if policy.allowedMethods.isEmpty then []
      else [(allowMethodsHeader, methodList policy.allowedMethods)]) ↔
      policy.allowedMethods ≠ [] ∧
        (name, value) = (allowMethodsHeader, methodList policy.allowedMethods) := by
    cases policy.allowedMethods <;> simp
  have hpreflight : (name, value) ∈ (if policy.isPreflight then preflightChanges request else []) ↔
      policy.isPreflight = true ∧ (name, value) ∈ preflightChanges request := by
    cases policy.isPreflight <;> simp
  rw [headerChanges, List.mem_append, List.mem_cons, hmethods, hpreflight,
    mem_preflightChanges_iff]
  refine ⟨fun h ↦ ?_, fun h ↦ ?_⟩
  · rcases h with ⟨hne, heq⟩ | heq | ⟨hpre, heq | ⟨rfl, hvalue, hne⟩⟩
    · cases heq
      exact .methods hne
    · cases heq
      exact .origin
    · cases heq
      exact .maxAge hpre
    · exact .announced hpre hvalue hne
  · cases h with
    | methods hne => exact .inl ⟨hne, rfl⟩
    | origin => exact .inr (.inl rfl)
    | maxAge hpre => exact .inr (.inr ⟨hpre, .inl rfl⟩)
    | announced hpre hvalue hne => exact .inr (.inr ⟨hpre, .inr ⟨rfl, hvalue, hne⟩⟩)

/-- No header is set twice. -/
theorem nodup_headerChanges (request : Request) (policy : Policy) :
    ((headerChanges request policy).map (·.1)).Nodup := by
  -- under every policy these are some of the four names, in this order
  have hnames : ((headerChanges request policy).map (·.1)).Sublist
      [allowMethodsHeader, allowOriginHeader, maxAgeHeader, allowHeadersHeader] := by
    have hmethods : ((if policy.allowedMethods.isEmpty then []
        else [(allowMethodsHeader, methodList policy.allowedMethods)]).map (·.1)).Sublist
          [allowMethodsHeader] := by
      cases policy.allowedMethods.isEmpty
      · exact List.Sublist.refl _
      · exact List.nil_sublist _
    have hpreflight : ((if policy.isPreflight then preflightChanges request else []).map
        (·.1)).Sublist [maxAgeHeader, allowHeadersHeader] := by
      cases policy.isPreflight
      · exact List.nil_sublist _
      · refine List.Sublist.cons_cons _ ?_
        cases request.announcedHeaders.filter (· ≠ "")
        · exact List.nil_sublist _
        · exact List.Sublist.refl _
    rw [headerChanges, List.map_append]
    exact hmethods.append (hpreflight.cons_cons allowOriginHeader)
  exact hnames.nodup (by decide)

/-- What becomes of headers when those for a request are set in them. -/
structure HeadersFor (request : Request) (policy : Policy) (before after : HeaderList) : Prop where
  /-- The headers are those that are set, and those from before that have other names. -/
  mem_iff : ∀ name value, (name, value) ∈ after.entries ↔
    Sets request policy name value ∨
      (∀ other, ¬ Sets request policy name other) ∧ (name, value) ∈ before.entries
  /-- The headers from before keep their places, those that are overwritten as well. -/
  in_place : before.names <+: after.names
  /-- No name stands there twice. -/
  distinct : after.names.Nodup

/-- In a list without repeated names exactly the headers for the request are set. -/
theorem headersFor_applyHeaders {before : HeaderList} (hbefore : before.names.Nodup)
    (request : Request) (policy : Policy) :
    HeadersFor request policy before (applyHeaders request policy before) where
  mem_iff name value := by
    -- a header from before is kept if none with its name is set
    have hnone : name ∉ (headerChanges request policy).map (·.1) ↔
        ∀ other, ¬ Sets request policy name other := by
      simp only [List.mem_map, Prod.exists, exists_and_right, exists_eq_right, not_exists,
        mem_headerChanges_iff]
    rw [applyHeaders_eq_setAll,
      HeaderList.mem_entries_setAll_iff hbefore (nodup_headerChanges request policy),
      mem_headerChanges_iff, hnone]
  in_place := by
    rw [applyHeaders_eq_setAll]
    exact HeaderList.names_prefix_setAll _ before
  distinct := by
    rw [applyHeaders_eq_setAll]
    exact HeaderList.nodup_names_setAll hbefore _

/-- `Unrestricted control requested` says no list of origins applies: there is no policy, or one
without origins, or one that is blank, or the method that is wanted is not known. -/
inductive Unrestricted : Option AccessControl → Option Method → Prop where
  | noPolicy (requested : Option Method) : Unrestricted none requested
  | noOrigins (requested : Option Method) : Unrestricted (some ⟨none⟩) requested
  | blank {origins : String} (hlists : Text.Lists origins []) (requested : Option Method) :
      Unrestricted (some ⟨some origins⟩) requested
  | noMethod (control : Option AccessControl) : Unrestricted control none

/-- Where no list of origins applies, origins are granted as without a policy. -/
theorem Unrestricted.allowedOrigin_eq {control : Option AccessControl} {requested : Option Method}
    (h : Unrestricted control requested) (methods : List Method) (isPreflight : Bool)
    (origin : Option String) :
    allowedOrigin (Policy.origins ⟨methods, control, isPreflight, requested⟩) origin =
      allowedOrigin none origin := by
  cases h with
  | noPolicy => cases requested <;> rfl
  | noOrigins => cases requested <;> rfl
  | blank hlists =>
      cases requested with
      | none => rfl
      | some method => exact allowedOrigin_of_lists_nil hlists origin
  | noMethod => rfl

/-- Only the origin that is granted depends on the policy about origins. -/
theorem applyHeaders_congr {other : Policy}
    (hmethods : policy.allowedMethods = other.allowedMethods)
    (hpreflight : policy.isPreflight = other.isPreflight)
    (horigin : allowedOrigin policy.origins request.origin =
      allowedOrigin other.origins request.origin) (headers : HeaderList) :
    applyHeaders request policy headers = applyHeaders request other headers := by
  unfold applyHeaders
  rw [hmethods, hpreflight, horigin]

/-- Whatever headers were set before, exactly those for the request are set. All policies under
which no origin is restricted, with the same methods, set the headers of a route without a
policy. -/
theorem cross_origin_headers_exact (request : Request) :
    (∀ (calls : List (String × String)) (policy : Policy),
      let before := HeaderList.empty.setAll calls
      HeadersFor request policy before (applyHeaders request policy before)) ∧
    ∀ (methods : Option (List Method)) (control : Option AccessControl)
      (requested : Option Method) (headers : HeaderList), Unrestricted control requested →
      applyHeaders request ⟨methods.getD [], control, request.isPreflight, requested⟩ headers =
        applyFallbackHeaders request methods headers := by
  refine ⟨fun calls policy ↦ ?_, fun methods control requested headers hopen ↦ ?_⟩
  · have hempty : HeaderList.empty.names.Nodup := List.Pairwise.nil
    exact headersFor_applyHeaders (HeaderList.nodup_names_setAll hempty calls) request policy
  · show applyHeaders request ⟨methods.getD [], control, request.isPreflight, requested⟩ headers =
      applyHeaders request ⟨methods.getD [], none, request.isPreflight, request.requestedMethod⟩
        headers
    refine applyHeaders_congr ?_ ?_ ?_ headers
    · rfl
    · rfl
    · rw [hopen.allowedOrigin_eq, (Unrestricted.noPolicy request.requestedMethod).allowedOrigin_eq]

/-- Where allow-origin stands before another header it keeps its place, and a policy of blanks
counts as none. -/
theorem blank_policy_overwrites_in_place :
    let request : Request := ⟨.options, some "https://page.example", none, some "x-token"⟩
    let before :=
      HeaderList.empty.setAll [(allowOriginHeader, "https://old.example"), ("vary", "*")]
    let after : HeaderList := ⟨[(allowOriginHeader, "https://page.example"), ("vary", "*"),
      (allowMethodsHeader, "OPTIONS, GET, PUT"), (maxAgeHeader, "300"),
      (allowHeadersHeader, "x-token")]⟩
    HeadersFor request ⟨[.get, .put], some ⟨some " , "⟩, true, some .put⟩ before after ∧
      Unrestricted (some ⟨some " , "⟩) (some .put) ∧
      applyFallbackHeaders request (some [.get, .put]) before = after := by
  intro request before after
  have hafter : applyHeaders request ⟨[.get, .put], some ⟨some " , "⟩, true, some .put⟩ before =
      after := by decide
  have hblank : Unrestricted (some ⟨some " , "⟩) (some .put) :=
    .blank (Text.lists_iff.2 (by decide)) (some .put)
  obtain ⟨hsets, hsame⟩ := cross_origin_headers_exact request
  refine ⟨hafter ▸ hsets _ ⟨[.get, .put], some ⟨some " , "⟩, true, some .put⟩, hblank, ?_⟩
  exact (hsame (some [.get, .put]) _ _ before hblank).symm.trans hafter

end FlowGate.Cors
