import FlowGate.Cors.Origin
import FlowGate.Proofs.Text.CommaList

/-!
# Origins that a list grants access to

A policy other than `*` lists origins. `Granted` says which of them an answer names: the origin of
the request if it is listed and not the null origin, else the first one. `listedOrigin_eq_iff` says
this is what is computed, and `unlisted_origins_never_granted` what follows for every policy, which
need not list anything.
-/

namespace FlowGate.Cors

/-- `Granted origins origin granted` says a list of origins grants access to an origin when a
request comes from another one, or from none. -/
inductive Granted (origins : List String) (origin : Option String) : String → Prop where
  | echoed {requested : String} (horigin : origin = some requested)
      (hlisted : requested ∈ origins) (hnull : requested ≠ nullOrigin) :
      Granted origins origin requested
  | first {first : String} (hfirst : origins.head? = some first)
      (hother : ∀ requested ∈ origins, requested ≠ nullOrigin → origin ≠ some requested) :
      Granted origins origin first

variable {policy first granted : String} {rest origins : List String} {origin : Option String}

/-- A request from a listed origin is answered with it, unless it is the null origin. -/
theorem listedOrigin_of_mem {requested : String} (hlisted : requested ∈ origins)
    (hnull : requested ≠ nullOrigin) : listedOrigin first origins (some requested) = requested := by
  have hkept : normalizeOrigin (some requested) = some requested := by
    simp [normalizeOrigin, hnull]
  rw [listedOrigin, hkept]
  exact if_pos hlisted

/-- Any other request is answered with the first origin. -/
theorem listedOrigin_of_not_mem
    (h : ∀ requested ∈ origins, requested ≠ nullOrigin → origin ≠ some requested) :
    listedOrigin first origins origin = first := by
  unfold listedOrigin
  split
  · next requested hkept =>
    obtain ⟨horigin, hnull⟩ := Option.filter_eq_some_iff.1 hkept
    exact if_neg fun hlisted ↦ h requested hlisted (of_decide_eq_true hnull) horigin
  · rfl

/-- The origin that is computed is the one that the list grants access to. -/
theorem listedOrigin_eq_iff :
    listedOrigin first (first :: rest) origin = granted ↔
      Granted (first :: rest) origin granted := by
  refine ⟨fun h ↦ ?_, fun h ↦ ?_⟩
  · subst h
    by_cases hown : ∃ requested ∈ first :: rest, requested ≠ nullOrigin ∧ origin = some requested
    · obtain ⟨requested, hlisted, hnull, rfl⟩ := hown
      rw [listedOrigin_of_mem hlisted hnull]
      exact .echoed rfl hlisted hnull
    · have hother : ∀ requested ∈ first :: rest,
          requested ≠ nullOrigin → origin ≠ some requested :=
        fun requested hlisted hnull horigin ↦ hown ⟨requested, hlisted, hnull, horigin⟩
      rw [listedOrigin_of_not_mem hother]
      exact .first rfl hother
  · cases h with
    | echoed horigin hlisted hnull => rw [horigin, listedOrigin_of_mem hlisted hnull]
    | first hfirst hother => rw [listedOrigin_of_not_mem hother, ← Option.some.inj hfirst]

/-- Only listed origins are granted. -/
theorem Granted.mem (h : Granted origins origin granted) : granted ∈ origins := by
  cases h with
  | echoed _ hlisted _ => exact hlisted
  | first hfirst _ => exact List.mem_of_head? hfirst

/-- A policy that lists origins grants access as the list does. -/
theorem granted_allowedOrigin (hany : policy ≠ anyOrigin) (hlists : Text.Lists policy origins)
    (hne : origins ≠ []) (origin : Option String) :
    Granted origins origin (allowedOrigin (some policy) origin) := by
  obtain ⟨first, rest, rfl⟩ := List.exists_cons_of_ne_nil hne
  have hlisted : listedOrigins policy = first :: rest := Text.lists_iff.1 hlists
  rw [← listedOrigin_eq_iff, allowedOrigin]
  simp only [if_neg hany, hlisted]

/-- A policy that lists no origin is the same as none. -/
theorem allowedOrigin_of_lists_nil (hlists : Text.Lists policy []) (origin : Option String) :
    allowedOrigin (some policy) origin = allowedOrigin none origin := by
  have hlisted : listedOrigins policy = [] := Text.lists_iff.1 hlists
  have hany : policy ≠ anyOrigin := by
    intro hany
    rw [hany] at hlisted
    exact absurd hlisted (by decide)
  simp only [allowedOrigin, if_neg hany, hlisted]

/-- Without a policy an origin is echoed, and any origin stands for none. -/
theorem echoedOrigin_ne_empty (origin : Option String) : echoedOrigin origin ≠ "" := by
  unfold echoedOrigin
  cases hkept : origin.filter (· ≠ "") with
  | none => decide
  | some requested => exact of_decide_eq_true (Option.filter_eq_some_iff.1 hkept).2

/-- Under every policy some origin is named. -/
theorem allowedOrigin_ne_empty (policy origin : Option String) :
    allowedOrigin policy origin ≠ "" := by
  cases policy with
  | none => exact echoedOrigin_ne_empty origin
  | some policy =>
      by_cases hany : policy = anyOrigin
      · subst hany
        show (if isNullOrigin origin then anyOrigin else origin.getD anyOrigin) ≠ ""
        split
        · decide
        · next hnull =>
          cases origin with
          | none => exact absurd rfl hnull
          | some requested =>
              intro hempty
              obtain rfl : requested = "" := hempty
              exact hnull rfl
      · cases hlisted : listedOrigins policy with
        | nil =>
            rw [allowedOrigin_of_lists_nil (Text.lists_iff.2 hlisted)]
            exact echoedOrigin_ne_empty origin
        | cons first rest =>
            have hgranted := granted_allowedOrigin hany (Text.lists_iff.2 hlisted)
              (List.cons_ne_nil first rest) origin
            have hmem : _ ∈ listedOrigins policy := hlisted ▸ hgranted.mem
            exact of_decide_eq_true (List.mem_filter.1 hmem).2

/-- What holds of the origin that is named in the answer to a request under a policy that lists
origins. -/
structure KeepsToList (origins : List String) (origin : Option String) (granted : String) :
    Prop where
  /-- One of the listed origins is named. -/
  listed : granted ∈ origins
  /-- The origin of the request is named only if it is listed. -/
  own : some granted = origin → ∃ requested ∈ origins, origin = some requested
  /-- A listed origin other than the null origin is echoed, wherever it stands in the list. -/
  echoed : ∀ requested ∈ origins, requested ≠ nullOrigin → origin = some requested →
    granted = requested
  /-- To every other request the first listed origin is named. -/
  first : (∀ requested ∈ origins, requested ≠ nullOrigin → origin ≠ some requested) →
    origins.head? = some granted

theorem Granted.keepsToList (h : Granted origins origin granted) :
    KeepsToList origins origin granted where
  listed := h.mem
  own hown := ⟨granted, h.mem, hown.symm⟩
  echoed requested hlisted hnull horigin := by
    cases h with
    | echoed hechoed _ _ => exact Option.some.inj (hechoed.symm.trans horigin)
    | first _ hother => exact absurd horigin (hother requested hlisted hnull)
  first hother := by
    cases h with
    | echoed horigin hlisted hnull => exact absurd horigin (hother _ hlisted hnull)
    | first hfirst _ => exact hfirst

/-- A policy that lists origins keeps to its list for every request, one that lists none is the same
as no policy, and under every policy an origin is named. -/
theorem unlisted_origins_never_granted (origin : Option String) :
    (∀ policy origins, policy ≠ anyOrigin → Text.Lists policy origins → origins ≠ [] →
      KeepsToList origins origin (allowedOrigin (some policy) origin)) ∧
    (∀ policy, Text.Lists policy [] →
      allowedOrigin (some policy) origin = allowedOrigin none origin) ∧
    ∀ policy, allowedOrigin policy origin ≠ "" := by
  refine ⟨fun policy origins hany hlists hne ↦ ?_, fun policy hlists ↦ ?_, fun policy ↦ ?_⟩
  · exact (granted_allowedOrigin hany hlists hne origin).keepsToList
  · exact allowedOrigin_of_lists_nil hlists origin
  · exact allowedOrigin_ne_empty policy origin

/-- A list with blanks and an empty piece, which names the null origin first: requests from the last
origin and from the null origin keep to it. A policy of commas and blanks lists nothing. -/
theorem nullFirst_keeps_to_list :
    let policy := "null ,, https://a.com,\thttps://b.com"
    let origins := ["null", "https://a.com", "https://b.com"]
    policy ≠ anyOrigin ∧ Text.Lists policy origins ∧
      KeepsToList origins (some "https://b.com")
        (allowedOrigin (some policy) (some "https://b.com")) ∧
      allowedOrigin (some policy) (some "https://b.com") = "https://b.com" ∧
      KeepsToList origins (some "null") (allowedOrigin (some policy) (some "null")) ∧
      allowedOrigin (some policy) (some "https://c.com") = "null" ∧
      Text.Lists " , " [] ∧ allowedOrigin (some " , ") none = allowedOrigin none none := by
  intro policy origins
  have hany : policy ≠ anyOrigin := by decide
  have hlists : Text.Lists policy origins := Text.lists_iff.2 (by decide)
  have hnone : Text.Lists " , " [] := Text.lists_iff.2 (by decide)
  have hne : origins ≠ [] := List.cons_ne_nil _ _
  obtain ⟨hlast, _, _⟩ := unlisted_origins_never_granted (some "https://b.com")
  obtain ⟨hnull, _, _⟩ := unlisted_origins_never_granted (some "null")
  obtain ⟨hother, _, _⟩ := unlisted_origins_never_granted (some "https://c.com")
  obtain ⟨_, hblank, _⟩ := unlisted_origins_never_granted none
  have hkeeps := hlast policy origins hany hlists hne
  refine ⟨hany, hlists, hkeeps, ?_, hnull policy origins hany hlists hne, ?_, hnone,
    hblank " , " hnone⟩
  · exact hkeeps.echoed "https://b.com" (by decide) (by decide) rfl
  · have hfirst := (hother policy origins hany hlists hne).first (by decide)
    exact (Option.some.inj hfirst).symm

end FlowGate.Cors
