import FlowGate.Proofs.Http.Paths
import FlowGate.Proofs.Http.Routes
import FlowGate.Proofs.Resume.IssuedUrl
import FlowGate.Server.Router

/-!
# Where the path of an issued URL leads

The path of a resume URL is put together from texts as they are, and a server cuts the path of a
request at its slashes, compares it with its routes and decodes the rest. `Server.LeadsBack` says
the two agree, and `issued_path_leads_back_iff` when they do: the base URL has no path, nothing in
the texts is read as a part of a URL, and no action on a workflow has the same path.
-/

namespace FlowGate

namespace WaitingWebhooks

end WaitingWebhooks

namespace Server

variable {server : Server} {path id : String} {suffix : Option String}

/-- The pattern of a path with only an id behind the prefix. -/
def barePattern (routePrefix : String) : Http.Pattern :=
  Http.Pattern.literals (Text.splitOn '/' routePrefix) ++ [.parameter "" "execution_id"]

/-- The pattern of a path with an id and a suffix behind the prefix. -/
def suffixedPattern (routePrefix : String) : Http.Pattern :=
  Http.Pattern.literals (Text.splitOn '/' routePrefix) ++
    [.parameter "" "execution_id", .parameter "" "suffix"]

/-- The routes of waiting executions under a plain prefix. -/
theorem waitingRoutes_of_isPlain {routePrefix : String} (h : Http.IsPlain routePrefix) :
    waitingRoutes routePrefix =
      [⟨barePattern routePrefix, .waiting⟩, ⟨suffixedPattern routePrefix, .waiting⟩] := by
  have hbare : Http.Pattern.parse? (routePrefix ++ "/\x7bexecution_id\x7d") =
      some (barePattern routePrefix) := by
    have htail : Http.Pattern.parse? "\x7bexecution_id\x7d" =
        some [.parameter "" "execution_id"] := by decide
    have hread := Http.Pattern.parse?_append h "\x7bexecution_id\x7d"
    rwa [String.append_assoc, htail] at hread
  have hsuffixed : Http.Pattern.parse? (routePrefix ++ "/\x7bexecution_id\x7d" ++
      "/\x7bsuffix\x7d") = some (suffixedPattern routePrefix) := by
    have htail : Http.Pattern.parse? "\x7bexecution_id\x7d/\x7bsuffix\x7d" =
        some [.parameter "" "execution_id", .parameter "" "suffix"] := by decide
    have hread := Http.Pattern.parse?_append h "\x7bexecution_id\x7d/\x7bsuffix\x7d"
    rw [String.append_assoc, htail] at hread
    rw [String.append_assoc]
    exact hread
  simp only [waitingRoutes, waitingPatterns, List.filterMap_cons, List.filterMap_nil, hbare,
    hsuffixed, Option.map_some]

/-- The parameters of such a path. -/
def waitingParameters (id : String) : Option String → Http.Parameters
  | none => [("execution_id", id)]
  | some text => [("execution_id", id), ("suffix", text)]

/-- A path on the route of waiting executions has one segment behind the prefix, and maybe one more;
these are its parameters. -/
theorem waitingParameters_of_findRoute? (hplain : Http.IsPlain server.routePrefix)
    {parameters : Http.Parameters}
    (h : Http.findRoute? server.routes path = some (.waiting, parameters)) :
    ∃ id suffix, parameters = waitingParameters id suffix ∧
      ∃ segments, Http.segments? path = some segments ∧
        segments.length =
          (Text.splitOn '/' server.routePrefix).length + (1 + suffix.toList.length) := by
  obtain ⟨segments, hsegments, route, hmem, hendpoint, hmatch⟩ := Http.mem_of_findRoute? h
  rw [routes, waitingRoutes_of_isPlain hplain] at hmem
  simp only [List.cons_append, List.nil_append, List.mem_cons, List.mem_append, List.mem_map,
    List.not_mem_nil, or_false] at hmem
  rcases hmem with rfl | rfl | ⟨action, _, rfl⟩ | rfl
  · obtain ⟨rest, rfl, hrest⟩ := (Http.Pattern.match?_literals_iff (List.cons_ne_nil _ _)).1 hmatch
    obtain ⟨value, _, rfl, rfl⟩ := Http.Pattern.match?_last_iff.1 hrest
    exact ⟨value, none, rfl, _, hsegments, List.length_append⟩
  · obtain ⟨rest, rfl, hrest⟩ := (Http.Pattern.match?_literals_iff (List.cons_ne_nil _ _)).1 hmatch
    obtain ⟨value, last, _, rfl, rfl⟩ := Http.Pattern.match?_last_two_iff.1 hrest
    exact ⟨value, some last, rfl, _, hsegments, List.length_append⟩
  · cases hendpoint
  · cases hendpoint

/-- The id and the suffix are read if all segments of them can be decoded. -/
theorem readParameters_waitingParameters_isOk (id : String) (suffix : Option String) :
    (∃ read, Http.readParameters "execution_id" "suffix" (waitingParameters id suffix) =
        .ok read) ↔
      ∀ parameter ∈ waitingParameters id suffix,
        (Text.Percent.decodeSegment? parameter.2).isSome := by
  cases suffix with
  | none => simp [waitingParameters, Http.readParameters_one_iff, Option.isSome_iff_exists]
  | some text => simp [waitingParameters, Http.readParameters_two_iff, Option.isSome_iff_exists]

end Server

end FlowGate
