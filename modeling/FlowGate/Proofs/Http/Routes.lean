import FlowGate.Http.Route
import FlowGate.Proofs.Text.Split

/-!
# Patterns and the paths they fit

A written pattern that begins with a text without braces fits the paths that begin with the same
segments: `parse?_append` reads such a pattern and `match?_literals_iff` compares it with a path.
`mem_of_findRoute?` says a path is taken by a route that fits it, and
`foldl_chooseRoute_eq_self_iff` that a route keeps a path unless another one comes before it.
-/

namespace FlowGate.Http

/-- `IsPlain text` says there is no brace in a text, so that it stands for itself in a pattern. -/
def IsPlain (text : String) : Prop := ∀ c ∈ text.toList, c ≠ '\x7b' ∧ c ≠ '\x7d'

instance (text : String) : Decidable (IsPlain text) :=
  List.decidableBAll _ text.toList

/-- A character that is not a brace is read as itself. -/
theorem marks_cons {c : Char} (h : c ≠ '\x7b' ∧ c ≠ '\x7d') (rest : List Char) :
    marks (c :: rest) = .char c :: marks rest := by
  rw [marks]
  · intro rest heq
    exact absurd heq h.1
  · intro rest heq
    exact absurd heq h.2
  · exact h.1
  · exact h.2

theorem marks_append {text : List Char} (h : ∀ c ∈ text, c ≠ '\x7b' ∧ c ≠ '\x7d')
    (rest : List Char) : marks (text ++ rest) = text.map .char ++ marks rest := by
  induction text with
  | nil => rfl
  | cons c others ih =>
      obtain ⟨hc, hothers⟩ := List.forall_mem_cons.1 h
      rw [List.cons_append, marks_cons hc, ih hothers]
      rfl

namespace Pattern

/-- The literal segments of texts. -/
def literals (texts : List String) : Pattern := texts.map .literal

/-- Characters up to a slash make up literal segments. -/
theorem ofMarks?_append {text piece : List Char} {pieces : List (List Char)}
    (h : text.splitOn '/' = piece :: pieces) (before : List Char)
    (rest : List Mark) :
    ofMarks? (.text before) (text.map .char ++ .char '/' :: rest) =
      (ofMarks? (.text []) rest).map
        (literals (String.ofList (before.reverse ++ piece) :: pieces.map String.ofList) ++ ·) := by
  induction text generalizing before piece pieces with
  | nil =>
      rw [List.splitOn_nil] at h
      cases h
      rw [List.append_nil]
      rfl
  | cons c others ih =>
      cases hothers : others.splitOn '/' with
      | nil => exact absurd hothers (List.splitOn_ne_nil _ others)
      | cons first more =>
          rw [List.splitOn_cons_eq_if_modifyHead, hothers] at h
          rw [List.map_cons, List.cons_append, ofMarks?]
          split at h
          · next hc =>
              cases h
              rw [if_pos (beq_iff_eq.1 hc), ih hothers, List.append_nil, Option.map_map]
              rfl
          · next hc =>
              cases h
              rw [if_neg (mt beq_iff_eq.2 hc), ih hothers, List.reverse_cons,
                List.append_assoc]
              rfl

/-- A pattern that begins with a plain text has the segments of the text in front. -/
theorem parse?_append {text : String} (h : IsPlain text) (rest : String) :
    parse? (text ++ "/" ++ rest) =
      (parse? rest).map (literals (Text.splitOn '/' text) ++ ·) := by
  have hslash : marks ('/' :: rest.toList) = .char '/' :: marks rest.toList :=
    marks_cons (by decide) rest.toList
  cases hpieces : text.toList.splitOn '/' with
  | nil => exact absurd hpieces (List.splitOn_ne_nil _ text.toList)
  | cons piece pieces =>
      rw [parse?, String.append_assoc, String.toList_append, marks_append h, String.toList_append]
      show ofMarks? _ (_ ++ marks ('/' :: rest.toList)) = _
      rw [hslash, ofMarks?_append hpieces, Text.splitOn, hpieces]
      rfl

theorem match?_cons {pattern : Pattern} (h : pattern ≠ []) (segment : Segment) (text : String)
    (rest : List String) :
    match? (segment :: pattern) (text :: rest) =
      (segment.match? text).bind fun first ↦ (match? pattern rest).map (first ++ ·) := by
  cases pattern with
  | nil => exact absurd rfl h
  | cons next pattern =>
      rw [match?]
      · cases segment.match? text <;> cases match? (next :: pattern) rest <;> rfl
      · intro hnil _
        cases hnil

theorem match?_nil (segment : Segment) (pattern : Pattern) :
    match? (segment :: pattern) [] = none := by
  cases pattern <;> rfl

/-- Literal segments in front of a pattern fit exactly themselves. -/
theorem match?_literals_iff {pattern : Pattern} (h : pattern ≠ []) {texts segments : List String}
    {parameters : Parameters} :
    match? (literals texts ++ pattern) segments = some parameters ↔
      ∃ rest, segments = texts ++ rest ∧ match? pattern rest = some parameters := by
  induction texts generalizing segments with
  | nil => exact ⟨fun hmatch ↦ ⟨segments, rfl, hmatch⟩, fun ⟨_, heq, hmatch⟩ ↦ heq ▸ hmatch⟩
  | cons text texts ih =>
      have hne : literals texts ++ pattern ≠ [] := fun hnil ↦ h (List.append_eq_nil_iff.1 hnil).2
      cases segments with
      | nil =>
          refine iff_of_false (fun hmatch ↦ ?_) fun ⟨_, heq, _⟩ ↦ ?_
          · rw [show literals (text :: texts) ++ pattern =
              .literal text :: (literals texts ++ pattern) from rfl, match?_nil] at hmatch
            cases hmatch
          · cases heq
      | cons segment segments =>
          show match? (.literal text :: (literals texts ++ pattern)) _ = _ ↔ _
          rw [match?_cons hne, Segment.match?, Option.bind_eq_some_iff]
          constructor
          · rintro ⟨first, htext, hrest⟩
            split at htext
            · next heq =>
                cases htext
                subst heq
                rw [Option.map_eq_some_iff] at hrest
                obtain ⟨found, hrest, rfl⟩ := hrest
                obtain ⟨rest, rfl, hmatch⟩ := ih.1 hrest
                exact ⟨rest, rfl, hmatch⟩
            · cases htext
          · rintro ⟨rest, heq, hmatch⟩
            obtain ⟨rfl, rfl⟩ := List.cons.inj heq
            exact ⟨[], if_pos rfl, congrArg _ (ih.2 ⟨rest, rfl, hmatch⟩)⟩

/-- A parameter without a text in front takes any segment. -/
theorem match?_parameter (name value : String) :
    Segment.match? (.parameter "" name) value = some [(name, value)] := by
  simp [Segment.match?, Text.dropPrefix?]

/-- In the last segment, it takes any but the empty one. -/
theorem match?_last_iff {name : String} {segments : List String} {parameters : Parameters} :
    match? [.parameter "" name] segments = some parameters ↔
      ∃ value, value ≠ "" ∧ segments = [value] ∧ parameters = [(name, value)] := by
  match segments with
  | [] => simp [match?]
  | [value] =>
      show (Segment.match? _ value).filter _ = _ ↔ _
      rw [match?_parameter, Option.filter_eq_some_iff, Option.some_inj]
      constructor
      · rintro ⟨rfl, hvalue⟩
        exact ⟨value, by simpa using hvalue, rfl, rfl⟩
      · rintro ⟨_, hvalue, heq, rfl⟩
        cases heq
        exact ⟨rfl, by simpa using hvalue⟩
  | value :: second :: rest => simp [match?]

/-- Of two parameters at the end of a pattern, the first one takes any segment. -/
theorem match?_last_two_iff {name other : String} {segments : List String}
    {parameters : Parameters} :
    match? [.parameter "" name, .parameter "" other] segments = some parameters ↔
      ∃ value last, last ≠ "" ∧ segments = [value, last] ∧
        parameters = [(name, value), (other, last)] := by
  match segments with
  | [] => simp [match?]
  | value :: rest =>
      rw [match?_cons (List.cons_ne_nil _ _), match?_parameter, Option.bind_some,
        Option.map_eq_some_iff]
      simp only [match?_last_iff]
      constructor
      · rintro ⟨_, ⟨last, hlast, rfl, rfl⟩, rfl⟩
        exact ⟨value, last, hlast, rfl, rfl⟩
      · rintro ⟨_, last, hlast, heq, rfl⟩
        cases heq
        exact ⟨_, ⟨last, hlast, rfl, rfl⟩, rfl⟩

end Pattern

variable {α : Type} {routes : List (Route α)} {segments : List String} {route : Route α}
  {parameters : Parameters}

section Choice

variable {best : Option (Route α × Parameters)} {other : Route α} {values : Parameters}

/-- A route that does not fit a path does not change the choice. -/
theorem chooseRoute_of_none (h : route.pattern.match? segments = none) :
    chooseRoute segments best route = best := by
  unfold chooseRoute
  rw [h]

/-- The first route that fits is chosen. -/
theorem chooseRoute_first (h : route.pattern.match? segments = some parameters) :
    chooseRoute segments none route = some (route, parameters) := by
  unfold chooseRoute
  rw [h]

/-- Another route that fits is chosen if it comes before the one found so far. -/
theorem chooseRoute_of_some (h : route.pattern.match? segments = some parameters) :
    chooseRoute segments (some (other, values)) route =
      if route.pattern.precedes other.pattern then some (route, parameters)
      else some (other, values) := by
  unfold chooseRoute
  rw [h]

/-- The better of two routes is one of them. -/
theorem chooseRoute_cases (segments : List String) (best : Option (Route α × Parameters))
    (route : Route α) :
    chooseRoute segments best route = best ∨
      ∃ parameters, route.pattern.match? segments = some parameters ∧
        chooseRoute segments best route = some (route, parameters) := by
  cases hmatch : route.pattern.match? segments with
  | none => exact .inl (chooseRoute_of_none hmatch)
  | some parameters =>
      cases best with
      | none => exact .inr ⟨parameters, rfl, chooseRoute_first hmatch⟩
      | some found =>
          rw [chooseRoute_of_some hmatch]
          split
          · exact .inr ⟨parameters, rfl, rfl⟩
          · exact .inl rfl

/-- A route that is chosen fits the path, unless it was chosen before. -/
theorem mem_of_foldl_chooseRoute
    (h : routes.foldl (chooseRoute segments) best = some (route, parameters)) :
    best = some (route, parameters) ∨
      (route ∈ routes ∧ route.pattern.match? segments = some parameters) := by
  induction routes generalizing best with
  | nil => exact .inl h
  | cons first rest ih =>
      rcases ih h with hbest | ⟨hmem, hmatch⟩
      · rcases chooseRoute_cases segments best first with hkept | ⟨_, hmatch, hchosen⟩
        · exact .inl (hkept.symm.trans hbest)
        · rw [hchosen] at hbest
          cases hbest
          exact .inr ⟨List.mem_cons_self, hmatch⟩
      · exact .inr ⟨List.mem_cons_of_mem _ hmem, hmatch⟩

end Choice

/-- A path is taken by a route that fits its segments. -/
theorem mem_of_findRoute? {path : String} {endpoint : α}
    (h : findRoute? routes path = some (endpoint, parameters)) :
    ∃ segments, segments? path = some segments ∧ ∃ route ∈ routes, route.endpoint = endpoint ∧
      route.pattern.match? segments = some parameters := by
  obtain ⟨segments, hsegments, h⟩ := Option.bind_eq_some_iff.1 h
  obtain ⟨⟨route, found⟩, hchosen, h⟩ := Option.bind_eq_some_iff.1 h
  cases h
  rcases mem_of_foldl_chooseRoute hchosen with hnone | ⟨hmem, hmatch⟩
  · cases hnone
  · exact ⟨segments, hsegments, route, hmem, rfl, hmatch⟩

end FlowGate.Http
