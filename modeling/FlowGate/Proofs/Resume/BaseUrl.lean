import FlowGate.Proofs.Text.Split
import FlowGate.Resume.Token

/-!
# Base URLs

`IsBaseUrl` says how a base URL is put together from a scheme, a host and a path, with any number of
slashes at its end. `splitBaseUrl?_eq_some_iff` says that the parts that are found are those it was
put together from, and `isSome_splitBaseUrl?_iff` which texts have such parts. Without the slashes
at its end a base URL has the same parts (`IsBaseUrl.trimmed`).
-/

namespace FlowGate

/-- `IsBaseUrl url scheme host path` says the URL consists of the scheme, up to the first colon with
two slashes, of the host, up to the next slash, and of the path, up to the slashes at the end. -/
structure IsBaseUrl (url scheme host path : String) : Prop where
  whole : ∃ count, url = scheme ++ "://" ++ host ++ path ++
    String.ofList (List.replicate count '/')
  /-- The scheme ends at the first place where it may end. -/
  first : ∀ start rest, url = start ++ "://" ++ rest → scheme.length ≤ start.length
  scheme_ne_empty : scheme ≠ ""
  host_ne_empty : host ≠ ""
  slash_not_mem_host : '/' ∉ host.toList
  /-- The path is empty or begins with a slash. -/
  path_start : path = "" ∨ path.toList.head? = some '/'
  path_end : path.toList.getLast? ≠ some '/'

/-- Characters that are all slashes are a run of slashes. -/
theorem eq_replicate_of_isSlash {slashes : List Char} (h : ∀ c ∈ slashes, Text.isSlash c = true) :
    slashes = List.replicate slashes.length '/' :=
  List.eq_replicate_iff.2 ⟨rfl, fun c hc ↦ of_decide_eq_true (h c hc)⟩

/-- What is left of a list without the slashes at its end, and how many there were. -/
theorem exists_eq_append_slashes (tail : List Char) :
    ∃ count, tail = tail.rdropWhile Text.isSlash ++ List.replicate count '/' ∧
      (tail.rdropWhile Text.isSlash).getLast? ≠ some '/' := by
  have hslashes : ∀ c ∈ tail.rtakeWhile Text.isSlash, Text.isSlash c = true :=
    fun _ ↦ List.mem_rtakeWhile_imp
  refine ⟨(tail.rtakeWhile Text.isSlash).length, ?_, fun hlast ↦ ?_⟩
  · rw [← eq_replicate_of_isSlash hslashes, List.rdropWhile_append_rtakeWhile]
  · rw [List.rdropWhile, List.getLast?_reverse] at hlast
    have hnot := List.head?_dropWhile_not Text.isSlash tail.reverse
    rw [hlast] at hnot
    exact absurd hnot (by decide)

variable {url scheme host path rest : String}

/-- `IsHostAndPath rest host path` says the rest of a base URL behind its scheme consists of the
host and the path, and of slashes. -/
structure IsHostAndPath (rest host path : String) : Prop where
  whole : ∃ count, rest = host ++ path ++ String.ofList (List.replicate count '/')
  host_ne_empty : host ≠ ""
  slash_not_mem_host : '/' ∉ host.toList
  path_start : path = "" ∨ path.toList.head? = some '/'
  path_end : path.toList.getLast? ≠ some '/'

/-- Without the slashes at the end a base URL has the same parts. -/
theorem IsBaseUrl.trimmed (h : IsBaseUrl url scheme host path) :
    IsBaseUrl (scheme ++ "://" ++ host ++ path) scheme host path where
  whole := ⟨0, by simp⟩
  first start rest hother := by
    obtain ⟨count, hwhole⟩ := h.whole
    refine h.first start (rest ++ String.ofList (List.replicate count '/')) ?_
    rw [hwhole, hother, String.append_assoc]
  scheme_ne_empty := h.scheme_ne_empty
  host_ne_empty := h.host_ne_empty
  slash_not_mem_host := h.slash_not_mem_host
  path_start := h.path_start
  path_end := h.path_end

/-- A base URL is a scheme, and behind it a host and a path. -/
theorem isBaseUrl_iff_cutsAt :
    IsBaseUrl url scheme host path ↔ ∃ rest, Text.CutsAt "://" url scheme rest ∧ scheme ≠ "" ∧
      IsHostAndPath rest host path := by
  constructor
  · rintro ⟨⟨count, hwhole⟩, hfirst, hscheme, hhost, hslash, hstart, hend⟩
    refine ⟨host ++ path ++ String.ofList (List.replicate count '/'), ⟨?_, hfirst⟩, hscheme,
      ⟨count, rfl⟩, hhost, hslash, hstart, hend⟩
    rw [hwhole]
    simp only [String.append_assoc]
  · rintro ⟨rest, ⟨hwhole, hfirst⟩, hscheme, ⟨count, hrest⟩, hhost, hslash, hstart, hend⟩
    refine ⟨⟨count, ?_⟩, hfirst, hscheme, hhost, hslash, hstart, hend⟩
    rw [hwhole, hrest]
    simp only [String.append_assoc]

/-- A list is divided where the first unwanted character stands. -/
theorem takeWhile_dropWhile_append {wanted : Char → Bool} {front back : List Char}
    (hfront : ∀ c ∈ front, wanted c = true) (hback : ∀ c, back.head? = some c → wanted c = false) :
    (front ++ back).takeWhile wanted = front ∧ (front ++ back).dropWhile wanted = back := by
  have hdrop : (front ++ back).dropWhile wanted = back := by
    rw [List.dropWhile_append_of_pos hfront, Text.dropWhile_eq_self hback]
  have hboth := List.takeWhile_append_dropWhile (p := wanted) (l := front ++ back)
  rw [hdrop] at hboth
  exact ⟨List.append_cancel_right hboth, hdrop⟩

/-- The host is what stands in front of the first slash, and the path what stands behind it, up to
the slashes at the end. -/
theorem isHostAndPath_iff :
    IsHostAndPath rest host path ↔ host ≠ "" ∧
      String.ofList (rest.toList.takeWhile (!Text.isSlash ·)) = host ∧
      Text.trimEndBy Text.isSlash (String.ofList (rest.toList.dropWhile (!Text.isSlash ·))) =
        path := by
  constructor
  · rintro ⟨⟨count, rfl⟩, hhost, hslash, hstart, hend⟩
    have hfront : ∀ c ∈ host.toList, (!Text.isSlash c) = true := by
      intro c hc
      have hne : c ≠ '/' := fun heq ↦ hslash (heq ▸ hc)
      rw [Text.isSlash, decide_eq_false hne, Bool.not_false]
    -- behind the host the path begins, or the slashes do, or nothing is left
    have hback : ∀ c, (path.toList ++ List.replicate count '/').head? = some c →
        (!Text.isSlash c) = false := by
      intro c hc
      have hc' : c = '/' := by
        rcases hstart with rfl | hstart
        · exact List.eq_of_mem_replicate (List.mem_of_head? hc)
        · rw [List.head?_append, hstart] at hc
          exact (Option.some.inj hc).symm
      rw [hc']
      rfl
    have hpieces : (host ++ path ++ String.ofList (List.replicate count '/')).toList =
        host.toList ++ (path.toList ++ List.replicate count '/') := by
      simp
    obtain ⟨htake, hdrop⟩ := takeWhile_dropWhile_append hfront hback
    refine ⟨hhost, ?_, ?_⟩
    · rw [hpieces, htake, String.ofList_toList]
    · rw [hpieces, hdrop, ← String.toList_inj, Text.toList_trimEndBy, String.toList_ofList,
        Text.rdropWhile_append, Text.rdropWhile_eq_self]
      · exact fun c hc ↦ decide_eq_false fun heq ↦ hend (heq ▸ hc)
      · exact fun c hc ↦ decide_eq_true (List.eq_of_mem_replicate hc)
  · rintro ⟨hhost, rfl, rfl⟩
    obtain ⟨count, htail, hend⟩ :=
      exists_eq_append_slashes (rest.toList.dropWhile (!Text.isSlash ·))
    refine ⟨⟨count, ?_⟩, hhost, ?_, ?_, ?_⟩
    · rw [← String.toList_inj]
      simp only [String.toList_append, String.toList_ofList, Text.toList_trimEndBy,
        List.append_assoc, ← htail, List.takeWhile_append_dropWhile]
    · rw [String.toList_ofList]
      intro hmem
      exact absurd (List.all_eq_true.1 List.all_takeWhile _ hmem) (by decide)
    · have hhead := List.head?_dropWhile_not (!Text.isSlash ·) rest.toList
      rw [htail, List.head?_append] at hhead
      rw [Text.toList_trimEndBy, String.toList_ofList, ← String.toList_eq_nil_iff,
        Text.toList_trimEndBy, String.toList_ofList]
      cases hpath : (rest.toList.dropWhile (!Text.isSlash ·)).rdropWhile Text.isSlash with
      | nil => exact .inl rfl
      | cons c path =>
          rw [hpath] at hhead
          have hc : Text.isSlash c = true := by simpa using hhead
          exact .inr (congrArg some (of_decide_eq_true hc))
    · rwa [Text.toList_trimEndBy, String.toList_ofList]

/-- The parts of a base URL are those that it was put together from. -/
theorem splitBaseUrl?_eq_some_iff :
    splitBaseUrl? url = some (scheme, host, path) ↔ IsBaseUrl url scheme host path := by
  rw [isBaseUrl_iff_cutsAt]
  simp only [splitBaseUrl?, Option.bind_eq_bind, Option.bind_eq_some_iff, Prod.exists,
    Text.splitOnceAt?_eq_some_iff, Option.ite_none_left_eq_some, not_or, Option.some.injEq,
    Prod.mk.injEq, isHostAndPath_iff]
  constructor
  · rintro ⟨_, rest, hcut, ⟨hscheme, hhost⟩, rfl, rfl, rfl⟩
    exact ⟨rest, hcut, hscheme, hhost, rfl, rfl⟩
  · rintro ⟨rest, hcut, hscheme, hhost, rfl, rfl⟩
    exact ⟨scheme, rest, hcut, ⟨hscheme, hhost⟩, rfl, rfl, rfl⟩

/-- A text has the parts of a base URL if it has a scheme, and what stands behind it is not empty
and does not begin with a slash. -/
theorem isSome_splitBaseUrl?_iff :
    (splitBaseUrl? url).isSome = true ↔ ∃ scheme rest, Text.CutsAt "://" url scheme rest ∧
      scheme ≠ "" ∧ rest ≠ "" ∧ rest.toList.head? ≠ some '/' := by
  rw [Option.isSome_iff_exists]
  constructor
  · rintro ⟨⟨scheme, host, path⟩, hsplit⟩
    obtain ⟨rest, hcut, hscheme, hrest⟩ :=
      isBaseUrl_iff_cutsAt.1 (splitBaseUrl?_eq_some_iff.1 hsplit)
    obtain ⟨count, rfl⟩ := hrest.whole
    refine ⟨scheme, _, hcut, hscheme, ?_⟩
    -- the rest begins with the host, which has a character and no slash
    cases hhost : host.toList with
    | nil => exact absurd (String.toList_eq_nil_iff.1 hhost) hrest.host_ne_empty
    | cons c host' =>
        have hc : c ≠ '/' := fun heq ↦ hrest.slash_not_mem_host (by simp [hhost, heq])
        rw [ne_eq, ← String.toList_eq_nil_iff]
        simp [hhost, hc]
  · rintro ⟨scheme, rest, hcut, hscheme, hrest, hslash⟩
    have hhost : String.ofList (rest.toList.takeWhile (!Text.isSlash ·)) ≠ "" := by
      rw [ne_eq, ← String.toList_eq_nil_iff, String.toList_ofList]
      cases hchars : rest.toList with
      | nil => exact absurd (String.toList_eq_nil_iff.1 hchars) hrest
      | cons c chars =>
          have hc : c ≠ '/' := fun heq ↦ hslash (by rw [hchars, heq]; rfl)
          rw [List.takeWhile_cons_of_pos (by simpa [Text.isSlash] using hc)]
          exact List.cons_ne_nil _ _
    have hparts := isHostAndPath_iff.2 ⟨hhost, rfl, rfl⟩
    exact ⟨_, splitBaseUrl?_eq_some_iff.2 (isBaseUrl_iff_cutsAt.2 ⟨rest, hcut, hscheme, hparts⟩)⟩

/-- What holds of a text that is taken apart as a base URL. -/
structure SplitsExactly (url : String) : Prop where
  /-- It has parts exactly if it has a scheme, and what stands behind it is not empty and does not
  begin with a slash. -/
  isSome_iff : (splitBaseUrl? url).isSome = true ↔
    ∃ scheme rest, Text.CutsAt "://" url scheme rest ∧ scheme ≠ "" ∧ rest ≠ "" ∧
      rest.toList.head? ≠ some '/'
  /-- The parts are those that it was put together from. -/
  parts_iff : ∀ scheme host path,
    splitBaseUrl? url = some (scheme, host, path) ↔ IsBaseUrl url scheme host path
  /-- The parts, put together, are taken apart again. -/
  again : ∀ scheme host path, splitBaseUrl? url = some (scheme, host, path) →
    splitBaseUrl? (scheme ++ "://" ++ host ++ path) = some (scheme, host, path)

/-- Every text is taken apart exactly. -/
theorem base_urls_split_exactly (url : String) : SplitsExactly url where
  isSome_iff := isSome_splitBaseUrl?_iff
  parts_iff _ _ _ := splitBaseUrl?_eq_some_iff
  again _ _ _ hsplit :=
    splitBaseUrl?_eq_some_iff.2 (splitBaseUrl?_eq_some_iff.1 hsplit).trimmed

/-- A colon with two slashes behind the host belongs to the host and the path. -/
example : splitBaseUrl? "https://a://b//c//" = some ("https", "a:", "//b//c") := by decide

end FlowGate
