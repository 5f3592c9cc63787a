import FlowGate.Proofs.Http.Headers
import Mathlib.Data.List.Induction
import Mathlib.Data.List.Nodup

/-!
# Names that are spelled in several ways

`HeaderList.set` overwrites the header with exactly the given name, but `HeaderList.get?` finds a
name in any case of its letters. `get?_setAll` says what is found after any headers have been set:
the spelling that was used first decides, and of the values that were set under this spelling the
last one counts. `found_by_first_spelling` says when the list can be used as a map from names
without regard to their case: exactly when every name is always spelled alike.
-/

namespace FlowGate.HeaderList

variable {headers : HeaderList} {calls : List (String × String)} {name value spelling : String}

/-- `isSpelling name spelling` says two names differ at most in the case of their letters. -/
def isSpelling (name spelling : String) : Bool := Text.lowercase spelling = Text.lowercase name

theorem isSpelling_iff : isSpelling name spelling ↔ Text.lowercase spelling = Text.lowercase name :=
  decide_eq_true_iff

/-- The value of the last call whose name passes a test. -/
def lastValue? (test : String → Bool) (calls : List (String × String)) : Option String :=
  ((calls.filter fun call ↦ test call.1).map (·.2)).getLast?

/-- The spelling of a name in the first call with the name. -/
def firstSpelling? (name : String) (calls : List (String × String)) : Option String :=
  (calls.map (·.1)).find? (isSpelling name)

/-- `IsCaselessMap calls` says the headers that were set can be looked up without regard to the case
of their names. -/
structure IsCaselessMap (calls : List (String × String)) : Prop where
  /-- A name leads to the value that was set last under some spelling of it. -/
  get?_eq : ∀ name, (empty.setAll calls).get? name = lastValue? (isSpelling name) calls
  /-- A name stands in the list at most once, in whatever spelling. -/
  once : ∀ name, ((empty.setAll calls).names.filter (isSpelling name)).length ≤ 1

/-! ### Calls one after the other -/

theorem setAll_concat (calls : List (String × String)) (call : String × String)
    (headers : HeaderList) :
    headers.setAll (calls ++ [call]) = (headers.setAll calls).set call.1 call.2 := by
  rw [setAll, List.foldl_append]
  rfl

theorem lastValue?_concat (test : String → Bool) (calls : List (String × String))
    (call : String × String) :
    lastValue? test (calls ++ [call]) =
      if test call.1 then some call.2 else lastValue? test calls := by
  rw [lastValue?, List.filter_append, List.map_append, List.filter_cons]
  split
  · exact List.getLast?_concat
  · rw [List.filter_nil, List.map_nil, List.append_nil, lastValue?]

/-- A call does not change which spelling came first, unless it is the first one with the name. -/
theorem find?_names_set (headers : HeaderList) (spelling value name : String) :
    (headers.set spelling value).names.find? (isSpelling name) =
      (headers.names.find? (isSpelling name)).or
        (if isSpelling name spelling then some spelling else none) := by
  have hlast : [spelling].find? (isSpelling name) =
      if isSpelling name spelling then some spelling else none := by
    rw [List.find?_singleton]
  rw [names_set]
  split
  next hmem =>
    -- a spelling that stands there is not needed again
    cases hfind : headers.names.find? (isSpelling name) with
    | some first => rfl
    | none =>
        rw [Option.none_or, if_neg (List.find?_eq_none.1 hfind spelling hmem)]
  next => rw [List.find?_append, hlast]

/-- The list has the spelling of a name that was used first. -/
theorem find?_names_setAll (calls : List (String × String)) (name : String) :
    (empty.setAll calls).names.find? (isSpelling name) = firstSpelling? name calls := by
  induction calls using List.reverseRecOn with
  | nil => rfl
  | append_singleton calls call ih =>
      rw [setAll_concat, find?_names_set, ih, firstSpelling?, firstSpelling?, List.map_append,
        List.find?_append, List.map_singleton, List.find?_singleton]

theorem mem_names_setAll_iff :
    name ∈ (empty.setAll calls).names ↔ ∃ call ∈ calls, call.1 = name := by
  induction calls using List.reverseRecOn with
  | nil => simp [setAll, names, empty]
  | append_singleton calls call ih =>
      have hset : name ∈ ((empty.setAll calls).set call.1 call.2).names ↔
          name ∈ (empty.setAll calls).names ∨ call.1 = name := by
        rw [names_set]
        split
        next hmem => exact (or_iff_left_of_imp fun heq ↦ heq ▸ hmem).symm
        next => rw [List.mem_append, List.mem_singleton, eq_comm (a := name)]
      rw [setAll_concat, hset, ih]
      simp only [List.mem_append, List.mem_singleton, or_and_right, exists_or, exists_eq_left]

theorem nodup_names_setAll_empty (calls : List (String × String)) :
    (empty.setAll calls).names.Nodup := by
  have hempty : empty.names.Nodup := List.Pairwise.nil
  exact nodup_names_setAll hempty calls

/-- Under each spelling stands the value that was set last under it. -/
theorem mem_entries_setAll_empty_iff :
    (spelling, value) ∈ (empty.setAll calls).entries ↔
      lastValue? (· = spelling) calls = some value := by
  induction calls using List.reverseRecOn with
  | nil => simp [setAll, empty, lastValue?]
  | append_singleton calls call ih =>
      rw [setAll_concat, mem_entries_set_iff (nodup_names_setAll_empty calls), ih,
        lastValue?_concat, Prod.mk.injEq]
      by_cases hname : call.1 = spelling
      · rw [if_pos (decide_eq_true hname)]
        simp [hname, eq_comm]
      · rw [if_neg (by simpa using hname)]
        simp [Ne.symm hname]

/-! ### What is found -/

/-- Looking up a name finds a spelling of it, and the entry with this spelling. -/
theorem get?_eq_some_iff (h : headers.names.Nodup) :
    headers.get? name = some value ↔
      ∃ spelling, headers.names.find? (isSpelling name) = some spelling ∧
        (spelling, value) ∈ headers.entries := by
  have hnames : headers.names.find? (isSpelling name) =
      (headers.entries.find? fun entry ↦ isSpelling name entry.1).map (·.1) := List.find?_map ..
  have hget : headers.get? name =
      (headers.entries.find? fun entry ↦ isSpelling name entry.1).map (·.2) := rfl
  rw [hnames, hget]
  cases hfind : headers.entries.find? fun entry ↦ isSpelling name entry.1 with
  | none => simp
  | some entry =>
      have hmem := List.mem_of_find?_eq_some hfind
      simp only [Option.map_some, Option.some.injEq, exists_eq_left']
      constructor
      · rintro rfl
        exact hmem
      · -- no other entry has the name of this one
        intro hother
        exact congrArg Prod.snd (List.inj_on_of_nodup_map h hmem hother rfl)

/-- After headers have been set, a name leads to the value that was set last under the spelling of
the name that was used first. -/
theorem get?_setAll (calls : List (String × String)) (name : String) :
    (empty.setAll calls).get? name =
      (firstSpelling? name calls).bind fun spelling ↦ lastValue? (· = spelling) calls := by
  ext value
  rw [get?_eq_some_iff (nodup_names_setAll_empty calls), find?_names_setAll,
    Option.bind_eq_some_iff]
  simp only [mem_entries_setAll_empty_iff]

/-- `SpelledAlike calls` says no name is spelled in two ways. -/
def SpelledAlike (calls : List (String × String)) : Prop :=
  ∀ call ∈ calls, ∀ other ∈ calls,
    Text.lowercase call.1 = Text.lowercase other.1 → call.1 = other.1

/-- Where all spellings of a name are the same, a call has the name only in this spelling. -/
theorem SpelledAlike.isSpelling_eq (h : SpelledAlike calls)
    (hfirst : firstSpelling? name calls = some spelling) {call : String × String}
    (hcall : call ∈ calls) : isSpelling name call.1 = decide (call.1 = spelling) := by
  obtain ⟨first, hmem, rfl⟩ := List.mem_map.1 (List.mem_of_find?_eq_some hfirst)
  have hname := isSpelling_iff.1 (List.find?_some hfirst)
  rw [isSpelling, decide_eq_decide]
  exact ⟨fun hcase ↦ h call hcall first hmem (hcase.trans hname.symm), fun heq ↦ heq ▸ hname⟩

theorem SpelledAlike.isCaselessMap (h : SpelledAlike calls) : IsCaselessMap calls where
  get?_eq name := by
    rw [get?_setAll]
    cases hfirst : firstSpelling? name calls with
    | none =>
        have hnone : (calls.filter fun call ↦ isSpelling name call.1) = [] := by
          rw [List.filter_eq_nil_iff]
          intro call hcall
          exact List.find?_eq_none.1 hfirst call.1 (List.mem_map_of_mem hcall)
        rw [lastValue?, hnone]
        rfl
    | some spelling =>
        rw [Option.bind_some, lastValue?, lastValue?,
          List.filter_congr fun call hcall ↦ (h.isSpelling_eq hfirst hcall).symm]
  once name := by
    -- the names differ from each other, and at most one of them spells this name
    cases hfirst : firstSpelling? name calls with
    | none =>
        have hnone : (empty.setAll calls).names.filter (isSpelling name) = [] :=
          List.filter_eq_nil_iff.2 (List.find?_eq_none.1 (find?_names_setAll calls name ▸ hfirst))
        rw [hnone]
        exact Nat.zero_le 1
    | some spelling =>
        have hall : ∀ other ∈ (empty.setAll calls).names.filter (isSpelling name),
            other = spelling := by
          intro other hother
          obtain ⟨hmem, hname⟩ := List.mem_filter.1 hother
          obtain ⟨call, hcall, rfl⟩ := mem_names_setAll_iff.1 hmem
          rwa [h.isSpelling_eq hfirst hcall, decide_eq_true_iff] at hname
        have hnodup := (nodup_names_setAll_empty calls).filter (isSpelling name)
        rw [List.eq_replicate_of_mem hall, List.nodup_replicate] at hnodup
        exact hnodup

/-- A list in which no name stands twice has been given each name in one spelling only. -/
theorem IsCaselessMap.spelledAlike (h : IsCaselessMap calls) : SpelledAlike calls := by
  intro call hcall other hother hname
  have hspelling {call : String × String} (hcall : call ∈ calls)
      (hname : Text.lowercase call.1 = Text.lowercase other.1) :
      call.1 ∈ (empty.setAll calls).names.filter (isSpelling other.1) :=
    List.mem_filter.2 ⟨mem_names_setAll_iff.2 ⟨call, hcall, rfl⟩, isSpelling_iff.2 hname⟩
  have hfirst := hspelling hcall hname
  have hsecond := hspelling hother rfl
  match hnames : (empty.setAll calls).names.filter (isSpelling other.1), h.once other.1 with
  | [], _ => exact absurd (hnames ▸ hfirst) List.not_mem_nil
  | [spelling], _ =>
      rw [hnames, List.mem_singleton] at hfirst hsecond
      rw [hfirst, hsecond]

/-- Whatever headers have been set, a name leads to the value that was set last under the spelling
of it that was used first, and the list has each spelling once, with its last value. It can be
looked up without regard to the case of the names exactly if no name was spelled in two ways. -/
theorem found_by_first_spelling (calls : List (String × String)) :
    (∀ name, (empty.setAll calls).get? name =
      (firstSpelling? name calls).bind fun spelling ↦ lastValue? (· = spelling) calls) ∧
    (empty.setAll calls).names.Nodup ∧
    (∀ spelling value, (spelling, value) ∈ (empty.setAll calls).entries ↔
      lastValue? (· = spelling) calls = some value) ∧
    (IsCaselessMap calls ↔ SpelledAlike calls) :=
  ⟨get?_setAll calls, nodup_names_setAll_empty calls, fun _ _ ↦ mem_entries_setAll_empty_iff,
    IsCaselessMap.spelledAlike, SpelledAlike.isCaselessMap⟩

/-- A header that was set in two spellings stands there twice, and the older value is found, even
where only the newer one can be sent. -/
theorem two_spellings_not_isCaselessMap :
    let calls := [("Vary", "Origin\n"), ("vary", "*")]
    ¬ IsCaselessMap calls ∧ (empty.setAll calls).entries = calls ∧
      (empty.setAll calls).get? "vary" = some "Origin\n" ∧
      ((empty.setAll calls).copyOnto empty).get? "vary" = some "*" := by
  intro calls
  have hfound : (empty.setAll calls).get? "vary" = some "Origin\n" := by decide
  have hlast : lastValue? (isSpelling "vary") calls = some "*" := by decide
  refine ⟨fun h ↦ ?_, rfl, hfound, by decide⟩
  have hget := h.get?_eq "vary"
  rw [hfound, hlast] at hget
  exact absurd hget (by decide)

end FlowGate.HeaderList
