import FlowGate.Http.Header
import FlowGate.Proofs.Text.Split

/-!
# The headers with one name

`valuesOf` lists the values of all headers with a name. The lemmas say what setting a header and
copying a list of headers do to it: other names keep their values, and a name that was not there
gets the one that is set. `isValueText_intercalate` says values that can be sent can be sent in one.
`setAll` sets headers one after the other. `mem_entries_setAll_iff` says what stands in the list
then, and `nodup_names_setAll` that no name stands there twice.
-/

namespace FlowGate.HeaderList

variable {headers target : HeaderList} {name other value : String}

/-- The values of the headers with a name in some case of its letters, in order. -/
def valuesOf (headers : HeaderList) (name : String) : List String :=
  (headers.entries.filter fun entry ↦ Text.lowercase entry.1 = Text.lowercase name).map (·.2)

theorem valuesOf_cons (entry : String × String) (entries : List (String × String)) (name : String) :
    valuesOf ⟨entry :: entries⟩ name =
      if Text.lowercase entry.1 = Text.lowercase name then entry.2 :: valuesOf ⟨entries⟩ name
      else valuesOf ⟨entries⟩ name := by
  simp only [valuesOf, List.filter_cons, decide_eq_true_eq]
  split <;> rfl

/-- Only the letters of a name matter, not their case. -/
theorem valuesOf_congr (h : Text.lowercase name = Text.lowercase other) (headers : HeaderList) :
    headers.valuesOf name = headers.valuesOf other := by
  rw [valuesOf, valuesOf, h]

/-- Setting a header leaves the headers with other names alone. -/
theorem valuesOf_set_of_ne (h : Text.lowercase name ≠ Text.lowercase other) (headers : HeaderList)
    (value : String) : (headers.set name value).valuesOf other = headers.valuesOf other := by
  obtain ⟨entries⟩ := headers
  show valuesOf ⟨setEntry name value entries⟩ other = _
  induction entries with
  | nil => rw [setEntry, valuesOf_cons, if_neg h]
  | cons entry rest ih =>
      rw [setEntry]
      split
      · next hname =>
          subst hname
          rw [valuesOf_cons, valuesOf_cons, if_neg h, if_neg h]
      · rw [valuesOf_cons, valuesOf_cons, ih]

/-- A header that was not there has the value that is set, once. -/
theorem valuesOf_set_of_absent (h : headers.valuesOf name = []) (value : String) :
    (headers.set name value).valuesOf name = [value] := by
  obtain ⟨entries⟩ := headers
  show valuesOf ⟨setEntry name value entries⟩ name = _
  induction entries with
  | nil => rw [setEntry, valuesOf_cons, if_pos rfl]; rfl
  | cons entry rest ih =>
      rw [valuesOf_cons] at h
      split at h
      · cases h
      · next hne =>
          have hname : entry.1 ≠ name := fun heq ↦ hne (congrArg Text.lowercase heq)
          rw [setEntry, if_neg hname, valuesOf_cons, if_neg hne, ih h]

/-- Headers without a name do not change the values of that name where they are copied. -/
theorem valuesOf_copyOnto_of_absent (h : headers.valuesOf name = []) (target : HeaderList) :
    (headers.copyOnto target).valuesOf name = target.valuesOf name := by
  obtain ⟨entries⟩ := headers
  induction entries generalizing target with
  | nil => rfl
  | cons entry rest ih =>
      rw [valuesOf_cons] at h
      split at h
      · cases h
      · next hne =>
          show (copyOnto ⟨rest⟩ (if isValueText entry.2 then target.set entry.1 entry.2
            else target)).valuesOf name = _
          rw [ih _ h]
          split
          · exact valuesOf_set_of_ne hne target entry.2
          · rfl

/-- A name that stands once in a list of headers, with a value that can be sent, stands once where
they are copied unless it was there before. -/
theorem valuesOf_copyOnto (hvalues : headers.valuesOf name = [value])
    (hsend : isValueText value = true) (habsent : target.valuesOf name = []) :
    (headers.copyOnto target).valuesOf name = [value] := by
  obtain ⟨entries⟩ := headers
  induction entries generalizing target with
  | nil => cases hvalues
  | cons entry rest ih =>
      show (copyOnto ⟨rest⟩ (if isValueText entry.2 then target.set entry.1 entry.2
        else target)).valuesOf name = _
      rw [valuesOf_cons] at hvalues
      split at hvalues
      · -- this is the header, and none of the rest has its name
        next hname =>
        obtain ⟨rfl, hrest⟩ := List.cons.inj hvalues
        rw [if_pos hsend, valuesOf_copyOnto_of_absent hrest, ← valuesOf_congr hname]
        exact valuesOf_set_of_absent ((valuesOf_congr hname target).trans habsent) entry.2
      · next hne =>
        refine ih ?_ hvalues
        split
        · rw [valuesOf_set_of_ne hne, habsent]
        · exact habsent

/-- A received value that can be read can be sent. -/
theorem isValueText_of_isReadable (h : isReadable value = true) : isValueText value = true := by
  rw [isReadable, List.all_eq_true] at h
  rw [isValueText, List.all_eq_true]
  intro c hc
  have hreadable := h c hc
  simp only [isValueChar, Bool.or_eq_true, Bool.and_eq_true, decide_eq_true_eq] at hreadable ⊢
  rcases hreadable with htab | ⟨hlow, hhigh⟩
  · exact .inl htab
  · exact .inr ⟨hlow, bne_iff_ne.2 (Char.ne_of_lt hhigh)⟩

theorem isValueText_append (start rest : String) :
    isValueText (start ++ rest) = (isValueText start && isValueText rest) := by
  rw [isValueText, String.toList_append, List.all_append]
  rfl

/-- Values that can be sent can be sent in one. -/
theorem isValueText_intercalate {between : String} {values : List String}
    (hbetween : isValueText between = true) (h : ∀ value ∈ values, isValueText value = true) :
    isValueText (String.intercalate between values) = true :=
  Text.all_toList_intercalate hbetween h

/-! ### Headers that are set one after the other -/

/-- The names of the headers, in order. -/
def names (headers : HeaderList) : List String := headers.entries.map (·.1)

/-- The list after headers have been set in it, one after the other. -/
def setAll (changes : List (String × String)) (headers : HeaderList) : HeaderList :=
  changes.foldl (fun headers change ↦ headers.set change.1 change.2) headers

/-- A new name is put at the end, and one that is there keeps its place. -/
theorem names_set (headers : HeaderList) (name value : String) :
    (headers.set name value).names =
      if name ∈ headers.names then headers.names else headers.names ++ [name] := by
  obtain ⟨entries⟩ := headers
  show (setEntry name value entries).map (·.1) = if name ∈ entries.map (·.1) then entries.map (·.1)
    else entries.map (·.1) ++ [name]
  induction entries with
  | nil => rfl
  | cons entry rest ih =>
      rw [setEntry, List.map_cons]
      by_cases hname : entry.1 = name
      · rw [if_pos hname, if_pos (List.mem_cons.2 (.inl hname.symm)), ← hname]
        rfl
      · have hmem : name ∈ entry.1 :: rest.map (·.1) ↔ name ∈ rest.map (·.1) := by
          rw [List.mem_cons, or_iff_right (Ne.symm hname)]
        rw [if_neg hname, List.map_cons, ih]
        simp only [hmem]
        split <;> rfl

theorem nodup_names_set (h : headers.names.Nodup) (name value : String) :
    (headers.set name value).names.Nodup := by
  rw [names_set]
  split
  · exact h
  · next hnew =>
    rw [List.nodup_append]
    refine ⟨h, List.pairwise_singleton _ name, fun other hother last hlast ↦ ?_⟩
    obtain rfl := List.mem_singleton.1 hlast
    exact fun heq ↦ hnew (heq ▸ hother)

/-- Where no name stands twice, setting a header replaces exactly the entry with its name. -/
theorem mem_entries_set_iff (h : headers.names.Nodup) {entry : String × String} :
    entry ∈ (headers.set name value).entries ↔
      entry = (name, value) ∨ entry.1 ≠ name ∧ entry ∈ headers.entries := by
  obtain ⟨entries⟩ := headers
  show entry ∈ setEntry name value entries ↔
    entry = (name, value) ∨ entry.1 ≠ name ∧ entry ∈ entries
  induction entries with
  | nil => simp [setEntry]
  | cons first rest ih =>
      obtain ⟨hfirst, hrest⟩ := List.nodup_cons.1 h
      rw [setEntry, List.mem_cons]
      by_cases hname : first.1 = name
      · -- the name does not stand in the rest
        have hother (hmem : entry ∈ rest) : entry.1 ≠ name := by
          intro heq
          have hagain : entry.1 ∈ rest.map (·.1) := List.mem_map_of_mem hmem
          rw [heq.trans hname.symm] at hagain
          exact hfirst hagain
        have hnot : entry = first → ¬ entry.1 ≠ name := fun heq hne ↦ hne (heq ▸ hname)
        rw [if_pos hname, List.mem_cons]
        exact ⟨.imp_right fun hmem ↦ ⟨hother hmem, .inr hmem⟩,
          .imp_right fun hmem ↦ hmem.2.resolve_left fun heq ↦ hnot heq hmem.1⟩
      · have hkept : entry = first → entry.1 ≠ name := fun heq ↦ heq ▸ hname
        rw [if_neg hname, List.mem_cons, ih hrest, and_or_left, or_left_comm,
          and_iff_right_of_imp hkept]

section Changes

variable {changes : List (String × String)}

theorem nodup_names_setAll (h : headers.names.Nodup) (changes : List (String × String)) :
    (headers.setAll changes).names.Nodup := by
  induction changes generalizing headers with
  | nil => exact h
  | cons change rest ih => exact ih (nodup_names_set h change.1 change.2)

/-- The headers that were there keep their places. -/
theorem names_prefix_setAll (changes : List (String × String)) (headers : HeaderList) :
    headers.names <+: (headers.setAll changes).names := by
  induction changes generalizing headers with
  | nil => exact List.prefix_rfl
  | cons change rest ih =>
      refine List.IsPrefix.trans ?_ (ih (headers.set change.1 change.2))
      rw [names_set]
      split
      · exact List.prefix_rfl
      · exact List.prefix_append _ _

/-- Setting headers with different names replaces the entries with these names. -/
theorem mem_entries_setAll_iff (h : headers.names.Nodup) (hchanges : (changes.map (·.1)).Nodup)
    {entry : String × String} :
    entry ∈ (headers.setAll changes).entries ↔
      entry ∈ changes ∨ entry.1 ∉ changes.map (·.1) ∧ entry ∈ headers.entries := by
  induction changes generalizing headers with
  | nil => simp [setAll]
  | cons change rest ih =>
      obtain ⟨hchange, hrest⟩ := List.nodup_cons.1 hchanges
      have hlast : entry = change → entry.1 ∉ rest.map (·.1) := fun heq ↦ heq ▸ hchange
      show entry ∈ ((headers.set change.1 change.2).setAll rest).entries ↔ _
      rw [ih (nodup_names_set h change.1 change.2) hrest, mem_entries_set_iff h, and_or_left,
        and_iff_right_of_imp hlast, or_left_comm, List.mem_cons, List.map_cons, List.mem_cons,
        not_or, and_assoc, and_left_comm, or_assoc]

end Changes

end FlowGate.HeaderList
