import FlowGate.Proofs.Text.Trim

/-!
# The pieces of a text

`splitOn_append` says the pieces of two texts with a separator between them are those of the one and
of the other, `splitOn_eq_singleton_iff` which texts are in one piece, and `intercalate_splitOn`
that the pieces make up the text again. `FirstPiece` relates a text to its first piece, and
`head?_splitOn_eq_some_iff` says that splitting finds it. `CutsAt` relates a text to what stands
before and after the first occurrence of another one, and `splitOnceAt?_eq_some_iff` says that this
is where it is cut.
-/

namespace FlowGate.Text

variable {separator : Char} {text other : String}

/-- Joined texts have only characters that the texts and the text between them have. -/
theorem all_toList_intercalate {kind : Char → Bool} {between : String} {texts : List String}
    (hbetween : between.toList.all kind = true)
    (h : ∀ text ∈ texts, text.toList.all kind = true) :
    (String.intercalate between texts).toList.all kind = true := by
  induction texts with
  | nil => rfl
  | cons first others ih =>
      obtain ⟨hfirst, hothers⟩ := List.forall_mem_cons.1 h
      cases others with
      | nil => rwa [String.intercalate_singleton]
      | cons second others =>
          rw [String.intercalate_cons_cons, String.toList_append, String.toList_append,
            List.all_append, List.all_append, hfirst, hbetween, ih hothers]
          rfl

/-- The pieces of a text make it up again. -/
theorem intercalate_splitOn (separator : Char) (text : String) :
    String.intercalate (String.singleton separator) (splitOn separator text) = text := by
  rw [← String.toList_inj, String.toList_intercalate, String.toList_singleton, splitOn,
    List.map_map]
  have hlists : String.toList ∘ String.ofList = id := funext fun _ ↦ String.toList_ofList
  rw [hlists, List.map_id, List.intercalate_splitOn]

/-- No piece of a list contains the separator. -/
theorem not_mem_of_mem_listSplitOn {chars piece : List Char} (h : piece ∈ chars.splitOn separator) :
    separator ∉ piece := by
  induction chars generalizing piece with
  | nil =>
      obtain rfl := List.mem_singleton.1 h
      exact List.not_mem_nil
  | cons c rest ih =>
      rw [List.splitOn_cons_eq_if_modifyHead] at h
      split at h
      · rcases List.mem_cons.1 h with rfl | h
        · exact List.not_mem_nil
        · exact ih h
      next hc =>
      cases hrest : rest.splitOn separator with
      | nil => exact absurd hrest (List.splitOn_ne_nil separator rest)
      | cons first others =>
          rw [hrest] at h ih
          rcases List.mem_cons.1 h with rfl | h
          · rw [List.mem_cons, not_or]
            exact ⟨fun heq ↦ hc (beq_iff_eq.2 heq.symm), ih List.mem_cons_self⟩
          · exact ih (List.mem_cons_of_mem _ h)

/-- No piece of a text contains the separator. -/
theorem not_mem_of_mem_splitOn {piece : String} (h : piece ∈ splitOn separator text) :
    separator ∉ piece.toList := by
  obtain ⟨chars, hchars, rfl⟩ := List.mem_map.1 h
  rw [String.toList_ofList]
  exact not_mem_of_mem_listSplitOn hchars

/-- A text is in one piece if it has no separator, and the piece is the text itself. -/
theorem splitOn_eq_singleton_iff {piece : String} :
    splitOn separator text = [piece] ↔ piece = text ∧ separator ∉ text.toList := by
  constructor
  · intro h
    have htext := intercalate_splitOn separator text
    rw [h, String.intercalate_singleton] at htext
    obtain rfl : piece = text := htext
    exact ⟨rfl, not_mem_of_mem_splitOn (h ▸ List.mem_singleton_self piece)⟩
  · rintro ⟨rfl, hmem⟩
    rw [splitOn, List.splitOn_eq_singleton hmem, List.map_singleton, String.ofList_toList]

theorem splitOn_ne_nil (separator : Char) (text : String) : splitOn separator text ≠ [] :=
  fun hnil ↦ List.splitOn_ne_nil _ _ (List.map_eq_nil_iff.1 hnil)

/-- The pieces of two texts with a separator between them. -/
theorem splitOn_append (text other : String) :
    splitOn separator (text ++ String.singleton separator ++ other) =
      splitOn separator text ++ splitOn separator other := by
  rw [splitOn, String.toList_append, String.toList_append, String.toList_singleton,
    List.append_assoc, List.singleton_append, List.splitOn_append_cons_self, List.map_append]
  rfl

/-- `FirstPiece separator text piece` says the piece is the text up to its first separator, or the
whole text if there is none. -/
structure FirstPiece (separator : Char) (text piece : String) : Prop where
  whole : text = piece ∨ ∃ rest, text = piece ++ String.singleton separator ++ rest
  not_mem : separator ∉ piece.toList

/-- A text begins with the first of its pieces. -/
theorem head?_splitOn_eq_some_iff {piece : String} :
    (splitOn separator text).head? = some piece ↔ FirstPiece separator text piece := by
  constructor
  · intro h
    obtain ⟨pieces, hpieces⟩ := List.head?_eq_some_iff.1 h
    refine ⟨?_, not_mem_of_mem_splitOn (hpieces ▸ List.mem_cons_self)⟩
    have htext := intercalate_splitOn separator text
    rw [hpieces] at htext
    cases pieces with
    | nil => exact .inl (htext.symm.trans String.intercalate_singleton)
    | cons second others => exact .inr ⟨_, htext.symm.trans String.intercalate_cons_cons⟩
  · rintro ⟨rfl | ⟨rest, rfl⟩, hmem⟩
    · rw [splitOn_eq_singleton_iff.2 ⟨rfl, hmem⟩, List.head?_singleton]
    · rw [splitOn_append, splitOn_eq_singleton_iff.2 ⟨rfl, hmem⟩, List.singleton_append,
        List.head?_cons]

/-- What stands behind a separator makes no difference to the first piece. -/
theorem head?_splitOn_append (text other : String) :
    (splitOn separator (text ++ String.singleton separator ++ other)).head? =
      (splitOn separator text).head? := by
  rw [splitOn_append]
  cases hpieces : splitOn separator text with
  | nil => exact absurd hpieces (splitOn_ne_nil separator text)
  | cons piece pieces => rfl

/-! ## The first occurrence of a text -/

section FirstOccurrence

variable {cut list before after : List Char}

/-- A list is cut if a run of characters occurs in it at all. -/
theorem ne_append_of_splitListOnce? (h : splitListOnce? cut list = none) (start rest : List Char) :
    list ≠ start ++ cut ++ rest := by
  induction list generalizing start with
  | nil =>
      intro hlist
      have hcut : cut = [] := by
        have hnil := (List.append_eq_nil_iff.1 hlist.symm).1
        exact (List.append_eq_nil_iff.1 hnil).2
      simp [splitListOnce?, hcut] at h
  | cons c list ih =>
      rw [splitListOnce?] at h
      split at h
      · cases h
      next hfront =>
      intro hlist
      cases start with
      | nil => exact hfront (List.isPrefixOf_iff_prefix.2 ⟨rest, hlist.symm⟩)
      | cons first start => exact ih (Option.map_eq_none_iff.1 h) start (List.cons.inj hlist).2

/-- A list is cut where the run of characters occurs, and it occurs nowhere before. -/
theorem splitListOnce?_spec (h : splitListOnce? cut list = some (before, after)) :
    list = before ++ cut ++ after ∧
      ∀ start rest, list = start ++ cut ++ rest → before.length ≤ start.length := by
  induction list generalizing before with
  | nil =>
      simp only [splitListOnce?, Option.ite_none_right_eq_some, Option.some.injEq,
        Prod.mk.injEq] at h
      obtain ⟨hcut, rfl, rfl⟩ := h
      simp [List.isEmpty_iff.1 hcut]
  | cons c list ih =>
      rw [splitListOnce?] at h
      split at h
      next hfront =>
        cases h
        obtain ⟨rest, hrest⟩ := List.isPrefixOf_iff_prefix.1 hfront
        exact ⟨by simp [← hrest], fun _ _ _ ↦ Nat.zero_le _⟩
      next hfront =>
        obtain ⟨⟨inner, _⟩, hinner, heq⟩ := Option.map_eq_some_iff.1 h
        cases heq
        obtain ⟨hlist, hfirst⟩ := ih hinner
        refine ⟨by rw [hlist]; rfl, fun start rest hother ↦ ?_⟩
        cases start with
        | nil => exact absurd (List.isPrefixOf_iff_prefix.2 ⟨rest, hother.symm⟩) hfront
        | cons first start =>
            exact Nat.succ_le_succ (hfirst start rest (List.cons.inj hother).2)

/-- `CutsAt cut text before after` says the text is `before`, `cut` and `after` in this order, and
`cut` occurs nowhere earlier in it. -/
structure CutsAt (cut text before after : String) : Prop where
  whole : text = before ++ cut ++ after
  first : ∀ start rest, text = start ++ cut ++ rest → before.length ≤ start.length

/-- There is only one first occurrence. -/
theorem CutsAt.unique {cut text before after before' after' : String}
    (h : CutsAt cut text before after) (h' : CutsAt cut text before' after') :
    before = before' ∧ after = after' := by
  have hlength : before.length = before'.length :=
    Nat.le_antisymm (h.first before' after' h'.whole) (h'.first before after h.whole)
  have hlists : before.toList ++ (cut.toList ++ after.toList) =
      before'.toList ++ (cut.toList ++ after'.toList) := by
    simpa using congrArg String.toList (h.whole.symm.trans h'.whole)
  obtain ⟨hbefore, hrest⟩ := List.append_inj hlists hlength
  exact ⟨String.toList_inj.1 hbefore, String.toList_inj.1 (List.append_cancel_left hrest)⟩

/-- A text that is cut is cut at the first occurrence. -/
theorem cutsAt_of_splitOnceAt? {cut text before after : String}
    (h : splitOnceAt? cut text = some (before, after)) : CutsAt cut text before after := by
  obtain ⟨⟨front, back⟩, hlists, heq⟩ := Option.map_eq_some_iff.1 h
  cases heq
  obtain ⟨hwhole, hfirst⟩ := splitListOnce?_spec hlists
  refine ⟨?_, fun start rest htext ↦ ?_⟩
  · rw [← String.toList_inj, hwhole]
    simp
  · rw [String.length_ofList]
    exact hfirst start.toList rest.toList (by rw [htext]; simp)

/-- A text is cut at the first occurrence of another one. -/
theorem splitOnceAt?_eq_some_iff {cut text before after : String} :
    splitOnceAt? cut text = some (before, after) ↔ CutsAt cut text before after := by
  constructor
  · exact cutsAt_of_splitOnceAt?
  · intro hcut
    cases hsplit : splitOnceAt? cut text with
    | none =>
        have hnone := Option.map_eq_none_iff.1 hsplit
        refine absurd ?_ (ne_append_of_splitListOnce? hnone before.toList after.toList)
        rw [hcut.whole]
        simp
    | some parts =>
        obtain ⟨hbefore, hafter⟩ := (cutsAt_of_splitOnceAt? hsplit).unique hcut
        rw [← hbefore, ← hafter]

end FirstOccurrence

end FlowGate.Text
