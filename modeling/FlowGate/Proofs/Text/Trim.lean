import FlowGate.Text.Basic
import Mathlib.Data.List.DropRight

/-!
# Trimming and splitting

`trimBy_pad` says trimming does not see unwanted characters around a text, and `trimBy_eq_self`
that it keeps a text with none at its ends. `TrimsTo` relates a text to what is left of it, and
`trimBy_eq_iff` says that trimming computes this. `splitOnce?_eq_some_iff` and `splitOnce?_eq_none`
say where a text is cut.
-/

namespace FlowGate.Text

variable {unwanted : Char → Bool}

@[simp]
theorem toList_trimBy (unwanted : Char → Bool) (text : String) :
    (trimBy unwanted text).toList = (text.toList.dropWhile unwanted).rdropWhile unwanted :=
  String.toList_ofList

@[simp]
theorem toList_trimEndBy (unwanted : Char → Bool) (text : String) :
    (trimEndBy unwanted text).toList = text.toList.rdropWhile unwanted :=
  String.toList_ofList

/-- Unwanted characters at the end make no difference to what is left of a list. -/
theorem rdropWhile_append {pad : List Char} (text : List Char)
    (h : ∀ c ∈ pad, unwanted c = true) :
    (text ++ pad).rdropWhile unwanted = text.rdropWhile unwanted := by
  unfold List.rdropWhile
  rw [List.reverse_append, List.dropWhile_append_of_pos]
  exact fun c hc ↦ h c (List.mem_reverse.1 hc)

/-- A list that begins with a wanted character loses none at its start. -/
theorem dropWhile_eq_self {text : List Char} (h : ∀ c, text.head? = some c → unwanted c = false) :
    text.dropWhile unwanted = text :=
  List.dropWhile_eq_self_iff.2 fun hpos ↦ by
    simp [h _ (List.head?_eq_getElem?.trans (List.getElem?_eq_getElem hpos))]

/-- A list that ends with a wanted character loses none at its end. -/
theorem rdropWhile_eq_self {text : List Char}
    (h : ∀ c, text.getLast? = some c → unwanted c = false) : text.rdropWhile unwanted = text :=
  List.rdropWhile_eq_self_iff.2 fun hne ↦ by simp [h _ (List.getLast?_eq_some_getLast hne)]

/-- Unwanted characters around a text make no difference to what is left of it. -/
theorem trimBy_pad {before after : String} (text : String)
    (hbefore : ∀ c ∈ before.toList, unwanted c = true)
    (hafter : ∀ c ∈ after.toList, unwanted c = true) :
    trimBy unwanted (before ++ text ++ after) = trimBy unwanted text := by
  rw [← String.toList_inj, toList_trimBy, toList_trimBy, String.toList_append,
    String.toList_append, List.append_assoc, List.dropWhile_append_of_pos hbefore,
    List.dropWhile_append]
  split
  next hempty =>
    -- only unwanted characters, so the ones after the text are dropped from the front
    have hnone : after.toList.dropWhile unwanted = [] := by
      rw [← List.append_nil after.toList, List.dropWhile_append_of_pos hafter]
      rfl
    rw [hnone, List.isEmpty_iff.1 hempty]
  · exact rdropWhile_append _ hafter

/-- A text whose first and last characters are wanted is kept as it is. -/
theorem trimBy_eq_self {text : String}
    (hfirst : ∀ c, text.toList.head? = some c → unwanted c = false)
    (hlast : ∀ c, text.toList.getLast? = some c → unwanted c = false) :
    trimBy unwanted text = text := by
  rw [← String.toList_inj, toList_trimBy, dropWhile_eq_self hfirst, rdropWhile_eq_self hlast]

/-- `Bare unwanted text` says no unwanted character stands at an end of the text. -/
structure Bare (unwanted : Char → Bool) (text : String) : Prop where
  first : ∀ c, text.toList.head? = some c → unwanted c = false
  last : ∀ c, text.toList.getLast? = some c → unwanted c = false

/-- `TrimsTo unwanted text rest` says the text is `rest` between unwanted characters, and `rest` has
none at its own ends. -/
structure TrimsTo (unwanted : Char → Bool) (text rest : String) : Prop where
  around : ∃ before after, (∀ c ∈ before.toList, unwanted c = true) ∧
    (∀ c ∈ after.toList, unwanted c = true) ∧ text = before ++ rest ++ after
  bare : Bare unwanted rest

/-- A trimmed text begins and ends with wanted characters. -/
theorem bare_trimBy (unwanted : Char → Bool) (text : String) :
    Bare unwanted (trimBy unwanted text) where
  first c hc := by
    rw [toList_trimBy] at hc
    -- the first character is also the first one before the end was trimmed
    have hhead : (text.toList.dropWhile unwanted).head? = some c := by
      rw [← List.rdropWhile_append_rtakeWhile (p := unwanted)
        (l := text.toList.dropWhile unwanted), List.head?_append, hc, Option.some_or]
    have hnot := List.head?_dropWhile_not unwanted text.toList
    rwa [hhead] at hnot
  last c hc := by
    rw [toList_trimBy, List.rdropWhile, List.getLast?_reverse] at hc
    have hnot := List.head?_dropWhile_not unwanted (text.toList.dropWhile unwanted).reverse
    rwa [hc] at hnot

/-- Trimming takes nothing but unwanted characters, and takes all of them. -/
theorem trimsTo_trimBy (unwanted : Char → Bool) (text : String) :
    TrimsTo unwanted text (trimBy unwanted text) where
  around := by
    refine ⟨String.ofList (text.toList.takeWhile unwanted),
      String.ofList ((text.toList.dropWhile unwanted).rtakeWhile unwanted),
      fun c hc ↦ ?_, fun c hc ↦ ?_, ?_⟩
    · rw [String.toList_ofList] at hc
      exact List.all_eq_true.1 List.all_takeWhile c hc
    · rw [String.toList_ofList] at hc
      exact List.mem_rtakeWhile_imp hc
    · rw [← String.toList_inj, String.toList_append, String.toList_append, String.toList_ofList,
        String.toList_ofList, toList_trimBy, List.append_assoc, List.rdropWhile_append_rtakeWhile,
        List.takeWhile_append_dropWhile]
  bare := bare_trimBy unwanted text

/-- Trimming computes the one text that is left between the unwanted characters. -/
theorem trimBy_eq_iff {text rest : String} :
    trimBy unwanted text = rest ↔ TrimsTo unwanted text rest := by
  constructor
  · rintro rfl
    exact trimsTo_trimBy unwanted text
  · rintro ⟨⟨before, after, hbefore, hafter, rfl⟩, hbare⟩
    rw [trimBy_pad rest hbefore hafter, trimBy_eq_self hbare.first hbare.last]

variable {separator : Char} {before after : List Char}

/-- A list is cut at the first occurrence of a character. -/
theorem splitListOnce?_append (h : separator ∉ before) :
    splitListOnce? [separator] (before ++ separator :: after) = some (before, after) := by
  induction before with
  | nil => simp [splitListOnce?]
  | cons c rest ih =>
      obtain ⟨hc, hrest⟩ := not_or.1 (mt List.mem_cons.2 h)
      rw [List.cons_append, splitListOnce?, ih hrest]
      simp [hc]

/-- A list without a character is not cut at it. -/
theorem splitListOnce?_eq_none (h : separator ∉ before) :
    splitListOnce? [separator] before = none := by
  induction before with
  | nil => rfl
  | cons c rest ih =>
      obtain ⟨hc, hrest⟩ := not_or.1 (mt List.mem_cons.2 h)
      rw [splitListOnce?, ih hrest]
      simp [hc]

/-- A text is cut at the first occurrence of a character. -/
theorem splitOnce?_append {start rest : String} (h : separator ∉ start.toList) :
    splitOnce? separator (start ++ String.singleton separator ++ rest) = some (start, rest) := by
  rw [splitOnce?, String.toList_append, String.toList_append, String.toList_singleton,
    List.append_assoc, List.singleton_append, splitListOnce?_append h]
  simp

/-- A text without a character is not cut at it. -/
theorem splitOnce?_eq_none {text : String} (h : separator ∉ text.toList) :
    splitOnce? separator text = none := by
  rw [splitOnce?, splitListOnce?_eq_none h]
  rfl

/-- A text with a character has a part in front of the first one. -/
theorem exists_eq_append_of_mem {text : String} (h : separator ∈ text.toList) :
    ∃ start rest, text = start ++ String.singleton separator ++ rest ∧
      separator ∉ start.toList := by
  obtain ⟨before, after, hsplit, hbefore⟩ := List.eq_append_cons_of_mem h
  refine ⟨String.ofList before, String.ofList after, ?_, by rwa [String.toList_ofList]⟩
  rw [← String.toList_inj, hsplit]
  simp

/-- The parts of a text make it up, and the first one does not contain the character. -/
theorem splitOnce?_eq_some_iff {text start rest : String} :
    splitOnce? separator text = some (start, rest) ↔
      text = start ++ String.singleton separator ++ rest ∧ separator ∉ start.toList := by
  constructor
  · intro h
    by_cases hmem : separator ∈ text.toList
    · obtain ⟨before, after, rfl, hbefore⟩ := exists_eq_append_of_mem hmem
      cases (splitOnce?_append hbefore).symm.trans h
      exact ⟨rfl, hbefore⟩
    · cases (splitOnce?_eq_none hmem).symm.trans h
  · rintro ⟨rfl, hstart⟩
    exact splitOnce?_append hstart

/-- Only a text without a character is not cut at it. -/
theorem not_mem_of_splitOnce?_eq_none {text : String} (h : splitOnce? separator text = none) :
    separator ∉ text.toList := by
  intro hmem
  obtain ⟨start, rest, rfl, hstart⟩ := exists_eq_append_of_mem hmem
  cases (splitOnce?_append hstart).symm.trans h

end FlowGate.Text
