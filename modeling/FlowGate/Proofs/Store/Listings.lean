import Mathlib.Data.List.Nodup
import FlowGate.Proofs.Store.Keyed

/-!
# What the stores list

`WorkflowStore.Lists` describes the answer to a search of a workflow store by the stored workflows
alone: each one that is asked for is listed once, in ascending order of ids, with its nodes and pins
exactly if it is active. `WorkflowStore.lists_find` says that a search answers so if every workflow
is stored under its own id.

The tables behind the stores are ordered, but the order of their entries never shows: what is taken
from the entries in any order and then sorted is the same list (`mergeSort_eq_of_ascending`).
-/

namespace FlowGate

universe u

section Ascending

variable {α : Type u} {key : α → String} {items other : List α} {item : α}

/-- Of items with ascending keys exactly one has the key of a given one of them. -/
theorem filter_key_eq_singleton (h : (items.map key).Pairwise (· < ·)) (hitem : item ∈ items) :
    items.filter (fun other ↦ key other = key item) = [item] := by
  have hne {rest : List α} (hkeys : ∀ other ∈ rest, key other ≠ key item) :
      rest.filter (fun other ↦ key other = key item) = [] :=
    List.filter_eq_nil_iff.2 fun other hother ↦ by simpa using hkeys other hother
  obtain ⟨before, after, rfl⟩ := List.append_of_mem hitem
  rw [List.pairwise_map, List.pairwise_append, List.pairwise_cons] at h
  obtain ⟨_, ⟨hafter, _⟩, hbefore⟩ := h
  rw [List.filter_append, List.filter_cons_of_pos (by simp), hne, hne, List.nil_append]
  · exact fun other hother ↦ (String.ne_of_lt (hafter other hother)).symm
  · exact fun other hother ↦ String.ne_of_lt (hbefore other hother item List.mem_cons_self)

/-- Sorting items in any order by their keys puts them in ascending order. -/
theorem mergeSort_eq_of_ascending (h : (items.map key).Pairwise (· < ·))
    (hperm : other.Perm items) :
    other.mergeSort (fun left right ↦ key left ≤ key right) = items := by
  have hnodup : (items.map key).Nodup := h.imp String.ne_of_lt
  have htrans (a b c : α) (hab : decide (key a ≤ key b) = true)
      (hbc : decide (key b ≤ key c) = true) : decide (key a ≤ key c) = true :=
    decide_eq_true (String.le_trans (of_decide_eq_true hab) (of_decide_eq_true hbc))
  have htotal (a b : α) : (decide (key a ≤ key b) || decide (key b ≤ key a)) = true := by
    simpa using String.le_total (key a) (key b)
  have hsorted := List.pairwise_mergeSort htrans htotal other
  have hascending : items.Pairwise fun left right ↦ decide (key left ≤ key right) = true :=
    (List.pairwise_map.1 h).imp fun hlt ↦ decide_eq_true (String.lt_asymm hlt)
  have hall :=
    (List.mergeSort_perm other fun left right ↦ decide (key left ≤ key right)).trans hperm
  refine hall.eq_of_pairwise (fun left right hleft hright hle hge ↦ ?_) hsorted hascending
  exact List.inj_on_of_nodup_map hnodup (hall.mem_iff.1 hleft) hright
    (String.le_antisymm (of_decide_eq_true hle) (of_decide_eq_true hge))

end Ascending

/-- `filter.Passes id isActive` says a workflow with the id and the activity is asked for. -/
structure WorkflowFilter.Passes (filter : WorkflowFilter) (id : String) (isActive : Bool) :
    Prop where
  active : filter.activeOnly = true → isActive = true
  not_excluded : filter.excludeId ≠ some id
  listed : ∀ ids, filter.ids = some ids → id ∈ ids

theorem WorkflowFilter.accepts_iff {filter : WorkflowFilter} {id : String} {isActive : Bool} :
    filter.accepts id isActive = true ↔ filter.Passes id isActive := by
  have hactive : (!filter.activeOnly || isActive) = true ↔
      (filter.activeOnly = true → isActive = true) := by
    cases filter.activeOnly <;> simp
  rw [accepts, Bool.and_eq_true, Bool.and_eq_true, hactive, bne_iff_ne]
  cases hids : filter.ids with
  | none =>
      constructor
      · rintro ⟨⟨hactive, hexcluded⟩, _⟩
        exact ⟨hactive, hexcluded, by simp [hids]⟩
      · rintro ⟨hactive, hexcluded, _⟩
        exact ⟨⟨hactive, hexcluded⟩, rfl⟩
  | some ids =>
      constructor
      · rintro ⟨⟨hactive, hexcluded⟩, hlisted⟩
        exact ⟨hactive, hexcluded, by simpa [hids] using hlisted⟩
      · rintro ⟨hactive, hexcluded, hlisted⟩
        exact ⟨⟨hactive, hexcluded⟩, decide_eq_true (hlisted ids hids)⟩

/-- `summary.Shows workflow` says the summary has the id and the name of the workflow, and its nodes
and pins exactly if the workflow is active. -/
structure WorkflowSummary.Shows (summary : WorkflowSummary) (workflow : Workflow) : Prop where
  id : summary.id = workflow.id
  name : summary.name = workflow.name
  resolved_iff : summary.activeVersion.isSome = true ↔ workflow.isActive = true
  version : ∀ version, summary.activeVersion = some version →
    version.versionId = workflow.activation.versionId?.getD "" ∧
      version.nodes = workflow.nodes ∧ version.pinData = workflow.pinData

theorem Workflow.shows_summary (workflow : Workflow) : workflow.summary.Shows workflow where
  id := rfl
  name := rfl
  resolved_iff := by
    rw [summary, activeVersion?]
    cases workflow.isActive <;> simp
  version := by
    intro version hversion
    rw [summary, activeVersion?, Option.ite_none_right_eq_some] at hversion
    obtain ⟨_, hversion⟩ := hversion
    cases hversion
    exact ⟨rfl, rfl, rfl⟩

namespace WorkflowStore

variable {store : WorkflowStore} {filter : WorkflowFilter}

/-- `store.Lists filter found` says what was found is what the filter asks for. -/
structure Lists (store : WorkflowStore) (filter : WorkflowFilter) (found : List WorkflowSummary) :
    Prop where
  /-- The ids are in strictly ascending order. -/
  ascending : (found.map (·.id)).Pairwise (· < ·)
  /-- A stored workflow that is asked for is listed once. -/
  once : ∀ id workflow, store.get? id = some workflow → filter.Passes id workflow.isActive →
    ∃ summary, found.filter (·.id = id) = [summary] ∧ summary.Shows workflow
  /-- Nothing else is listed. -/
  only : ∀ summary ∈ found, ∃ workflow, store.get? summary.id = some workflow ∧
    filter.Passes summary.id workflow.isActive ∧ summary.Shows workflow
  /-- In whatever order the entries are taken, sorting the accepted ones by id gives the list. -/
  any_order : ∀ entries : List (String × Workflow), entries.Perm store.entries →
    ((entries.filter fun entry ↦ filter.accepts entry.1 entry.2.isActive).map
      (·.2.summary)).mergeSort (fun left right ↦ left.id ≤ right.id) = found

/-- The ids that a search finds are those of the accepted entries. -/
theorem map_id_find (h : store.KeyedBy Workflow.id) (filter : WorkflowFilter) :
    (store.find filter).map (·.id) =
      (store.entries.filter fun entry ↦ filter.accepts entry.1 entry.2.isActive).map (·.1) := by
  rw [find, List.map_map]
  refine List.map_congr_left fun entry hentry ↦ ?_
  exact h entry.1 entry.2 (Table.get?_of_mem_entries (List.mem_of_mem_filter hentry))

/-- The ids that a search finds are in strictly ascending order. -/
theorem ascending_find (h : store.KeyedBy Workflow.id) (filter : WorkflowFilter) :
    ((store.find filter).map (·.id)).Pairwise (· < ·) := by
  rw [map_id_find h, List.pairwise_map]
  exact store.ascending.filter _

/-- A search finds what its filter asks for. -/
theorem lists_find (h : store.KeyedBy Workflow.id) (filter : WorkflowFilter) :
    store.Lists filter (store.find filter) where
  ascending := ascending_find h filter
  once id workflow hstored hpasses := by
    have hmem : workflow.summary ∈ store.find filter :=
      mem_find_iff.2 ⟨id, workflow, hstored, WorkflowFilter.accepts_iff.2 hpasses, rfl⟩
    have hid : workflow.summary.id = id := h id workflow hstored
    refine ⟨workflow.summary, ?_, workflow.shows_summary⟩
    rw [← hid]
    exact filter_key_eq_singleton (ascending_find h filter) hmem
  only summary hmem := by
    obtain ⟨id, workflow, hstored, haccepts, rfl⟩ := mem_find_iff.1 hmem
    have hid : workflow.summary.id = id := h id workflow hstored
    rw [hid]
    exact ⟨workflow, hstored, WorkflowFilter.accepts_iff.1 haccepts, workflow.shows_summary⟩
  any_order _ hperm :=
    mergeSort_eq_of_ascending (ascending_find h filter) ((hperm.filter _).map _)

end WorkflowStore

namespace ActiveRegistry

variable {registry : ActiveRegistry}

/-- The listed ids are in strictly ascending order. -/
theorem ascending_ids (registry : ActiveRegistry) : registry.ids.Pairwise (· < ·) :=
  List.pairwise_map.2 registry.ascending

/-- In whatever order the ids are taken, sorting them gives the list. -/
theorem mergeSort_eq_ids {ids : List String} (hperm : ids.Perm registry.ids) :
    ids.mergeSort (fun left right ↦ left ≤ right) = registry.ids := by
  refine mergeSort_eq_of_ascending ?_ hperm
  rw [List.map_id']
  exact registry.ascending_ids

end ActiveRegistry

end FlowGate
