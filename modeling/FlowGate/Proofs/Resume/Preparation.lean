import FlowGate.Proofs.Resume.Record
import Mathlib.Data.List.Basic

/-!
# What preparing an execution changes

Before an execution goes on behind a node, its timer is cleared, the first entry of its stack is
released and the last run of the node is taken back. `StackEntry.ReleasesTo` and `Run.ReopensTo`
relate the stack and the runs before and afterwards, and `Execution.PreparedFor` the whole records.
`preparation_changes_only` says the prepared execution is the one record that is related to the
execution like this, and that nothing is left to be done if the last run had a frozen input.
-/

namespace FlowGate

/-- The types of the tools that wait for a human have a common ending. -/
theorem isHumanToolType_iff {nodeType : String} :
    isHumanToolType nodeType = true ↔ ∃ start, nodeType = start ++ "HitlTool" := by
  rw [isHumanToolType, List.isSuffixOf_iff_suffix]
  constructor
  · rintro ⟨start, hstart⟩
    refine ⟨String.ofList start, ?_⟩
    rw [← String.toList_inj, String.toList_append, String.toList_ofList, hstart]
  · rintro ⟨start, rfl⟩
    rw [String.toList_append]
    exact List.suffix_append _ _

namespace StackEntry

/-- `entry.ReleasedAs nodeType released` says `released` is the entry with its node disabled and, if
the type is one of the tools that wait for a human, the output of the node logged as that of a
tool. -/
structure ReleasedAs (entry : StackEntry) (nodeType : String) (released : StackEntry) : Prop where
  disabled : released.node.disabled = true
  rewired : (∃ start, nodeType = start ++ "HitlTool") →
    released.node.rewireOutputLogTo = some .aiTool
  notRewired : (¬ ∃ start, nodeType = start ++ "HitlTool") →
    released.node.rewireOutputLogTo = entry.node.rewireOutputLogTo
  name : released.node.name = entry.node.name
  type : released.node.type = entry.node.type
  typeVersion : released.node.typeVersion = entry.node.typeVersion
  parameters : released.node.parameters = entry.node.parameters
  data : released.data = entry.data
  source : released.source = entry.source

/-- `ReleasesTo nodeType before after` says the first entry of a stack is released, if there is
one, and the others are kept. -/
inductive ReleasesTo (nodeType : String) :
    Option (List StackEntry) → Option (List StackEntry) → Prop where
  | noStack : ReleasesTo nodeType none none
  | empty : ReleasesTo nodeType (some []) (some [])
  | first {entry released : StackEntry} {rest : List StackEntry}
      (hreleased : entry.ReleasedAs nodeType released) :
      ReleasesTo nodeType (some (entry :: rest)) (some (released :: rest))

variable {nodeType : String} {entry released : StackEntry}

/-- Releasing a stack releases its first entry. -/
theorem release_cons_eq_iff (rest : List StackEntry) :
    released :: rest = release nodeType (entry :: rest) ↔ entry.ReleasedAs nodeType released := by
  rw [release, List.cons.injEq, and_iff_left rfl]
  constructor
  · rintro rfl
    exact {
      disabled := rfl
      rewired := fun htool ↦ if_pos (isHumanToolType_iff.2 htool)
      notRewired := fun htool ↦ if_neg (mt isHumanToolType_iff.1 htool)
      name := rfl
      type := rfl
      typeVersion := rfl
      parameters := rfl
      data := rfl
      source := rfl }
  · intro h
    refine StackEntry.ext (Node.ext h.name h.type h.typeVersion h.parameters h.disabled ?_)
      h.data h.source
    by_cases htool : ∃ start, nodeType = start ++ "HitlTool"
    · exact (h.rewired htool).trans (if_pos (isHumanToolType_iff.2 htool)).symm
    · exact (h.notRewired htool).trans (if_neg (mt isHumanToolType_iff.1 htool)).symm

theorem releasesTo_iff {before after : Option (List StackEntry)} :
    ReleasesTo nodeType before after ↔ after = before.map (release nodeType) := by
  constructor
  · intro h
    cases h with
    | noStack => rfl
    | empty => rfl
    | first hreleased => exact congrArg some ((release_cons_eq_iff _).2 hreleased)
  · rintro rfl
    match before with
    | none => exact .noStack
    | some [] => exact .empty
    | some (entry :: rest) => exact .first ((release_cons_eq_iff rest).1 rfl)

/-- A released stack is not changed when it is released once more. -/
theorem release_release (nodeType : String) (stack : List StackEntry) :
    release nodeType (release nodeType stack) = release nodeType stack := by
  cases stack with
  | nil => rfl
  | cons entry rest =>
      simp only [release]
      cases isHumanToolType nodeType <;> rfl

end StackEntry

namespace Run

/-- `run.Holds dropped` says the run has not started and holds the input of the dropped one. -/
structure Holds (run dropped : Run) : Prop where
  startTime : run.startTime = 0
  executionTime : run.executionTime = 0
  data : run.data = none
  source : run.source = dropped.source
  executionIndex : run.executionIndex = dropped.executionIndex
  inputOverride : run.inputOverride = dropped.inputOverride

/-- `ReopensTo before after` says the last of the runs of a node is dropped, if there is one, and
that a run which holds its input takes its place exactly if that was frozen. -/
inductive ReopensTo : Option (List Run) → Option (List Run) → Prop where
  | noRuns : ReopensTo none none
  | empty : ReopensTo (some []) (some [])
  | dropped {kept : List Run} {last : Run} (hfresh : last.inputOverride = none) :
      ReopensTo (some (kept ++ [last])) (some kept)
  | held {kept : List Run} {last run : Run} (hfrozen : last.inputOverride ≠ none)
      (hholds : run.Holds last) : ReopensTo (some (kept ++ [last])) (some (kept ++ [run]))

variable {run last : Run} {kept : List Run}

theorem reopen_append_of_none (kept : List Run) (h : last.inputOverride = none) :
    reopen (kept ++ [last]) = kept := by
  simp only [reopen_eq, List.dropLast_concat, List.getLast?_concat, heldInput?, h, bind,
    Option.bind, Option.toList_none, List.append_nil]

theorem reopen_append_of_some (kept : List Run) {input : Value}
    (h : last.inputOverride = some input) :
    reopen (kept ++ [last]) =
      kept ++ [placeholder last.source last.executionIndex input] := by
  simp only [reopen_eq, List.dropLast_concat, List.getLast?_concat, heldInput?, h, bind,
    Option.bind, pure, Option.toList_some, placeholder]

theorem holds_iff {input : Value} (h : last.inputOverride = some input) :
    run.Holds last ↔ run = placeholder last.source last.executionIndex input := by
  constructor
  · intro hholds
    exact Run.ext hholds.startTime hholds.executionTime hholds.executionIndex hholds.source
      (hholds.inputOverride.trans h) hholds.data
  · rintro rfl
    exact ⟨rfl, rfl, rfl, rfl, rfl, h.symm⟩

theorem reopensTo_iff {before after : Option (List Run)} :
    ReopensTo before after ↔ after = before.map reopen := by
  constructor
  · intro h
    cases h with
    | noRuns => rfl
    | empty => rfl
    | dropped hfresh => rw [Option.map_some, reopen_append_of_none _ hfresh]
    | held hfrozen hholds =>
        obtain ⟨input, hinput⟩ := Option.ne_none_iff_exists'.1 hfrozen
        rw [Option.map_some, reopen_append_of_some _ hinput, ← (holds_iff hinput).1 hholds]
  · rintro rfl
    match before with
    | none => exact .noRuns
    | some runs =>
        rcases List.eq_nil_or_concat' runs with rfl | ⟨kept, last, rfl⟩
        · exact .empty
        cases hinput : last.inputOverride with
        | none =>
            rw [Option.map_some, reopen_append_of_none kept hinput]
            exact .dropped hinput
        | some input =>
            rw [Option.map_some, reopen_append_of_some kept hinput]
            exact .held (by rw [hinput]; nofun) ((holds_iff hinput).2 rfl)

/-- Runs that end with a frozen input are not changed when they are reopened once more. -/
theorem reopen_reopen {runs : List Run}
    (h : ∀ last, runs.getLast? = some last → last.inputOverride ≠ none) :
    reopen (reopen runs) = reopen runs := by
  rcases List.eq_nil_or_concat' runs with rfl | ⟨kept, last, rfl⟩
  · rfl
  obtain ⟨input, hinput⟩ := Option.ne_none_iff_exists'.1 (h last List.getLast?_concat)
  rw [reopen_append_of_some kept hinput]
  exact reopen_append_of_some kept rfl

end Run

namespace Execution

/-- `before.PreparedFor node after` says `after` is the execution once it is prepared to go on
behind the node: its timer is cleared, the first entry of its stack is released and the runs of the node
are reopened, and nothing else has changed. -/
structure PreparedFor (before : Execution) (node : Node) (after : Execution) : Prop where
  id : after.id = before.id
  status : after.status = before.status
  finished : after.finished = before.finished
  mode : after.mode = before.mode
  workflowData : after.workflowData = before.workflowData
  waitTill : after.data.waitTill = none
  validateSignature : after.data.validateSignature = before.data.validateSignature
  lastNodeExecuted :
    after.data.resultData.lastNodeExecuted = before.data.resultData.lastNodeExecuted
  error : after.data.resultData.error = before.data.resultData.error
  stack : StackEntry.ReleasesTo node.type before.data.nodeStack after.data.nodeStack
  runs : Run.ReopensTo (before.data.resultData.runData.get? node.name)
    (after.data.resultData.runData.get? node.name)
  otherRuns : ∀ name, name ≠ node.name →
    after.data.resultData.runData.get? name = before.data.resultData.runData.get? name

variable {before after : Execution} {node : Node}

/-- Preparing an execution gives the one record that is related to it like this. -/
theorem preparedFor_iff : before.PreparedFor node after ↔ after = before.prepareForResume node := by
  constructor
  · intro h
    have hruns : after.data.resultData.runData =
        before.data.resultData.runData.modify node.name Run.reopen := by
      refine Table.eq_of_get?_eq fun name ↦ ?_
      rw [Table.get?_modify]
      split
      next hname =>
        subst hname
        exact Run.reopensTo_iff.1 h.runs
      next hname => exact h.otherRuns name hname
    refine Execution.ext h.id h.status h.finished h.mode h.workflowData ?_
    refine ExecutionData.ext ?_ (StackEntry.releasesTo_iff.1 h.stack) h.waitTill h.validateSignature
    exact ResultData.ext hruns h.lastNodeExecuted h.error
  · rintro rfl
    exact {
      id := rfl
      status := rfl
      finished := rfl
      mode := rfl
      workflowData := rfl
      waitTill := rfl
      validateSignature := rfl
      lastNodeExecuted := rfl
      error := rfl
      stack := StackEntry.releasesTo_iff.2 rfl
      runs := Run.reopensTo_iff.2 ((Table.get?_modify ..).trans (if_pos rfl))
      otherRuns := fun name hname ↦ (Table.get?_modify ..).trans (if_neg hname) }

/-- A prepared execution is prepared for good if the last run of the node had a frozen input, or if
there was none. -/
theorem PreparedFor.again (h : before.PreparedFor node after)
    (hfrozen : ∀ last, (before.runsOf node.name).getLast? = some last → last.inputOverride ≠ none) :
    after.PreparedFor node after where
  id := rfl
  status := rfl
  finished := rfl
  mode := rfl
  workflowData := rfl
  waitTill := h.waitTill
  validateSignature := rfl
  lastNodeExecuted := rfl
  error := rfl
  stack := by
    rw [StackEntry.releasesTo_iff, StackEntry.releasesTo_iff.1 h.stack, Option.map_map]
    exact congrArg (Option.map · _) (funext fun stack ↦ (StackEntry.release_release _ stack).symm)
  runs := by
    rw [Run.reopensTo_iff, Run.reopensTo_iff.1 h.runs]
    rw [runsOf] at hfrozen
    cases hruns : before.data.resultData.runData.get? node.name with
    | none => rfl
    | some runs =>
        rw [hruns] at hfrozen
        exact congrArg some (Run.reopen_reopen hfrozen).symm
  otherRuns _ _ := rfl

/-- Preparing an execution clears its timer, releases the first entry of its stack and reopens the
runs of the node, and changes nothing else. If the last of these runs had a frozen input, or there
is none, preparing the execution once more changes nothing. -/
theorem preparation_changes_only (before : Execution) (node : Node) :
    (∀ after, before.PreparedFor node after ↔ after = before.prepareForResume node) ∧
      ((∀ last, (before.runsOf node.name).getLast? = some last → last.inputOverride ≠ none) →
        (before.prepareForResume node).prepareForResume node = before.prepareForResume node) := by
  refine ⟨fun after ↦ preparedFor_iff, fun hfrozen ↦ ?_⟩
  have hprepared : before.PreparedFor node (before.prepareForResume node) := preparedFor_iff.2 rfl
  exact (preparedFor_iff.1 (hprepared.again hfrozen)).symm

/-- A tool that waits for a human behind the first entry of the stack: this entry is released, the
frozen input is kept for one run, and the execution is then prepared for good. -/
theorem heldTool_preparation_changes_only :
    let node := Node.plain "Ask" "acme.askHitlTool"
    let first : Run := ⟨1, 2, 0, [], none, none⟩
    let waiting := Execution.waitingIn "7" node
    let execution := { waiting with data := { waiting.data with
      nodeStack := some [⟨.plain "Next" "step", .null, none⟩, ⟨node, .null, none⟩]
      resultData := { waiting.data.resultData with
        runData := .singleton "Ask" [first, ⟨3, 4, 1, [none], some (.bool true), some .null⟩] } } }
    let prepared := execution.prepareForResume node
    execution.PreparedFor node prepared ∧
      prepared.runsOf "Ask" = [first, ⟨0, 0, 1, [none], some (.bool true), none⟩] ∧
      prepared.prepareForResume node = prepared := by
  intro node first waiting execution prepared
  have hfrozen : ∀ last, (execution.runsOf node.name).getLast? = some last →
      last.inputOverride ≠ none := by
    intro last hlast
    cases hlast
    nofun
  exact ⟨((preparation_changes_only execution node).1 prepared).2 rfl, rfl,
    (preparation_changes_only execution node).2 hfrozen⟩

end Execution

end FlowGate
