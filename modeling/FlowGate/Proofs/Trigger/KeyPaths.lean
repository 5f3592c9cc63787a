import Mathlib.Logic.Relation
import FlowGate.Proofs.Json.Record
import FlowGate.Proofs.Text.Split
import FlowGate.Trigger.Key

/-!
# Keys read from parameter paths

`Json.Leads` says where names lead through nested objects, and `Node.HasKeyText` that a path of
names leads to a value that a key may contain. `Node.keyAt?_eq_some_iff` says what the key of a node
is in these terms. `Json.SameBut` relates documents that are the same but for one member, however
deep it lies; `Node.hasKeyText_congr` says that a path that does not lead through this member finds
the same text in both.

A registry is filled by registrations that come one after the other.
`ExclusivityRegistry.keys_read_exactly` says how keys are read of the node types that are
registered, by the paths that were registered last.
-/

namespace FlowGate

/-! ## Where a path leads -/

namespace Json

/-- `json.Leads names target` says following the names through nested objects leads to the
target. -/
inductive Leads : Json → List String → Json → Prop
  | here (json : Json) : Leads json [] json
  | inside {fields : List (String × Json)} {name : String} {value : Json} {rest : List String}
      {target : Json} (hmember : (name, value) ∈ fields) (hrest : Leads value rest target) :
      Leads (.object fields) (name :: rest) target

variable {json value target : Json} {name : String} {names : List String}
  {fields others : List (String × Json)}

/-- In an object with ascending names a name finds its member. -/
theorem lookup_eq_some_iff_mem (h : fields.Pairwise fun earlier later ↦ earlier.1 < later.1) :
    fields.lookup name = some value ↔ (name, value) ∈ fields := by
  let table : Table Json := ⟨fields, h⟩
  exact ⟨table.mem_entries_of_get?, table.get?_of_mem_entries⟩

/-- Following names finds where they lead. -/
theorem descend?_eq_some_iff (h : json.IsNormal) :
    json.descend? names = some target ↔ json.Leads names target := by
  induction names generalizing json with
  | nil =>
      rw [descend?, Option.some_inj]
      constructor
      · rintro rfl
        exact .here json
      · rintro ⟨⟩
        rfl
  | cons name rest ih =>
      rw [descend?, Option.bind_eq_some_iff]
      cases json with
      | object fields =>
          rw [IsNormal, fieldsNormal_iff] at h
          obtain ⟨hascending, hfields⟩ := h
          simp only [member?, lookup_eq_some_iff_mem hascending]
          constructor
          · rintro ⟨value, hmember, hrest⟩
            exact .inside hmember ((ih (hfields _ hmember)).1 hrest)
          · rintro ⟨⟩
            next value hmember hrest =>
            exact ⟨value, hmember, (ih (hfields _ hmember)).2 hrest⟩
      | null | bool _ | number _ | string _ | array _ | unrepresentable =>
          simp only [member?, reduceCtorEq, false_and, exists_false, false_iff]
          rintro ⟨⟩

end Json

/-- `ExclusiveKey.IsText json text` says a document may be part of a key, and is written as the
text: a text that is not empty is written as it is. -/
inductive ExclusiveKey.IsText : Json → String → Prop
  | string {text : String} (hne : text ≠ "") : IsText (.string text) text
  | number (value : Number) : IsText (.number value) value.text
  | true : IsText (.bool true) "true"
  | false : IsText (.bool false) "false"

theorem ExclusiveKey.valueText?_eq_some_iff {json : Json} {text : String} :
    valueText? json = some text ↔ IsText json text := by
  constructor
  · intro h
    cases json with
    | string value =>
        simp only [valueText?, Option.ite_none_left_eq_some, Option.some.injEq] at h
        obtain ⟨hne, rfl⟩ := h
        exact .string hne
    | number value =>
        cases h
        exact .number value
    | bool value =>
        cases value <;> cases h
        · exact .false
        · exact .true
    | null | array _ | object _ | unrepresentable => cases h
  · rintro (hne | value | _ | _)
    · exact if_neg hne
    · rfl
    · rfl
    · rfl

namespace Node

variable {node other : Node} {path text : String} {paths : List String} {key : ExclusiveKey}

/-- The parameters of a node as one document. -/
def parameterTree (node : Node) : Json := (Value.object node.parameters).json

/-- `node.HasKeyText path text` says the path leads through the parameters to a value that may be
part of a key, and is written as the text. -/
def HasKeyText (node : Node) (path text : String) : Prop :=
  ∃ value, node.parameterTree.Leads (Text.splitOn '.' path) value ∧ ExclusiveKey.IsText value text

/-- A parameter is where its path leads. -/
theorem parameter?_eq_some_iff {value : Json} :
    node.parameter? path = some value ↔
      node.parameterTree.Leads (Text.splitOn '.' path) value := by
  have htree : node.parameter? path = node.parameterTree.descend? (Text.splitOn '.' path) := by
    rw [parameter?]
    cases hnames : Text.splitOn '.' path with
    | nil => exact absurd hnames (Text.splitOn_ne_nil '.' path)
    | cons name rest =>
        have hmember : node.parameterTree.member? name =
            (node.parameters.get? name).map Value.json :=
          Json.lookup_map Value.json node.parameters.entries name
        rw [parameterAt?, Json.descend?, hmember, Option.bind_map]
        rfl
  rw [htree]
  exact Json.descend?_eq_some_iff (Value.object node.parameters).normal

theorem keyText?_eq_some_iff : node.keyText? path = some text ↔ node.HasKeyText path text := by
  simp only [keyText?, Option.bind_eq_some_iff, parameter?_eq_some_iff,
    ExclusiveKey.valueText?_eq_some_iff, HasKeyText]

/-- A path has at most one text. -/
theorem HasKeyText.unique {text' : String} (h : node.HasKeyText path text)
    (h' : node.HasKeyText path text') : text = text' :=
  Option.some.inj ((keyText?_eq_some_iff.2 h).symm.trans (keyText?_eq_some_iff.2 h'))

/-- A key has the paths with their texts, in order. -/
theorem keyAt?_eq_some_iff :
    node.keyAt? paths = some key ↔ key.fields.map (·.1) = paths ∧
      ∀ field ∈ key.fields, node.HasKeyText field.1 field.2 := by
  obtain ⟨fields⟩ := key
  have hfields : node.keyAt? paths = some ⟨fields⟩ ↔
      paths.map (fun path ↦ (node.keyText? path).map fun text ↦ (path, text)) =
        fields.map some := by
    rw [keyAt?, Option.map_eq_some_iff, ← Json.mapM_eq_some_iff]
    simp
  rw [hfields]
  clear hfields
  -- the paths are taken one after the other, each with the field that it gives
  induction paths generalizing fields with
  | nil => cases fields <;> simp
  | cons path rest ih =>
      cases fields with
      | nil => simp
      | cons field fields =>
          have hfield : (node.keyText? path).map (fun text ↦ (path, text)) = some field ↔
              field.1 = path ∧ node.HasKeyText field.1 field.2 := by
            rw [Option.map_eq_some_iff]
            constructor
            · rintro ⟨text, htext, rfl⟩
              exact ⟨rfl, keyText?_eq_some_iff.1 htext⟩
            · rintro ⟨rfl, htext⟩
              exact ⟨field.2, keyText?_eq_some_iff.2 htext, rfl⟩
          simp only [List.map_cons, List.cons.injEq, hfield, List.forall_mem_cons, ih]
          exact and_and_and_comm

end Node

/-! ## Parameters on no path -/

/-- `json.SameBut location other` says both documents are objects that are the same but for the
member at the end of the location, which may differ or stand in only one of them. -/
inductive Json.SameBut : List String → Json → Json → Prop
  | last {fields others : List (String × Json)} {name : String}
      (hrest : ∀ member : String × Json, member.1 ≠ name → (member ∈ fields ↔ member ∈ others)) :
      SameBut [name] (.object fields) (.object others)
  | inside {fields others : List (String × Json)} {name : String} {value other : Json}
      {rest : List String}
      (hrest : ∀ member : String × Json, member.1 ≠ name → (member ∈ fields ↔ member ∈ others))
      (hvalue : (name, value) ∈ fields) (hother : (name, other) ∈ others)
      (hinner : SameBut rest value other) : SameBut (name :: rest) (.object fields) (.object others)

namespace Json

variable {json other target : Json} {location names : List String} {text : String}

theorem SameBut.symm (h : SameBut location json other) : SameBut location other json := by
  induction h with
  | last hrest => exact .last fun member hname ↦ (hrest member hname).symm
  | inside hrest hvalue hother _ ih =>
      exact .inside (fun member hname ↦ (hrest member hname).symm) hother hvalue ih

/-- Names that do not lead through the location lead to the same part of a key in both. -/
theorem SameBut.leads (h : SameBut location json other) (hnormal : json.IsNormal)
    (hoff : ¬ location <+: names) (hleads : json.Leads names target)
    (htext : ExclusiveKey.IsText target text) : other.Leads names target := by
  induction h generalizing names with
  | last hrest =>
      cases hleads with
      | here => cases htext
      | inside hmember hinner =>
          next name member rest =>
          refine .inside ((hrest _ fun heq ↦ hoff ?_).1 hmember) hinner
          exact ⟨rest, by rw [← heq]; rfl⟩
  | @inside fields others name value other location hrest hvalue hother hinner ih =>
      cases hleads with
      | here => cases htext
      | @inside _ first member rest _ hmember hleads =>
          rw [IsNormal, fieldsNormal_iff] at hnormal
          by_cases hname : first = name
          · subst hname
            have heq : member = value := Option.some.inj
              (((lookup_eq_some_iff_mem hnormal.1).2 hmember).symm.trans
                ((lookup_eq_some_iff_mem hnormal.1).2 hvalue))
            subst heq
            refine .inside hother (ih (hnormal.2 _ hvalue) (fun hprefix ↦ hoff ?_) hleads)
            exact List.prefix_cons_inj first |>.2 hprefix
          · exact .inside ((hrest _ hname).1 hmember) hleads

end Json

namespace Node

variable {node other : Node} {path text : String} {paths location : List String}
  {key : ExclusiveKey}

/-- `node.SameBut location other` says the nodes have one type and the same parameters but for the
one at the location. -/
structure SameBut (location : List String) (node other : Node) : Prop where
  type : node.type = other.type
  parameters : node.parameterTree.SameBut location other.parameterTree

/-- A path that does not lead through the location finds the same text in both nodes. -/
theorem SameBut.hasKeyText_iff (h : node.SameBut location other)
    (hoff : ¬ location <+: Text.splitOn '.' path) :
    node.HasKeyText path text ↔ other.HasKeyText path text := by
  have hnormal (node : Node) : node.parameterTree.IsNormal := (Value.object node.parameters).normal
  constructor
  · rintro ⟨value, hleads, htext⟩
    exact ⟨value, h.parameters.leads (hnormal node) hoff hleads htext, htext⟩
  · rintro ⟨value, hleads, htext⟩
    exact ⟨value, h.parameters.symm.leads (hnormal other) hoff hleads htext, htext⟩

/-- The members of an object are the entries of its table. -/
theorem mem_objectFields_iff {table : Table Value} {member : String × Json} :
    member ∈ table.entries.map (fun field ↦ (field.1, field.2.json)) ↔
      (table.get? member.1).map Value.json = some member.2 := by
  have hascending : (table.entries.map fun field ↦ (field.1, field.2.json)).Pairwise
      fun earlier later ↦ earlier.1 < later.1 := table.ascending.map _ fun _ _ h ↦ h
  rw [Table.get?, ← Json.lookup_map, Json.lookup_eq_some_iff_mem hascending]

/-- Giving a node a parameter leaves its other parameters alone. -/
theorem sameBut_insert (node : Node) (name : String) (value : Value) :
    node.SameBut [name] { node with parameters := node.parameters.insert name value } where
  type := rfl
  parameters := by
    refine .last fun member hname ↦ ?_
    rw [mem_objectFields_iff, mem_objectFields_iff, Table.get?_insert, if_neg hname]

/-- Nodes have the same key if they have the same texts at the paths. -/
theorem keyAt?_congr (h : ∀ path ∈ paths, ∀ text,
    node.HasKeyText path text ↔ other.HasKeyText path text) :
    node.keyAt? paths = other.keyAt? paths := by
  refine Option.ext fun key ↦ ?_
  rw [keyAt?_eq_some_iff, keyAt?_eq_some_iff]
  refine and_congr_right fun hpaths ↦ forall₂_congr fun field hfield ↦ ?_
  refine h field.1 ?_ field.2
  rw [← hpaths]
  exact List.mem_map_of_mem hfield

/-- A node has a key if every path leads to a value that may be part of it. -/
theorem isSome_keyAt?_iff :
    (node.keyAt? paths).isSome = true ↔ ∀ path ∈ paths, ∃ text, node.HasKeyText path text := by
  rw [Option.isSome_iff_exists]
  constructor
  · rintro ⟨key, hkey⟩ path hpath
    obtain ⟨rfl, hfields⟩ := keyAt?_eq_some_iff.1 hkey
    obtain ⟨field, hfield, rfl⟩ := List.mem_map.1 hpath
    exact ⟨field.2, hfields field hfield⟩
  · intro htexts
    refine ⟨⟨paths.map fun path ↦ (path, (node.keyText? path).getD "")⟩,
      keyAt?_eq_some_iff.2 ⟨by simp [Function.comp_def], fun field hfield ↦ ?_⟩⟩
    obtain ⟨path, hpath, rfl⟩ := List.mem_map.1 hfield
    obtain ⟨text, htext⟩ := htexts path hpath
    rw [keyText?_eq_some_iff.2 htext]
    exact htext

/-- Two keys are equal if the texts at every path are. -/
theorem key_eq_iff {otherKey : ExclusiveKey} (hkey : node.keyAt? paths = some key)
    (hother : other.keyAt? paths = some otherKey) :
    key = otherKey ↔ ∀ path ∈ paths, ∀ text otherText, node.HasKeyText path text →
      other.HasKeyText path otherText → text = otherText := by
  constructor
  · rintro rfl path hpath text otherText htext hotherText
    obtain ⟨rfl, hfields⟩ := keyAt?_eq_some_iff.1 hkey
    obtain ⟨_, hotherFields⟩ := keyAt?_eq_some_iff.1 hother
    obtain ⟨field, hfield, rfl⟩ := List.mem_map.1 hpath
    exact (htext.unique (hfields field hfield)).trans
      ((hotherFields field hfield).unique hotherText)
  · intro htexts
    have hcommon : ∀ path ∈ paths, ∃ text, node.HasKeyText path text ∧
        other.HasKeyText path text := by
      intro path hpath
      obtain ⟨text, htext⟩ := isSome_keyAt?_iff.1 (Option.isSome_of_eq_some hkey) path hpath
      obtain ⟨otherText, hotherText⟩ :=
        isSome_keyAt?_iff.1 (Option.isSome_of_eq_some hother) path hpath
      obtain rfl := htexts path hpath text otherText htext hotherText
      exact ⟨text, htext, hotherText⟩
    have hkeys : node.keyAt? paths = other.keyAt? paths := keyAt?_congr fun path hpath text ↦ by
      obtain ⟨common, hnode, hother⟩ := hcommon path hpath
      exact ⟨fun htext ↦ htext.unique hnode ▸ hother, fun htext ↦ htext.unique hother ▸ hnode⟩
    exact Option.some.inj (hkey.symm.trans (hkeys.trans hother))

/-- `Node.DiffersOff paths node other` says the nodes are the same but for a parameter through which
none of the paths leads. -/
def DiffersOff (paths : List String) (node other : Node) : Prop :=
  ∃ location, (∀ path ∈ paths, ¬ location <+: Text.splitOn '.' path) ∧ node.SameBut location other

theorem DiffersOff.type_eq (h : DiffersOff paths node other) : node.type = other.type := by
  obtain ⟨_, _, hsame⟩ := h
  exact hsame.type

/-- A parameter through which none of the paths leads makes no difference to the key. -/
theorem DiffersOff.keyAt?_eq (h : DiffersOff paths node other) :
    node.keyAt? paths = other.keyAt? paths := by
  obtain ⟨location, hoff, hsame⟩ := h
  exact keyAt?_congr fun path hpath _ ↦ hsame.hasKeyText_iff (hoff path hpath)

end Node

/-! ## Registrations -/

namespace ExclusivityRegistry

variable {registry : ExclusivityRegistry} {node : Node} {nodeType : String} {paths : List String}
  {after : List (String × KeyExtractor)}

/-- Carries out registrations one after the other. -/
def registerAll (registry : ExclusivityRegistry) (registrations : List (String × KeyExtractor)) :
    ExclusivityRegistry :=
  registrations.foldl (fun registry entry ↦ registry.registerExtractor entry.1 entry.2) registry

/-- A registration changes how the keys of its own node type are found, and of no other. -/
theorem extractKey?_registerExtractor (registry : ExclusivityRegistry) (nodeType : String)
    (extractor : KeyExtractor) (node : Node) :
    (registry.registerExtractor nodeType extractor).extractKey? node =
      if node.type = nodeType then extractor node else registry.extractKey? node := by
  rw [registerExtractor, extractKey?, Table.get?_insert]
  split <;> rfl

/-- Registrations of other node types change nothing for a node. -/
theorem extractKey?_registerAll_of_ne (h : ∀ entry ∈ after, entry.1 ≠ node.type) :
    (registry.registerAll after).extractKey? node = registry.extractKey? node := by
  induction after generalizing registry with
  | nil => rfl
  | cons entry rest ih =>
      obtain ⟨hentry, hrest⟩ := List.forall_mem_cons.1 h
      rw [registerAll, List.foldl_cons, ← registerAll, ih hrest, extractKey?_registerExtractor,
        if_neg hentry.symm]

/-- Registries that find the same key of a node still do after the same registrations. -/
theorem extractKey?_registerAll_congr {other : ExclusivityRegistry}
    (h : registry.extractKey? node = other.extractKey? node) :
    (registry.registerAll after).extractKey? node = (other.registerAll after).extractKey? node := by
  induction after generalizing registry other with
  | nil => exact h
  | cons entry rest ih =>
      refine ih ?_
      rw [extractKey?_registerExtractor, extractKey?_registerExtractor, h]

/-- What holds of the keys of a node type that are read at some paths. -/
structure ReadsKeysAt (registry : ExclusivityRegistry) (nodeType : String) (paths : List String) :
    Prop where
  /-- A node has a key if every path leads to a value that may be part of it. -/
  isSome_iff : ∀ node : Node, node.type = nodeType →
    ((registry.extractKey? node).isSome = true ↔ ∀ path ∈ paths, ∃ text, node.HasKeyText path text)
  /-- The key consists of the paths with their texts, in order. -/
  key_iff : ∀ (node : Node) (key : ExclusiveKey), node.type = nodeType →
    (registry.extractKey? node = some key ↔ key.fields.map (·.1) = paths ∧
      ∀ field ∈ key.fields, node.HasKeyText field.1 field.2)
  /-- Two keys are equal if the texts at every path are. -/
  eq_iff : ∀ (node other : Node) (key otherKey : ExclusiveKey), node.type = nodeType →
    other.type = nodeType → registry.extractKey? node = some key →
      registry.extractKey? other = some otherKey →
        (key = otherKey ↔ ∀ path ∈ paths, ∀ text otherText, node.HasKeyText path text →
          other.HasKeyText path otherText → text = otherText)
  /-- Parameters through which no path leads make no difference, however many of them differ. -/
  off_path : ∀ node other : Node, node.type = nodeType →
    Relation.ReflTransGen (Node.DiffersOff paths) node other →
      registry.extractKey? node = registry.extractKey? other

/-- A node type has its keys read at some paths if they are extracted there. -/
theorem readsKeysAt_of_extractKey? (h : ∀ node : Node, node.type = nodeType →
    registry.extractKey? node = node.keyAt? paths) : registry.ReadsKeysAt nodeType paths where
  isSome_iff node hnode := by
    rw [h node hnode]
    exact Node.isSome_keyAt?_iff
  key_iff node key hnode := by
    rw [h node hnode]
    exact Node.keyAt?_eq_some_iff
  eq_iff node other key otherKey hnode hother hkey hotherKey := by
    rw [h node hnode] at hkey
    rw [h other hother] at hotherKey
    exact Node.key_eq_iff hkey hotherKey
  off_path node other hnode hchain := by
    have hsame : other.type = node.type ∧ node.keyAt? paths = other.keyAt? paths := by
      induction hchain with
      | refl => exact ⟨rfl, rfl⟩
      | tail _ hstep ih => exact ⟨hstep.type_eq.symm.trans ih.1, ih.2.trans hstep.keyAt?_eq⟩
    rw [h node hnode, h other (hsame.1.trans hnode), hsame.2]

/-- Whatever was registered before and whatever is registered for other node types afterwards, the
keys of a node type are read exactly at the paths that were registered last for it; and only the
keys of this node type are affected by that registration. -/
theorem keys_read_exactly (registry : ExclusivityRegistry)
    {after : List (String × KeyExtractor)} {nodeType : String} {paths : List String}
    (hafter : ∀ entry ∈ after, entry.1 ≠ nodeType) :
    ((registry.register nodeType paths).registerAll after).ReadsKeysAt nodeType paths ∧
      ∀ node : Node, node.type ≠ nodeType →
        ((registry.register nodeType paths).registerAll after).extractKey? node =
          (registry.registerAll after).extractKey? node := by
  constructor
  · refine readsKeysAt_of_extractKey? fun node hnode ↦ ?_
    rw [extractKey?_registerAll_of_ne (hnode ▸ hafter), register, extractKey?_registerExtractor,
      if_pos hnode]
  · refine fun node hnode ↦ extractKey?_registerAll_congr ?_
    rw [register, extractKey?_registerExtractor, if_neg hnode]

/-- The keys of a queue are read at its name, its partition and its weight, which is 0.1, whatever
the keys of another trigger are read at since, and no longer at its name alone; its priority makes
no difference. -/
theorem queue_keys_read_exactly :
    let named := defaults.register "acme.queueTrigger" ["queue"]
    let others : List (String × KeyExtractor) := [(kafkaTrigger, (·.keyAt? ["topic"]))]
    let paths := ["queue", "options.partition", "options.weight"]
    let weight : Number := .real ⟨false, 4591870180066957722, by decide⟩
    let registry := (named.register "acme.queueTrigger" paths).registerAll others
    let node : Node :=
      { name := "Queue"
        type := "acme.queueTrigger"
        typeVersion := .one
        parameters := .ofList [("queue", .string "jobs"),
          ("options", .object (.ofList
            [("partition", .number (.integer 3)), ("weight", .number weight)]))]
        disabled := false
        rewireOutputLogTo := none }
    (∀ entry ∈ others, entry.1 ≠ "acme.queueTrigger") ∧
      registry.ReadsKeysAt "acme.queueTrigger" paths ∧
      (∀ other : Node, other.type ≠ "acme.queueTrigger" →
        registry.extractKey? other = (named.registerAll others).extractKey? other) ∧
      named.extractKey? node = some ⟨[("queue", "jobs")]⟩ ∧
      registry.extractKey? node =
        some ⟨[("queue", "jobs"), ("options.partition", "3"), ("options.weight", "0.1")]⟩ ∧
      node.DiffersOff paths
        { node with parameters := node.parameters.insert "priority" (.number (.integer 1)) } := by
  intro named others paths weight registry node
  have hothers : ∀ entry ∈ others, entry.1 ≠ "acme.queueTrigger" := by
    simp [others, kafkaTrigger]
  have hread : registry.ReadsKeysAt "acme.queueTrigger" paths ∧ _ :=
    keys_read_exactly named hothers
  exact ⟨hothers, hread.1, hread.2, by decide, by decide +kernel,
    ["priority"], by decide, node.sameBut_insert "priority" _⟩

end ExclusivityRegistry

end FlowGate
