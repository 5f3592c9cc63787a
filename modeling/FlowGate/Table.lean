/-!
# Tables with text keys

A `Table` is a finite map from texts to values, kept as a list of entries in strictly ascending
key order, so two tables with the same content are equal. `get?_insert`, `get?_erase` and
`get?_modify` say what each operation does to the content, `eq_of_get?_eq` says the content
determines the table, and `ofList_entries` says building a table from its own entries gives it
back.
-/

namespace FlowGate

universe u v

/-- A finite map from texts to values, with its entries in strictly ascending key order. -/
@[ext]
structure Table (α : Type u) where
  /-- The entries in ascending key order. -/
  entries : List (String × α)
  /-- Every key comes before the keys after it, so no key occurs twice. -/
  ascending : entries.Pairwise (fun earlier later ↦ earlier.1 < later.1)

namespace Table

variable {α : Type u} {β : Type v}

instance [DecidableEq α] : DecidableEq (Table α) := fun left right ↦
  decidable_of_iff (left.entries = right.entries) Table.ext_iff.symm

/-- The table without entries. -/
def empty : Table α := ⟨[], .nil⟩

instance : Inhabited (Table α) := ⟨empty⟩

/-- The value stored under a key, if there is one. -/
def get? (table : Table α) (key : String) : Option α := table.entries.lookup key

/-- Whether a key has a value. -/
def contains (table : Table α) (key : String) : Bool := (table.get? key).isSome

/-- The keys in ascending order. -/
def keys (table : Table α) : List String := table.entries.map (·.1)

/-- The values in ascending order of their keys. -/
def values (table : Table α) : List α := table.entries.map (·.2)

/-- The number of entries. -/
def size (table : Table α) : Nat := table.entries.length

/-- Whether the table has no entry. -/
def isEmpty (table : Table α) : Bool := table.entries.isEmpty

/-- Puts an entry at its place in an ascending list, replacing the entry of the same key. -/
def insertEntry (key : String) (value : α) : List (String × α) → List (String × α)
  | [] => [(key, value)]
  | entry :: rest =>
      if key < entry.1 then (key, value) :: entry :: rest
      else if key = entry.1 then (key, value) :: rest
      else entry :: insertEntry key value rest

theorem mem_insertEntry {key : String} {value : α} {entry : String × α}
    {entries : List (String × α)} (h : entry ∈ insertEntry key value entries) :
    entry = (key, value) ∨ entry ∈ entries := by
  induction entries with
  | nil => exact .inl (by simpa [insertEntry] using h)
  | cons head rest ih =>
      rw [insertEntry] at h
      split at h
      · simpa using h
      · split at h
        · rcases List.mem_cons.1 h with h | h
          · exact .inl h
          · exact .inr (List.mem_cons_of_mem _ h)
        · rcases List.mem_cons.1 h with h | h
          · exact .inr (by simp [h])
          · rcases ih h with h | h
            · exact .inl h
            · exact .inr (List.mem_cons_of_mem _ h)

theorem lt_of_not_lt_of_ne {left right : String} (hlt : ¬ left < right) (hne : left ≠ right) :
    right < left := by
  rcases String.le_total left right with h | h
  · exact absurd (String.le_antisymm h hlt) hne
  · exact Decidable.byContradiction fun hright ↦ hne (String.le_antisymm hright h)

theorem ascending_insertEntry {entries : List (String × α)} (key : String) (value : α)
    (h : entries.Pairwise (fun earlier later ↦ earlier.1 < later.1)) :
    (insertEntry key value entries).Pairwise (fun earlier later ↦ earlier.1 < later.1) := by
  induction h with
  | nil => simp [insertEntry]
  | @cons head rest hhead hrest ih =>
      rw [insertEntry]
      split
      · next hlt =>
          refine .cons ?_ (.cons hhead hrest)
          intro later hlater
          rcases List.mem_cons.1 hlater with rfl | hlater
          · exact hlt
          · exact String.lt_trans hlt (hhead later hlater)
      · next hnot =>
          split
          · next heq => exact .cons (fun later hlater ↦ heq ▸ hhead later hlater) hrest
          · next hne =>
              refine .cons ?_ ih
              intro later hlater
              rcases mem_insertEntry hlater with rfl | hlater
              · exact lt_of_not_lt_of_ne hnot hne
              · exact hhead later hlater

/-- Stores a value under a key, replacing the value stored there before. -/
def insert (table : Table α) (key : String) (value : α) : Table α :=
  ⟨insertEntry key value table.entries, ascending_insertEntry key value table.ascending⟩

/-- Removes the entry of a key. -/
def erase (table : Table α) (key : String) : Table α :=
  ⟨table.entries.filter (·.1 != key), table.ascending.filter _⟩

/-- Changes the value stored under a key; a table without the key stays as it is. -/
def modify (table : Table α) (key : String) (change : α → α) : Table α where
  entries := table.entries.map fun entry ↦
    (entry.1, if entry.1 = key then change entry.2 else entry.2)
  ascending := table.ascending.map _ fun _ _ h ↦ h

/-- Applies a function to every value. -/
def map (transform : α → β) (table : Table α) : Table β where
  entries := table.entries.map fun entry ↦ (entry.1, transform entry.2)
  ascending := table.ascending.map _ fun _ _ h ↦ h

/-- The table of a list of entries; of two entries with one key the later one counts. -/
def ofList (entries : List (String × α)) : Table α :=
  entries.foldl (fun table entry ↦ table.insert entry.1 entry.2) empty

/-- The table with one entry. -/
def singleton (key : String) (value : α) : Table α := empty.insert key value

theorem lookup_cons_entry (entry : String × α) (rest : List (String × α)) (key : String) :
    (entry :: rest).lookup key = if key = entry.1 then some entry.2 else rest.lookup key := by
  obtain ⟨name, value⟩ := entry
  rw [List.lookup_cons]
  by_cases h : key = name
  · simp [h]
  · rw [beq_false_of_ne h]
    simp [h]

@[simp]
theorem get?_empty (key : String) : (empty : Table α).get? key = none := rfl

theorem lookup_insertEntry (entries : List (String × α)) (key : String) (value : α)
    (other : String) :
    (insertEntry key value entries).lookup other =
      if other = key then some value else entries.lookup other := by
  induction entries with
  | nil => simp [insertEntry, lookup_cons_entry]
  | cons head rest ih =>
      rw [insertEntry]
      split
      · simp [lookup_cons_entry]
      · split
        · next heq => by_cases h : other = key <;> simp_all [lookup_cons_entry]
        · next hne =>
            by_cases h : other = head.1
            · have : other ≠ key := fun hk ↦ hne (hk ▸ h)
              rw [lookup_cons_entry, if_pos h, if_neg this, lookup_cons_entry, if_pos h]
            · simp [lookup_cons_entry, h, ih]

/-- After an insertion the key has the new value and every other key its old one. -/
theorem get?_insert (table : Table α) (key : String) (value : α) (other : String) :
    (table.insert key value).get? other = if other = key then some value else table.get? other :=
  lookup_insertEntry table.entries key value other

/-- After a removal the key has no value and every other key its old one. -/
theorem get?_erase (table : Table α) (key other : String) :
    (table.erase key).get? other = if other = key then none else table.get? other := by
  simp only [erase, get?]
  induction table.entries with
  | nil => simp
  | cons head rest ih =>
      rw [List.filter_cons, lookup_cons_entry]
      by_cases hhead : head.1 = key
      · rw [if_neg (by simp [hhead]), ih]
        by_cases h : other = key <;> simp [h, hhead]
      · rw [if_pos (by simp [hhead]), lookup_cons_entry, ih]
        by_cases h : other = head.1
        · simp [h, hhead]
        · simp [h]

/-- After a change the key has the changed value and every other key its old one. -/
theorem get?_modify (table : Table α) (key : String) (change : α → α) (other : String) :
    (table.modify key change).get? other =
      if other = key then (table.get? other).map change else table.get? other := by
  simp only [modify, get?]
  induction table.entries with
  | nil => simp
  | cons head rest ih =>
      rw [List.map_cons, lookup_cons_entry, lookup_cons_entry, ih]
      by_cases h : other = head.1
      · by_cases hkey : head.1 = key <;> simp [h, hkey]
      · simp [h]

theorem get?_map (transform : α → β) (table : Table α) (key : String) :
    (table.map transform).get? key = (table.get? key).map transform := by
  simp only [map, get?]
  induction table.entries with
  | nil => rfl
  | cons head rest ih => by_cases h : key = head.1 <;> simp_all [lookup_cons_entry]

theorem lookup_eq_none_of_lt {entries : List (String × α)} {key : String}
    (h : ∀ entry ∈ entries, key < entry.1) : entries.lookup key = none := by
  induction entries with
  | nil => rfl
  | cons head rest ih =>
      have hhead : key ≠ head.1 := fun heq ↦
        String.lt_irrefl key (heq ▸ h head List.mem_cons_self)
      have hrest := ih fun entry hentry ↦ h entry (List.mem_cons_of_mem _ hentry)
      simp [lookup_cons_entry, hhead, hrest]

theorem entries_eq_of_lookup_eq {left right : List (String × α)}
    (hleft : left.Pairwise (fun earlier later ↦ earlier.1 < later.1))
    (hright : right.Pairwise (fun earlier later ↦ earlier.1 < later.1))
    (h : ∀ key, left.lookup key = right.lookup key) : left = right := by
  induction left generalizing right with
  | nil =>
      cases right with
      | nil => rfl
      | cons head rest => simpa [lookup_cons_entry] using h head.1
  | cons first others ih =>
      cases right with
      | nil => simpa [lookup_cons_entry] using h first.1
      | cons head rest =>
          obtain ⟨hfirst, hothers⟩ := List.pairwise_cons.1 hleft
          obtain ⟨hhead, hrest⟩ := List.pairwise_cons.1 hright
          have hkey : first.1 = head.1 := by
            refine Decidable.byContradiction fun hne ↦ ?_
            rcases Decidable.em (first.1 < head.1) with hlt | hnot
            · have := h first.1
              rw [@lookup_eq_none_of_lt _ (head :: rest)] at this
              · simp [lookup_cons_entry] at this
              · intro entry hentry
                rcases List.mem_cons.1 hentry with rfl | hentry
                · exact hlt
                · exact String.lt_trans hlt (hhead entry hentry)
            · have hlt := lt_of_not_lt_of_ne hnot hne
              have := h head.1
              rw [@lookup_eq_none_of_lt _ (first :: others)] at this
              · simp [lookup_cons_entry] at this
              · intro entry hentry
                rcases List.mem_cons.1 hentry with rfl | hentry
                · exact hlt
                · exact String.lt_trans hlt (hfirst entry hentry)
          have hvalue : first.2 = head.2 := by
            simpa [lookup_cons_entry, hkey] using h first.1
          have htail : others = rest := by
            refine ih hothers hrest fun key ↦ ?_
            by_cases hk : key = first.1
            · rw [hk, lookup_eq_none_of_lt hfirst, hkey, lookup_eq_none_of_lt hhead]
            · have := h key
              simpa [lookup_cons_entry, hk, show key ≠ head.1 from hkey ▸ hk] using this
          rw [htail, Prod.ext hkey hvalue]

/-- Tables that agree on every key are equal. -/
theorem eq_of_get?_eq {left right : Table α} (h : ∀ key, left.get? key = right.get? key) :
    left = right :=
  Table.ext (entries_eq_of_lookup_eq left.ascending right.ascending h)

theorem insertEntry_of_all_lt {entries : List (String × α)} {key : String} (value : α)
    (h : ∀ entry ∈ entries, entry.1 < key) :
    insertEntry key value entries = entries ++ [(key, value)] := by
  induction entries with
  | nil => rfl
  | cons head rest ih =>
      have hhead := h head List.mem_cons_self
      have hne : key ≠ head.1 := fun heq ↦ String.lt_irrefl head.1 (heq ▸ hhead)
      rw [insertEntry, if_neg (String.lt_asymm hhead), if_neg hne,
        ih fun entry hentry ↦ h entry (List.mem_cons_of_mem _ hentry)]
      rfl

theorem foldl_insert_entries (table : Table α) (entries : List (String × α))
    (h : (table.entries ++ entries).Pairwise (fun earlier later ↦ earlier.1 < later.1)) :
    (entries.foldl (fun table entry ↦ table.insert entry.1 entry.2) table).entries =
      table.entries ++ entries := by
  induction entries generalizing table with
  | nil => simp
  | cons head rest ih =>
      have hbefore : ∀ entry ∈ table.entries, entry.1 < head.1 := fun entry hentry ↦
        (List.pairwise_append.1 h).2.2 entry hentry head List.mem_cons_self
      have hinsert : (table.insert head.1 head.2).entries = table.entries ++ [head] :=
        insertEntry_of_all_lt head.2 hbefore
      rw [List.foldl_cons, ih _ (by rw [hinsert]; simpa using h), hinsert]
      simp

/-- Building a table from the entries of a table gives that table. -/
@[simp]
theorem ofList_entries (table : Table α) : ofList table.entries = table :=
  Table.ext (foldl_insert_entries empty table.entries (by simpa [empty] using table.ascending))

theorem mem_entries_of_get? {table : Table α} {key : String} {value : α}
    (h : table.get? key = some value) : (key, value) ∈ table.entries := by
  obtain ⟨entries, ascending⟩ := table
  simp only [get?] at h ⊢
  clear ascending
  induction entries with
  | nil => simp at h
  | cons head rest ih =>
      rw [lookup_cons_entry] at h
      split at h
      · next hkey => exact List.mem_cons.2 (.inl (Prod.ext hkey (Option.some.inj h).symm))
      · exact List.mem_cons_of_mem _ (ih h)

/-- An entry of the list is what looking up its key finds. -/
theorem get?_of_mem_entries {table : Table α} {entry : String × α} (h : entry ∈ table.entries) :
    table.get? entry.1 = some entry.2 := by
  obtain ⟨entries, ascending⟩ := table
  simp only [get?] at h ⊢
  induction entries with
  | nil => simp at h
  | cons head rest ih =>
      obtain ⟨hhead, hrest⟩ := List.pairwise_cons.1 ascending
      rcases List.mem_cons.1 h with rfl | h
      · simp [lookup_cons_entry]
      · have : entry.1 ≠ head.1 := fun heq ↦
          String.lt_irrefl entry.1 (by simpa [heq] using hhead entry h)
        simpa [lookup_cons_entry, this] using ih hrest h

end Table

end FlowGate
