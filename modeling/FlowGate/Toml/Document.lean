import FlowGate.Json.Basic

/-!
# TOML documents

A TOML document is a tree of tables that is put together from assignments and headers. Each table
remembers how it came to be, because that decides what may still be added to it: a table with a
header of its own is complete for dotted keys, a table implied by a longer header may get its own
header once, and a table made by dotted keys can only be extended by dotted keys.
-/

namespace FlowGate.Toml

/-- How a table came to be. -/
inductive Origin where
  /-- The table has a header or braces of its own, or is the document. -/
  | defined
  /-- A header of a table inside it implied the table. -/
  | implied
  /-- A dotted key made the table. -/
  | dotted
  deriving DecidableEq

/-- What a name stands for in a table. -/
inductive Item where
  | value (json : Json)
  | table (origin : Origin) (entries : List (String × Item))
  /-- Tables that share a header in double brackets, in order. -/
  | tables (items : List (List (String × Item)))

/-- The names of a table with what they stand for. -/
abbrev Entries := List (String × Item)

/-- An assignment of a value to a dotted key. -/
structure Assignment where
  /-- The names before the last dot. -/
  path : List String
  name : String
  value : Json

/-- A header. -/
structure Header where
  /-- The names before the last dot. -/
  path : List String
  name : String
  /-- Whether the header stands in double brackets and opens one more table of an array. -/
  isArray : Bool

/-- A header with the assignments below it. -/
structure Section where
  header : Header
  assignments : List Assignment

mutual
/-- An item as a document. -/
def Item.toJson : Item → Json
  | .value json => json
  | .table _ entries => .object (entriesJson entries)
  | .tables items => .array (tablesJson items)

/-- The members of a table. -/
def entriesJson : List (String × Item) → List (String × Json)
  | [] => []
  | (name, item) :: rest => (name, item.toJson) :: entriesJson rest

/-- Tables as documents. -/
def tablesJson : List (List (String × Item)) → List Json
  | [] => []
  | entries :: rest => .object (entriesJson entries) :: tablesJson rest
end

/-- Lets a name stand for an item, in place of what it stood for. -/
def put (name : String) (item : Item) : Entries → Entries
  | [] => [(name, item)]
  | entry :: rest => if entry.1 = name then (name, item) :: rest else entry :: put name item rest

/-- Changes the table at the end of a path. Missing tables on the way are made with the given
origin; an array of tables is entered at its last one. A value on the way is an error, and for a
dotted key so is a table that is complete. -/
def changeAt (made : Origin) (change : Origin → Entries → Option Entries) :
    List String → Origin → Entries → Option Entries
  | [], origin, entries => change origin entries
  | name :: rest, _, entries =>
      match entries.lookup name with
      | none => do
          let child ← changeAt made change rest made []
          return put name (.table made child) entries
      | some (.value _) => none
      | some (.table origin child) => do
          if made = .dotted ∧ origin = .defined then none
          let child ← changeAt made change rest origin child
          return put name (.table origin child) entries
      | some (.tables items) => do
          let last ← changeAt made change rest .defined (← items.getLast?)
          return put name (.tables (items.dropLast ++ [last])) entries

/-- Carries out an assignment in a table. Its name must be new, and the table that a dotted key
leads to must be one that dotted keys made. -/
def assign (entries : Entries) (assignment : Assignment) : Option Entries :=
  let store (origin : Origin) (entries : Entries) : Option Entries :=
    if assignment.path.isEmpty = decide (origin = .dotted) then none
    else if (entries.lookup assignment.name).isSome then none
    else some (put assignment.name (.value assignment.value) entries)
  changeAt .dotted store assignment.path .defined entries

/-- The entries a table has before the assignments below its header: none, or those of a table that
was only implied so far. -/
def openTable? : Option Item → Option Entries
  | none => some []
  | some (.table .implied entries) => some entries
  | some _ => none

/-- The tables of an array so far. -/
def openArray? : Option Item → Option (List Entries)
  | none => some []
  | some (.tables items) => some items
  | some _ => none

/-- Adds a section to a document. -/
def addSection (entries : Entries) (part : Section) : Option Entries :=
  let name := part.header.name
  let place (_ : Origin) (parent : Entries) : Option Entries :=
    if part.header.isArray then do
      let items ← openArray? (parent.lookup name)
      let entries ← part.assignments.foldlM assign []
      return put name (.tables (items ++ [entries])) parent
    else do
      let entries ← openTable? (parent.lookup name)
      let entries ← part.assignments.foldlM assign entries
      return put name (.table .defined entries) parent
  changeAt .implied place part.header.path .defined entries

/-- The document of the assignments before the first header and the sections. -/
def assemble (assignments : List Assignment) (sections : List Section) : Option Json := do
  let entries ← assignments.foldlM assign []
  let entries ← sections.foldlM addSection entries
  return .object (entriesJson entries)

end FlowGate.Toml
