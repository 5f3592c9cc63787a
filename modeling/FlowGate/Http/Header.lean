import FlowGate.Text.Basic

/-!
# Header lists

A `HeaderList` is an ordered list of header names and values. `set` overwrites the value of a name
where it stands or adds the header at the end; `get?` finds a name without regard to the case of
its letters.
-/

namespace FlowGate

/-- Header names with their values, in order. -/
@[ext]
structure HeaderList where
  entries : List (String × String)
  deriving DecidableEq

namespace HeaderList

/-- The list without headers. -/
def empty : HeaderList := ⟨[]⟩

instance : Inhabited HeaderList := ⟨empty⟩

/-- Whether the list has no header. -/
def isEmpty (headers : HeaderList) : Bool := headers.entries.isEmpty

/-- Overwrites the first entry with exactly this name, or adds an entry at the end. -/
def setEntry (name value : String) : List (String × String) → List (String × String)
  | [] => [(name, value)]
  | entry :: rest =>
      if entry.1 = name then (name, value) :: rest else entry :: setEntry name value rest

/-- Gives a header a value. -/
def set (headers : HeaderList) (name value : String) : HeaderList :=
  ⟨setEntry name value headers.entries⟩

/-- The value of the first header whose name is the given one in some case of its letters. -/
def get? (headers : HeaderList) (name : String) : Option String :=
  (headers.entries.find? fun entry ↦ Text.lowercase entry.1 = Text.lowercase name).map (·.2)

/-- `isValueChar c` says `c` may stand in a header value: no control character but the tab. -/
def isValueChar (c : Char) : Bool := c = '\t' || (' ' ≤ c && c != '\x7f')

/-- `isValueText value` says `value` can be sent as a header value. -/
def isValueText (value : String) : Bool := value.toList.all isValueChar

/-- `isReadable value` says a received value consists of visible ASCII, blanks and tabs. -/
def isReadable (value : String) : Bool :=
  value.toList.all fun c ↦ c = '\t' || (' ' ≤ c && c < '\x7f')

/-- Sets every header of a list that can be sent on top of other headers. The names are to be in
small letters, as those of all headers of `Cors` are: a header that can be sent under a name with a
capital letter is set like any other here, while a server comes to a halt at it and does not
answer. -/
def copyOnto (headers target : HeaderList) : HeaderList :=
  headers.entries.foldl
    (fun target entry ↦ if isValueText entry.2 then target.set entry.1 entry.2 else target) target

end HeaderList

end FlowGate
