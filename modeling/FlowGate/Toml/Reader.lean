import FlowGate.Toml.Document
import FlowGate.Toml.Scalar

/-!
# Reading TOML

`Toml.read?` reads a whole text as a TOML 1.0 document. An array may spread over several lines, a
table in braces may not.
-/

namespace FlowGate.Toml

mutual
/-- `readValue fuel depth input` reads one value that stands inside `depth` containers. -/
def readValue : Nat → Nat → Input → Option (Json × Input)
  | 0, _, _ => none
  | fuel + 1, depth, input =>
      match input with
      | '[' :: rest => do
          if depthLimit ≤ depth + 1 then none
          let (items, rest) ← readItems fuel (depth + 1) rest
          return (.array items, rest)
      | '\x7b' :: rest => do
          if depthLimit ≤ depth + 1 then none
          let (assignments, rest) ← match skipSpace rest with
            | '\x7d' :: rest => some ([], rest)
            | rest => readAssignments fuel (depth + 1) rest
          return (← assemble assignments [], rest)
      | input =>
          match readString? input with
          | some (text, rest) => some (.string text, rest)
          | none => readScalar? input

/-- Reads the items of an array up to its closing bracket; a comma may stand behind the last. -/
def readItems : Nat → Nat → Input → Option (List Json × Input)
  | 0, _, _ => none
  | fuel + 1, depth, input => do
      match ← skipLines? (input.length + 1) input with
      | ']' :: rest => some ([], rest)
      | rest =>
          let (item, rest) ← readValue fuel depth rest
          match ← skipLines? (rest.length + 1) rest with
          | ',' :: rest => do
              let (items, rest) ← readItems fuel depth rest
              return (item :: items, rest)
          | ']' :: rest => some ([item], rest)
          | _ => none

/-- Reads the assignments of a table in braces up to its closing brace; there is at least one. -/
def readAssignments : Nat → Nat → Input → Option (List Assignment × Input)
  | 0, _, _ => none
  | fuel + 1, depth, input => do
      let (path, name, rest) ← readKey? input
      let rest ← readMark? '=' rest
      let (value, rest) ← readValue fuel depth (skipSpace rest)
      match skipSpace rest with
      | ',' :: rest => do
          let (assignments, rest) ← readAssignments fuel depth rest
          return (⟨path, name, value⟩ :: assignments, rest)
      | '\x7d' :: rest => some ([⟨path, name, value⟩], rest)
      | _ => none
end

/-- One line of a document other than a comment. -/
inductive Statement where
  | assignment (assignment : Assignment)
  | header (header : Header)

/-- Reads one statement up to the end of its line. -/
def readStatement? (input : Input) : Option (Statement × Input) :=
  match input with
  | '[' :: '[' :: rest => do
      let (path, name, rest) ← readKey? rest
      let rest ← endLine? (← readMark? ']' (← readMark? ']' rest))
      return (.header ⟨path, name, true⟩, rest)
  | '[' :: rest => do
      let (path, name, rest) ← readKey? rest
      let rest ← endLine? (← readMark? ']' rest)
      return (.header ⟨path, name, false⟩, rest)
  | input => do
      let (path, name, rest) ← readKey? input
      let rest ← readMark? '=' rest
      let (value, rest) ← readValue (2 * rest.length + 2) 0 (skipSpace rest)
      return (.assignment ⟨path, name, value⟩, ← endLine? rest)

/-- `readStatements fuel input` reads all statements. -/
def readStatements : Nat → Input → Option (List Statement)
  | 0, _ => none
  | fuel + 1, input =>
      match skipSpace input with
      | [] => some []
      | c :: rest => do
          if c = '#' ∨ c = '\n' ∨ c = '\r' then
            let rest ← endLine? (c :: rest)
            readStatements fuel rest
          else
            let (statement, rest) ← readStatement? (c :: rest)
            return statement :: (← readStatements fuel rest)

/-- The assignments before the first header, and the sections. -/
def groupSections : List Statement → List Assignment × List Section
  | [] => ([], [])
  | .assignment assignment :: rest =>
      let (assignments, sections) := groupSections rest
      (assignment :: assignments, sections)
  | .header header :: rest =>
      let (assignments, sections) := groupSections rest
      ([], ⟨header, assignments⟩ :: sections)

/-- Reads a whole text; a byte order mark may stand in front. -/
def read? (text : String) : Option Json := do
  let input := match text.toList with
    | '\ufeff' :: rest => rest
    | input => input
  let statements ← readStatements (input.length + 1) input
  let (assignments, sections) := groupSections statements
  assemble assignments sections

end FlowGate.Toml
