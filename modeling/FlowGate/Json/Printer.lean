import FlowGate.Json.Basic

/-!
# Writing JSON

`compact` writes a document without blanks, and `pretty` puts every item and member on a line of
its own, indented by two spaces for each container around it.
-/

namespace FlowGate.Json

/-- The lower-case hexadecimal digit for a number below sixteen. -/
def escapeDigit (value : Nat) : Char := "0123456789abcdef".toList.getD value '0'

/-- The way a character is written inside a string. -/
def escapeChar (c : Char) : List Char :=
  match c with
  | '"' => ['\\', '"']
  | '\\' => ['\\', '\\']
  | '\x08' => ['\\', 'b']
  | '\x0c' => ['\\', 'f']
  | '\n' => ['\\', 'n']
  | '\r' => ['\\', 'r']
  | '\t' => ['\\', 't']
  | c =>
      if c < ' ' then ['\\', 'u', '0', '0', escapeDigit (c.toNat / 16), escapeDigit (c.toNat % 16)]
      else [c]

/-- A text between quotes. -/
def quote (text : String) : String :=
  "\"" ++ String.ofList (text.toList.flatMap escapeChar) ++ "\""

mutual
/-- Writes a document without blanks. -/
def compact : Json → String
  | .null => "null"
  | .bool true => "true"
  | .bool false => "false"
  | .number value => value.text
  | .string value => quote value
  | .array items => "[" ++ compactItems items ++ "]"
  | .object fields => "\x7b" ++ compactFields fields ++ "\x7d"
  | .unrepresentable => "null"

/-- Writes items with commas between them. -/
def compactItems : List Json → String
  | [] => ""
  | [item] => compact item
  | item :: rest => compact item ++ "," ++ compactItems rest

/-- Writes members with commas between them. -/
def compactFields : List (String × Json) → String
  | [] => ""
  | [(name, value)] => quote name ++ ":" ++ compact value
  | (name, value) :: rest => quote name ++ ":" ++ compact value ++ "," ++ compactFields rest
end

/-- The start of a line inside the given number of containers. -/
def lineStart (depth : Nat) : String := "\n" ++ String.ofList (List.replicate (2 * depth) ' ')

mutual
/-- `prettyAt depth json` writes a document inside `depth` containers, one part a line. -/
def prettyAt : Nat → Json → String
  | depth, .array (item :: rest) =>
      "[" ++ prettyItems (depth + 1) (item :: rest) ++ lineStart depth ++ "]"
  | depth, .object (field :: rest) =>
      "\x7b" ++ prettyFields (depth + 1) (field :: rest) ++ lineStart depth ++ "\x7d"
  | _, json => compact json

/-- Writes items, each on a line of its own. -/
def prettyItems : Nat → List Json → String
  | _, [] => ""
  | depth, [item] => lineStart depth ++ prettyAt depth item
  | depth, item :: rest => lineStart depth ++ prettyAt depth item ++ "," ++ prettyItems depth rest

/-- Writes members, each on a line of its own. -/
def prettyFields : Nat → List (String × Json) → String
  | _, [] => ""
  | depth, [(name, value)] => lineStart depth ++ quote name ++ ": " ++ prettyAt depth value
  | depth, (name, value) :: rest =>
      lineStart depth ++ quote name ++ ": " ++ prettyAt depth value ++ "," ++
        prettyFields depth rest
end

/-- Writes a document with one part a line. -/
def pretty (json : Json) : String := prettyAt 0 json

end FlowGate.Json
