import FlowGate.Text.Hex

/-!
# TOML texts

Blanks, comments, strings and keys. A string stands between quotes, where a backslash begins an
escape, or between apostrophes, where it does not; three of them open a string of several lines.
-/

namespace FlowGate.Toml

/-- The characters still to be read. -/
abbrev Input := List Char

/-- `isSpace c` says `c` separates tokens on a line. -/
def isSpace (c : Char) : Bool := c = ' ' || c = '\t'

/-- Drops blanks. -/
def skipSpace (input : Input) : Input := input.dropWhile isSpace

/-- `isText c` says `c` may stand in a comment or a string: no control character but the tab. -/
def isText (c : Char) : Bool := c = '\t' || (' ' ≤ c && c != '\x7f')

/-- Reads the end of a line. -/
def newline? : Input → Option Input
  | '\n' :: rest => some rest
  | '\r' :: '\n' :: rest => some rest
  | _ => none

/-- Drops the comment that the input begins with, if it does. -/
def skipComment : Input → Input
  | '#' :: rest => rest.dropWhile isText
  | input => input

/-- Reads what may follow the last token of a line, up to the end of the line or of the input. -/
def endLine? (input : Input) : Option Input :=
  let rest := skipComment (skipSpace input)
  if rest = [] then some [] else newline? rest

/-- `skipLines? fuel input` drops blanks, comments and line ends. -/
def skipLines? : Nat → Input → Option Input
  | 0, _ => none
  | fuel + 1, input =>
      match skipSpace input with
      | '#' :: rest => do skipLines? fuel (← newline? (rest.dropWhile isText))
      | '\n' :: rest => skipLines? fuel rest
      | '\r' :: rest => do skipLines? fuel (← newline? ('\r' :: rest))
      | rest => some rest

/-- Reads a given number of hexadecimal digits onto a number. -/
def readCode? : Nat → Nat → Input → Option (Nat × Input)
  | 0, code, input => some (code, input)
  | count + 1, code, c :: rest => do readCode? count (code * 16 + (← Text.Hex.digitValue? c)) rest
  | _, _, [] => none

/-- Reads the number of a character. -/
def readCharacter? (digits : Nat) (input : Input) : Option (Char × Input) := do
  let (code, rest) ← readCode? digits 0 input
  if code.isValidChar then some (Char.ofNat code, rest) else none

/-- Reads an escape after its backslash. -/
def readEscape? : Input → Option (Char × Input)
  | 'b' :: rest => some ('\x08', rest)
  | 't' :: rest => some ('\t', rest)
  | 'n' :: rest => some ('\n', rest)
  | 'f' :: rest => some ('\x0c', rest)
  | 'r' :: rest => some ('\r', rest)
  | '"' :: rest => some ('"', rest)
  | '\\' :: rest => some ('\\', rest)
  | 'u' :: rest => readCharacter? 4 rest
  | 'U' :: rest => readCharacter? 8 rest
  | _ => none

/-- `readQuoted fuel before input` reads a string of one line after its quote, with the characters
read so far, last one first. -/
def readQuoted : Nat → List Char → Input → Option (String × Input)
  | 0, _, _ => none
  | _, _, [] => none
  | _ + 1, before, '"' :: rest => some (String.ofList before.reverse, rest)
  | fuel + 1, before, '\\' :: rest => do
      let (c, rest) ← readEscape? rest
      readQuoted fuel (c :: before) rest
  | fuel + 1, before, c :: rest =>
      if isText c then readQuoted fuel (c :: before) rest else none

/-- Reads a string of one line after its apostrophe. -/
def readLiteral (input : Input) : Option (String × Input) :=
  let isInside (c : Char) : Bool := isText c && c != '\x27'
  match input.dropWhile isInside with
  | '\x27' :: rest => some (String.ofList (input.takeWhile isInside), rest)
  | _ => none

/-- Drops blanks and line ends. -/
def skipBlankLines : Input → Input
  | ' ' :: rest => skipBlankLines rest
  | '\t' :: rest => skipBlankLines rest
  | '\n' :: rest => skipBlankLines rest
  | '\r' :: '\n' :: rest => skipBlankLines rest
  | input => input

/-- Ends a string of several lines after three delimiters: up to two more belong to the string. -/
def finish (delimiter : Char) (before : List Char) : Input → String × Input
  | first :: second :: rest =>
      if first = delimiter ∧ second = delimiter then
        (String.ofList (second :: first :: before).reverse, rest)
      else if first = delimiter then (String.ofList (first :: before).reverse, second :: rest)
      else (String.ofList before.reverse, first :: second :: rest)
  | [last] =>
      if last = delimiter then (String.ofList (last :: before).reverse, [])
      else (String.ofList before.reverse, [last])
  | [] => (String.ofList before.reverse, [])

/-- `readLines delimiter fuel before input` reads a string of several lines up to three delimiters.
Between quotes a backslash begins an escape, and at the end of a line it drops the line end with all
blanks around it. -/
def readLines (delimiter : Char) : Nat → List Char → Input → Option (String × Input)
  | 0, _, _ => none
  | _, _, [] => none
  | fuel + 1, before, c :: rest =>
      if [c] ++ rest.take 2 = [delimiter, delimiter, delimiter] then
        some (finish delimiter before (rest.drop 2))
      else if c = '\\' ∧ delimiter = '"' then
        match newline? (skipSpace rest) with
        | some rest => readLines delimiter fuel before (skipBlankLines rest)
        | none => do
            let (c, rest) ← readEscape? rest
            readLines delimiter fuel (c :: before) rest
      else
        match newline? (c :: rest) with
        | some rest => readLines delimiter fuel ('\n' :: before) rest
        | none => if isText c then readLines delimiter fuel (c :: before) rest else none

/-- Drops the line end that the input begins with, if it does. -/
def skipNewline (input : Input) : Input := (newline? input).getD input

/-- Reads a string of any form. -/
def readString? (input : Input) : Option (String × Input) :=
  match input with
  | '"' :: '"' :: '"' :: rest => readLines '"' (rest.length + 1) [] (skipNewline rest)
  | '"' :: rest => readQuoted (rest.length + 1) [] rest
  | '\x27' :: '\x27' :: '\x27' :: rest =>
      readLines '\x27' (rest.length + 1) [] (skipNewline rest)
  | '\x27' :: rest => readLiteral rest
  | _ => none

/-- `isBare c` says `c` may stand in a name without quotes. -/
def isBare (c : Char) : Bool := c.isAlphanum || c = '_' || c = '-'

/-- Reads a name. -/
def readName? (input : Input) : Option (String × Input) :=
  match input with
  | '"' :: rest => readQuoted (rest.length + 1) [] rest
  | '\x27' :: rest => readLiteral rest
  | input =>
      let name := input.takeWhile isBare
      if name = [] then none else some (String.ofList name, input.dropWhile isBare)

/-- `readNames fuel input` reads names with dots between them and blanks around them. -/
def readNames : Nat → Input → Option (List String × Input)
  | 0, _ => none
  | fuel + 1, input => do
      let (name, rest) ← readName? (skipSpace input)
      match skipSpace rest with
      | '.' :: rest => do
          let (names, rest) ← readNames fuel rest
          return (name :: names, rest)
      | rest => return ([name], rest)

/-- The number of names and of containers inside each other that is refused. -/
def depthLimit : Nat := 80

/-- Reads a dotted key: the names before the last dot and the last name. -/
def readKey? (input : Input) : Option (List String × String × Input) := do
  let (names, rest) ← readNames (input.length + 1) input
  if depthLimit ≤ names.length then none
  let last ← names.getLast?
  return (names.dropLast, last, rest)

end FlowGate.Toml
