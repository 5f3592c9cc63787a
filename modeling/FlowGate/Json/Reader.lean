import FlowGate.Json.Value
import FlowGate.Text.Hex
import FlowGate.Text.Utf8

/-!
# Reading JSON

`Json.read?` reads a whole text by the grammar of RFC 8259. What is well formed but has no value
here is read as `Json.unrepresentable`: a string with a lone surrogate or ill-formed bytes, an
object with such a name, a number too large for binary64, and a container inside 127 others.

A decimal keeps the leading digits that fit 64 bits: further digits before the point count as
powers of ten, and further digits after the point are ignored.
-/

namespace FlowGate.Json

/-- A text that may contain ill-formed parts, each given as `none`. -/
abbrev Input := List (Option Char)

/-- The greatest number of containers that may stand inside each other. -/
def greatestDepth : Nat := 127

/-- `isSpace c` says `c` may stand between the tokens of a document. -/
def isSpace (c : Option Char) : Bool :=
  c = some ' ' || c = some '\t' || c = some '\n' || c = some '\r'

/-- Drops blanks before a token. -/
def skipSpace (input : Input) : Input := input.dropWhile isSpace

/-- Reads a given word. -/
def word? (word : String) (input : Input) : Option Input :=
  let characters := word.toList.map some
  if characters.isPrefixOf input then some (input.drop characters.length) else none

/-- A part of a string between its quotes. -/
inductive Piece where
  /-- A character that stands for itself or is named by a short escape. -/
  | char (c : Char)
  /-- A UTF-16 unit given by its number. -/
  | unit (code : Nat)
  /-- Bytes that are not UTF-8. -/
  | illFormed

/-- The character a short escape stands for. -/
def shortEscape? : Char → Option Char
  | '"' => some '"'
  | '\\' => some '\\'
  | '/' => some '/'
  | 'b' => some '\x08'
  | 'f' => some '\x0c'
  | 'n' => some '\n'
  | 'r' => some '\r'
  | 't' => some '\t'
  | _ => none

/-- The number of four hexadecimal digits. -/
def unitValue? (first second third fourth : Option Char) : Option Nat := do
  let a ← first.bind Text.Hex.digitValue?
  let b ← second.bind Text.Hex.digitValue?
  let c ← third.bind Text.Hex.digitValue?
  let d ← fourth.bind Text.Hex.digitValue?
  return ((a * 16 + b) * 16 + c) * 16 + d

/-- Reads the pieces of a string up to its closing quote, onto the pieces read before. -/
def readPieces (pieces : List Piece) : Input → Option (List Piece × Input)
  | [] => none
  | some '"' :: rest => some (pieces.reverse, rest)
  | some '\\' :: some 'u' :: first :: second :: third :: fourth :: rest => do
      let code ← unitValue? first second third fourth
      readPieces (.unit code :: pieces) rest
  | some '\\' :: some c :: rest => do
      let c ← shortEscape? c
      readPieces (.char c :: pieces) rest
  | some c :: rest =>
      if c < ' ' ∨ c = '\\' then none else readPieces (.char c :: pieces) rest
  | none :: rest => readPieces (.illFormed :: pieces) rest

/-- Whether a UTF-16 unit is the first of a surrogate pair. -/
def isHighSurrogate (code : Nat) : Bool := 0xd800 ≤ code && code < 0xdc00

/-- Whether a UTF-16 unit is the second of a surrogate pair. -/
def isLowSurrogate (code : Nat) : Bool := 0xdc00 ≤ code && code < 0xe000

/-- The characters of a string's pieces; `none` for a lone surrogate or ill-formed bytes. -/
def charactersOf? : List Piece → Option (List Char)
  | [] => some []
  | .char c :: rest => do return c :: (← charactersOf? rest)
  | .unit high :: .unit low :: rest =>
      if isHighSurrogate high && isLowSurrogate low then do
        let c := Char.ofNat (0x10000 + (high - 0xd800) * 0x400 + (low - 0xdc00))
        return c :: (← charactersOf? rest)
      else if isHighSurrogate high || isLowSurrogate high then none
      else do return Char.ofNat high :: (← charactersOf? (.unit low :: rest))
  | .unit code :: rest =>
      if isHighSurrogate code || isLowSurrogate code then none
      else do return Char.ofNat code :: (← charactersOf? rest)
  | .illFormed :: _ => none

/-- Reads a string after its opening quote; the inner `none` is a string without a value. -/
def readString (input : Input) : Option (Option String × Input) := do
  let (pieces, rest) ← readPieces [] input
  return ((charactersOf? pieces).map String.ofList, rest)

/-- The value of a decimal digit. -/
def digitValue? : Option Char → Option Nat
  | some c => if '0' ≤ c ∧ c ≤ '9' then some (c.toNat - '0'.toNat) else none
  | none => none

/-- Splits off a run of decimal digits. -/
def readDigits : Input → List Nat × Input
  | [] => ([], [])
  | c :: rest =>
      match digitValue? c with
      | some digit =>
          let (digits, after) := readDigits rest
          (digit :: digits, after)
      | none => ([], c :: rest)

/-- A number as it is written. -/
structure Literal where
  /-- Whether a minus sign stands in front. -/
  negative : Bool
  /-- The digits before the point. -/
  whole : List Nat
  /-- The digits after the point, if there is one. -/
  fraction : Option (List Nat)
  /-- The exponent, if there is one. -/
  exponent : Option Int

/-- Reads the digits after a decimal point, if there is one. -/
def readFraction : Input → Option (Option (List Nat) × Input)
  | some '.' :: rest =>
      match readDigits rest with
      | ([], _) => none
      | (digits, rest) => some (some digits, rest)
  | input => some (none, input)

/-- The number of a run of digits. -/
def digitsValue (digits : List Nat) : Nat := digits.foldl (fun value digit ↦ value * 10 + digit) 0

/-- Reads an exponent, if there is one. -/
def readExponent : Input → Option (Option Int × Input)
  | some c :: rest =>
      if c = 'e' ∨ c = 'E' then
        let (negative, rest) := match rest with
          | some '+' :: rest => (false, rest)
          | some '-' :: rest => (true, rest)
          | rest => (false, rest)
        match readDigits rest with
        | ([], _) => none
        | (digits, rest) =>
            let value : Int := digitsValue digits
            some (some (if negative then -value else value), rest)
      else some (none, some c :: rest)
  | input => some (none, input)

/-- Reads a number. -/
def readLiteral (input : Input) : Option (Literal × Input) := do
  let (negative, unsigned) := match input with
    | some '-' :: rest => (true, rest)
    | rest => (false, rest)
  let (whole, rest) := readDigits unsigned
  if whole = [] ∨ (whole.head? = some 0 ∧ whole.length ≠ 1) then none
  let (fraction, rest) ← readFraction rest
  let (exponent, rest) ← readExponent rest
  return (⟨negative, whole, fraction, exponent⟩, rest)

/-- `absorb value digits` appends leading digits to a number while it fits 64 bits, and counts the
digits taken and the digits left over. -/
def absorb (value : Nat) : List Nat → Nat × Nat × Nat
  | [] => (value, 0, 0)
  | digit :: rest =>
      if value * 10 + digit < UInt64.size then
        let (result, taken, left) := absorb (value * 10 + digit) rest
        (result, taken + 1, left)
      else (value, 0, rest.length + 1)

/-- The value of a number as it is written, or `none` when it is too large. -/
def Literal.number? (literal : Literal) : Option Number :=
  let (whole, _, left) := absorb 0 literal.whole
  match literal.fraction, literal.exponent with
  | none, none =>
      if left = 0 ∧ literal.negative = false then some (.integer whole)
      else if left = 0 ∧ 0 < whole ∧ Int64.minValue.toInt ≤ -whole then some (.integer (-whole))
      else (Binary64.ofScaled? literal.negative whole left).map .real
  | fraction, exponent =>
      let (significand, taken, _) := absorb whole (fraction.getD [])
      let power : Int := left - taken + exponent.getD 0
      (Binary64.ofScaled? literal.negative significand power).map .real

mutual
/-- `readValue fuel depth input` reads one value that stands inside `depth` containers. -/
def readValue : Nat → Nat → Input → Option (Json × Input)
  | 0, _, _ => none
  | fuel + 1, depth, input =>
      match skipSpace input with
      | some '\x7b' :: rest => do
          let (fields, rest) ← match skipSpace rest with
            | some '\x7d' :: rest => some (some [], rest)
            | rest => readFields fuel (depth + 1) rest
          let json := match fields with
            | some fields => if depth < greatestDepth then .object fields else .unrepresentable
            | none => .unrepresentable
          return (json, rest)
      | some '[' :: rest => do
          let (items, rest) ← match skipSpace rest with
            | some ']' :: rest => some ([], rest)
            | rest => readItems fuel (depth + 1) rest
          return (if depth < greatestDepth then .array items else .unrepresentable, rest)
      | some '"' :: rest => do
          let (text, rest) ← readString rest
          let json := match text with
            | some text => .string text
            | none => .unrepresentable
          return (json, rest)
      | rest =>
          match word? "null" rest, word? "true" rest, word? "false" rest with
          | some rest, _, _ => some (.null, rest)
          | _, some rest, _ => some (.bool true, rest)
          | _, _, some rest => some (.bool false, rest)
          | _, _, _ => do
              let (literal, rest) ← readLiteral rest
              let json := match literal.number? with
                | some value => .number value
                | none => .unrepresentable
              return (json, rest)

/-- Reads the items of a non-empty array up to its closing bracket. -/
def readItems : Nat → Nat → Input → Option (List Json × Input)
  | 0, _, _ => none
  | fuel + 1, depth, input => do
      let (item, rest) ← readValue fuel depth input
      match skipSpace rest with
      | some ',' :: rest => do
          let (items, rest) ← readItems fuel depth rest
          return (item :: items, rest)
      | some ']' :: rest => some ([item], rest)
      | _ => none

/-- Reads the members of a non-empty object up to its closing brace; the inner `none` says that a
name has no value. -/
def readFields : Nat → Nat → Input → Option (Option (List (String × Json)) × Input)
  | 0, _, _ => none
  | fuel + 1, depth, input => do
      let rest ← word? "\"" (skipSpace input)
      let (name, rest) ← readString rest
      let rest ← word? ":" (skipSpace rest)
      let (value, rest) ← readValue fuel depth rest
      match skipSpace rest with
      | some ',' :: rest => do
          let (fields, rest) ← readFields fuel depth rest
          return (do return (← name, value) :: (← fields), rest)
      | some '\x7d' :: rest => some (do return [(← name, value)], rest)
      | _ => none
end

/-- Reads a whole text. -/
def readInput? (input : Input) : Option Json := do
  let (json, rest) ← readValue (2 * input.length + 2) 0 input
  if skipSpace rest = [] then some json else none

/-- Reads a whole text. -/
def read? (text : String) : Option Json := readInput? (text.toList.map some)

/-- Reads the bytes of a whole text. -/
def readBytes? (bytes : List UInt8) : Option Json := readInput? (Text.Utf8.decode bytes)

end FlowGate.Json
