import FlowGate.Calendar.Instant
import FlowGate.Json.Basic
import FlowGate.Toml.Text

/-!
# TOML numbers and dates

An integer has 64 bits with a sign and may be written in hexadecimal, octal or binary; a fraction
or an exponent makes a number a binary64 number. Single underscores may stand between digits. A
date, a time of day or both together are read but have no value of their own: they become an object
that holds their text. Infinities and NaN are unrepresentable.
-/

namespace FlowGate.Toml

/-- The value of a digit in a radix of at most sixteen. -/
def digitValue? (radix : Nat) (c : Char) : Option Nat :=
  (Text.Hex.digitValue? c).filter (· < radix)

/-- Reads the digits behind the first one, with single underscores between them. -/
def readMoreDigits? (radix : Nat) : Input → Option (List Nat × Input)
  | [] => some ([], [])
  | '_' :: c :: rest => do
      let digit ← digitValue? radix c
      let (digits, rest) ← readMoreDigits? radix rest
      return (digit :: digits, rest)
  | c :: rest =>
      match digitValue? radix c with
      | some digit => do
          let (digits, rest) ← readMoreDigits? radix rest
          return (digit :: digits, rest)
      | none => some ([], c :: rest)

/-- Reads at least one digit. -/
def readDigits? (radix : Nat) : Input → Option (List Nat × Input)
  | [] => none
  | c :: rest => do
      let digit ← digitValue? radix c
      let (digits, rest) ← readMoreDigits? radix rest
      return (digit :: digits, rest)

/-- Reads the digits before a decimal point; a zero stands alone. -/
def readWhole? : Input → Option (List Nat × Input)
  | '0' :: rest => some ([0], rest)
  | input => readDigits? 10 input

/-- The number of digits in a radix. -/
def digitsValue (radix : Nat) (digits : List Nat) : Nat :=
  digits.foldl (fun value digit ↦ value * radix + digit) 0

/-- Reads a sign, if there is one; the answer says whether it is a minus. -/
def readSign : Input → Bool × Input
  | '+' :: rest => (false, rest)
  | '-' :: rest => (true, rest)
  | input => (false, input)

/-- An integer of 64 bits with a sign. -/
def integer? (negative : Bool) (magnitude : Nat) : Option Json :=
  let value : Int := if negative then -magnitude else magnitude
  if Int64.minValue.toInt ≤ value ∧ value ≤ Int64.maxValue.toInt then
    some (.number (.integer value))
  else none

/-- A decimal with a power of ten. One that is too large is an error if it is positive. -/
def real? (negative : Bool) (digits : List Nat) (exponent : Int) : Option Json :=
  match Binary64.ofDecimal? negative (digitsValue 10 digits) exponent with
  | some value => some (.number (.real value))
  | none => if negative then some .unrepresentable else none

/-- Reads the digits behind a decimal point, if there is one. -/
def readFraction? : Input → Option (Option (List Nat) × Input)
  | '.' :: rest => do
      let (digits, rest) ← readDigits? 10 rest
      return (some digits, rest)
  | input => some (none, input)

/-- Reads an exponent, if there is one. -/
def readExponent? : Input → Option (Option Int × Input)
  | c :: rest =>
      if c = 'e' ∨ c = 'E' then do
        let (negative, rest) := readSign rest
        let (digits, rest) ← readDigits? 10 rest
        let value : Int := digitsValue 10 digits
        return (some (if negative then -value else value), rest)
      else some (none, c :: rest)
  | [] => some (none, [])

/-- Reads a number in decimal after its sign. -/
def readDecimal? (negative : Bool) (input : Input) : Option (Json × Input) := do
  let (whole, rest) ← readWhole? input
  let (fraction, rest) ← readFraction? rest
  let (exponent, rest) ← readExponent? rest
  match fraction, exponent with
  | none, none => return (← integer? negative (digitsValue 10 whole), rest)
  | fraction, exponent =>
      let digits := fraction.getD []
      return (← real? negative (whole ++ digits) (exponent.getD 0 - digits.length), rest)

/-- Reads an integer in another radix after its mark. -/
def readRadix? (radix : Nat) (input : Input) : Option (Json × Input) := do
  let (digits, rest) ← readDigits? radix input
  return (← integer? false (digitsValue radix digits), rest)

/-- Reads a number. -/
def readNumber? (input : Input) : Option (Json × Input) :=
  match input with
  | '0' :: 'x' :: rest => readRadix? 16 rest
  | '0' :: 'o' :: rest => readRadix? 8 rest
  | '0' :: 'b' :: rest => readRadix? 2 rest
  | input =>
      match readSign input with
      | (_, 'i' :: 'n' :: 'f' :: rest) => some (.unrepresentable, rest)
      | (_, 'n' :: 'a' :: 'n' :: rest) => some (.unrepresentable, rest)
      | (negative, rest) => readDecimal? negative rest

/-- Reads a number of two digits. -/
def readPair? : Input → Option (Nat × Input)
  | first :: second :: rest => do
      let tens ← digitValue? 10 first
      let ones ← digitValue? 10 second
      return (tens * 10 + ones, rest)
  | _ => none

/-- Reads a given character. -/
def readMark? (mark : Char) : Input → Option Input
  | c :: rest => if c = mark then some rest else none
  | [] => none

/-- Reads a date that exists. -/
def readDate? (input : Input) : Option Input := do
  let (century, rest) ← readPair? input
  let (year, rest) ← readPair? rest
  let (month, rest) ← readPair? (← readMark? '-' rest)
  let (day, rest) ← readPair? (← readMark? '-' rest)
  if (Date.mk (century * 100 + year : Nat) month day).IsValid then some rest else none

/-- Reads a time of day. -/
def readTime? (input : Input) : Option Input := do
  let (hour, rest) ← readPair? input
  let (minute, rest) ← readPair? (← readMark? ':' rest)
  let (second, rest) ← readPair? (← readMark? ':' rest)
  if (TimeOfDay.mk hour minute second 0).IsValid then
    match rest with
    | '.' :: c :: rest =>
        let isDigit (c : Char) : Bool := (digitValue? 10 c).isSome
        if isDigit c then some (rest.dropWhile isDigit) else none
    | rest => some rest
  else none

/-- Reads the distance of a local time from UTC. -/
def readOffset? : Input → Option Input
  | 'Z' :: rest => some rest
  | 'z' :: rest => some rest
  | input => do
      let rest ← (readMark? '+' input).or (readMark? '-' input)
      let (hour, rest) ← readPair? rest
      let (minute, rest) ← readPair? (← readMark? ':' rest)
      if (TimeOfDay.mk hour minute 0 0).IsValid then some rest else none

/-- Reads a date, a time of day, or both with or without a distance from UTC. -/
def readMoment? (input : Input) : Option Input :=
  match readDate? input with
  | none => readTime? input
  | some (c :: rest) =>
      if c = 'T' ∨ c = 't' ∨ c = ' ' then
        match readTime? rest with
        | some rest => some ((readOffset? rest).getD rest)
        | none => some (c :: rest)
      else some (c :: rest)
  | some [] => some []

/-- Reads a date, a time, a number or a truth value. -/
def readScalar? (input : Input) : Option (Json × Input) :=
  match input with
  | 't' :: 'r' :: 'u' :: 'e' :: rest => some (.bool true, rest)
  | 'f' :: 'a' :: 'l' :: 's' :: 'e' :: rest => some (.bool false, rest)
  | input =>
      match readMoment? input with
      | some rest =>
          let text := String.ofList (input.take (input.length - rest.length))
          some (.object [("datetime", .string text)], rest)
      | none => readNumber? input

end FlowGate.Toml
