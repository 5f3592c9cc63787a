import FlowGate.Calendar.Instant
import FlowGate.Text.Basic

/-!
# Timestamps

The text of an instant in the manner of RFC 3339. `Instant.text` writes it in UTC with as many
groups of three fraction digits as the nanosecond needs. `Instant.read?` reads it with any offset,
and also with blanks between its parts, with a blank in place of the `T`, and with a year of more
than four digits behind a sign.
-/

namespace FlowGate.Instant

/-- The last digits of a number, padded with zeros to the given width. -/
def paddedDigits : Nat → Nat → List Char
  | 0, _ => []
  | width + 1, value => paddedDigits width (value / 10) ++ [Char.ofNat ('0'.toNat + value % 10)]

/-- The digits of a number, at least four. -/
def yearDigits (value : Nat) : List Char :=
  if value < 10000 then paddedDigits 4 value else (toString value).toList

/-- The text of a year, with a sign when it has not four digits. -/
def yearText (year : Int) : List Char :=
  if 0 ≤ year ∧ year < 10000 then paddedDigits 4 year.toNat
  else (if year < 0 then '-' else '+') :: yearDigits year.natAbs

/-- The fraction of a second with the fewest groups of three digits that lose nothing. -/
def fractionText (nanosecond : Nat) : List Char :=
  if nanosecond = 0 then []
  else if nanosecond % 1000000 = 0 then '.' :: paddedDigits 3 (nanosecond / 1000000)
  else if nanosecond % 1000 = 0 then '.' :: paddedDigits 6 (nanosecond / 1000)
  else '.' :: paddedDigits 9 nanosecond

/-- The characters of an instant's text. -/
def characters (instant : Instant) : List Char :=
  yearText instant.date.year ++ '-' :: paddedDigits 2 instant.date.month ++
    '-' :: paddedDigits 2 instant.date.day ++ 'T' :: paddedDigits 2 instant.time.hour ++
    ':' :: paddedDigits 2 instant.time.minute ++ ':' :: paddedDigits 2 instant.time.second ++
    fractionText instant.time.nanosecond ++ ['Z']

/-- The text of an instant in UTC. -/
def text (instant : Instant) : String := String.ofList instant.characters

/-- The value of a decimal digit. -/
def digitValue? (c : Char) : Option Nat :=
  if '0' ≤ c ∧ c ≤ '9' then some (c.toNat - '0'.toNat) else none

/-- `readDigits limit value input` reads at most `limit` digits onto the number `value` and counts
them. -/
def readDigits : Nat → Nat → List Char → Nat × Nat × List Char
  | 0, value, input => (value, 0, input)
  | _, value, [] => (value, 0, [])
  | limit + 1, value, c :: rest =>
      match digitValue? c with
      | some digit =>
          let (result, count, rest) := readDigits limit (value * 10 + digit) rest
          (result, count + 1, rest)
      | none => (value, 0, c :: rest)

/-- Reads a number of at least one and at most `limit` digits. -/
def readNumber? (limit : Nat) (input : List Char) : Option (Nat × List Char) :=
  match readDigits limit 0 input with
  | (_, 0, _) => none
  | (value, _, rest) => some (value, rest)

/-- Drops blanks. -/
def skipBlanks (input : List Char) : List Char := input.dropWhile Text.isBlank

/-- Reads a year: at most four digits, or any number of digits after a sign. -/
def readYear? (input : List Char) : Option (Int × List Char) :=
  match skipBlanks input with
  | '-' :: rest => (readNumber? rest.length rest).map fun (value, rest) ↦ (-value, rest)
  | '+' :: rest => (readNumber? rest.length rest).map fun (value, rest) ↦ (value, rest)
  | rest => (readNumber? 4 rest).map fun (value, rest) ↦ (value, rest)

/-- Reads a separator and then a number of at most two digits, with blanks before each. -/
def readPart? (separator : Char) (input : List Char) : Option (Nat × List Char) :=
  match skipBlanks input with
  | c :: rest => if c = separator then readNumber? 2 (skipBlanks rest) else none
  | [] => none

/-- Reads the fraction of a second, if there is one; digits after the ninth are dropped. -/
def readFraction? : List Char → Option (Nat × List Char)
  | '.' :: rest =>
      match readDigits 9 0 rest with
      | (_, 0, _) => none
      | (value, count, rest) =>
          some (value * Nat.pow 10 (9 - count), rest.dropWhile fun c ↦ (digitValue? c).isSome)
  | input => some (0, input)

/-- Reads the sign of an offset; the answer says whether it is a minus. -/
def readSign? : List Char → Option (Bool × List Char)
  | '+' :: rest => some (false, rest)
  | '-' :: rest => some (true, rest)
  | '\u2212' :: rest => some (true, rest)
  | _ => none

/-- Reads the minutes by which a local time is ahead of UTC: `Z`, the word `UTC`, or hours and
minutes after a sign. -/
def readOffset? (input : List Char) : Option (Int × List Char) :=
  match input with
  | 'Z' :: rest => some (0, rest)
  | 'z' :: rest => some (0, rest)
  | input =>
      if (input.take 3).map Char.toUpper = ['U', 'T', 'C'] then some (0, input.drop 3)
      else do
        let (negative, rest) ← readSign? input
        let (hours, minutes) ← match rest with
          | first :: second :: rest => do
              let hours := (← digitValue? first) * 10 + (← digitValue? second)
              some (hours, rest.dropWhile fun c ↦ c = ':' || Text.isBlank c)
          | _ => none
        match minutes with
        | first :: second :: rest => do
            let tens ← digitValue? first
            let ones ← digitValue? second
            if 5 < tens ∨ 23 < hours then none
            let minutes : Int := hours * 60 + (tens * 10 + ones : Nat)
            return (if negative then -minutes else minutes, rest)
        | _ => none

/-- Reads the characters of a timestamp. -/
def readCharacters? (input : List Char) : Option Instant := do
  let (year, rest) ← readYear? input
  let (month, rest) ← readPart? '-' rest
  let (day, rest) ← readPart? '-' rest
  let rest ← match rest with
    | 'T' :: rest | 't' :: rest | ' ' :: rest => some rest
    | _ => none
  let (hour, rest) ← readNumber? 2 (skipBlanks rest)
  let (minute, rest) ← readPart? ':' rest
  let (second, rest) ← readPart? ':' rest
  let (nanosecond, rest) ← readFraction? rest
  let (offset, rest) ← readOffset? (skipBlanks rest)
  if skipBlanks rest ≠ [] then none
  ofLocal? ⟨year, month, day⟩ ⟨hour, minute, second, nanosecond⟩ offset

/-- Reads a timestamp. -/
def read? (text : String) : Option Instant := readCharacters? text.toList

end FlowGate.Instant
