/-!
# Finite binary64 numbers

A `Binary64` is a finite number of the IEEE 754 format binary64, kept as its sign and the 63 bits
below it. All arithmetic is exact: `ofRatio?` rounds a quotient of natural numbers to nearest, ties
to even, and refuses what is too large for a finite number.
-/

namespace FlowGate

/-- A finite binary64 number: its sign and the bits of its magnitude. -/
structure Binary64 where
  /-- Whether the sign bit is set. -/
  negative : Bool
  /-- The exponent field followed by the fraction field. -/
  magnitude : Nat
  /-- The exponent field is not the one of infinities and NaNs. -/
  finite : magnitude < 0x7ff0000000000000
  deriving DecidableEq

namespace Binary64

/-- The number of fraction bits. -/
def fractionBits : Nat := 52

/-- The significand of a magnitude as a natural number, with the implicit leading bit. -/
def significand (magnitude : Nat) : Nat :=
  if magnitude / Nat.pow 2 fractionBits = 0 then magnitude
  else Nat.pow 2 fractionBits + magnitude % Nat.pow 2 fractionBits

/-- The power of two, plus 1074, that the significand of a magnitude is multiplied by. -/
def scale (magnitude : Nat) : Nat := magnitude / Nat.pow 2 fractionBits - 1

/-- The magnitude as a quotient of natural numbers. -/
def ratio (magnitude : Nat) : Nat × Nat :=
  (significand magnitude * Nat.pow 2 (scale magnitude), Nat.pow 2 1074)

/-- Zero with the given sign. -/
def zero (negative : Bool) : Binary64 := ⟨negative, 0, by decide⟩

instance : Inhabited Binary64 := ⟨zero false⟩

/-- Divides and rounds to the nearest natural number, ties to even. -/
def divideRound (numerator denominator : Nat) : Nat :=
  let quotient := numerator / denominator
  let remainder := numerator % denominator
  if 2 * remainder < denominator then quotient
  else if 2 * remainder = denominator then quotient + quotient % 2
  else quotient + 1

/-- `binade numerator denominator` is the scale at which the quotient has a significand of full
length, or zero for a quotient below the normal numbers. -/
def binade (numerator denominator : Nat) : Nat :=
  let estimate := numerator.log2 + 1074 - denominator.log2 - fractionBits
  if numerator * Nat.pow 2 1074 < denominator * Nat.pow 2 (estimate + fractionBits) then
    estimate - 1
  else estimate

/-- The magnitude nearest to a quotient of natural numbers, ties to even. It may exceed the finite
ones. -/
def magnitudeOfRatio (numerator denominator : Nat) : Nat :=
  if numerator = 0 then 0
  else
    let scale := binade numerator denominator
    scale * Nat.pow 2 fractionBits +
      divideRound (numerator * Nat.pow 2 1074) (denominator * Nat.pow 2 scale)

/-- The number nearest to a quotient of natural numbers with the given sign, or `none` when it is
too large. -/
def ofRatio? (negative : Bool) (numerator denominator : Nat) : Option Binary64 :=
  let magnitude := magnitudeOfRatio numerator denominator
  if h : magnitude < 0x7ff0000000000000 then some ⟨negative, magnitude, h⟩ else none

/-- The number nearest to an integer of at most 1023 bits; a larger one gives zero. -/
def ofInt (value : Int) : Binary64 :=
  (ofRatio? (value < 0) value.natAbs 1).getD (zero false)

/-- The number one. -/
def one : Binary64 := ofInt 1

end Binary64

end FlowGate
