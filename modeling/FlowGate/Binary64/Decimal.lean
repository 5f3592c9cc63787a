import FlowGate.Binary64.Basic

/-!
# Binary64 numbers in decimal

`ofScaled?` reads a decimal significand with a power of ten. `shortest` finds the fewest decimal
digits that read back as a number, and of those the nearest ones; `text` writes them with a decimal
point from 10⁻⁵ up to 10¹⁶ and with an exponent elsewhere.
-/

namespace FlowGate.Binary64

/-- The greatest power of ten that is a finite number. -/
def greatestPower : Nat := 308

/-- The magnitude nearest to a power of ten. -/
def powerOfTen (exponent : Nat) : Nat := magnitudeOfRatio (Nat.pow 10 exponent) 1

/-- The rounded product of two magnitudes. -/
def multiply (left right : Nat) : Nat :=
  magnitudeOfRatio ((ratio left).1 * (ratio right).1) ((ratio left).2 * (ratio right).2)

/-- The rounded quotient of two magnitudes. -/
def divide (left right : Nat) : Nat :=
  magnitudeOfRatio ((ratio left).1 * (ratio right).2) ((ratio left).2 * (ratio right).1)

/-- Divides a magnitude by a power of ten, in steps of the greatest finite power. -/
def scaleDown (magnitude exponent : Nat) : Nat :=
  if exponent ≤ greatestPower then divide magnitude (powerOfTen exponent)
  else if magnitude = 0 then 0
  else scaleDown (divide magnitude (powerOfTen greatestPower)) (exponent - greatestPower)
termination_by exponent
decreasing_by simp only [greatestPower] at *; omega

/-- Multiplies a magnitude by a power of ten. -/
def scaleUp (magnitude exponent : Nat) : Nat :=
  if magnitude = 0 then 0
  else if exponent ≤ greatestPower then multiply magnitude (powerOfTen exponent)
  else 0x7ff0000000000000

/-- Reads a significand times a power of ten: the significand is rounded first, then its product
with or quotient by the rounded power of ten. A number that is too large gives `none`. -/
def ofScaled? (negative : Bool) (significand : Nat) (exponent : Int) : Option Binary64 :=
  let rounded := magnitudeOfRatio significand 1
  let magnitude :=
    if 0 ≤ exponent then scaleUp rounded exponent.toNat else scaleDown rounded exponent.natAbs
  if h : magnitude < 0x7ff0000000000000 then some ⟨negative, magnitude, h⟩ else none

/-- A quotient times a power of ten. -/
def timesPower (numerator denominator : Nat) (exponent : Int) : Nat × Nat :=
  if 0 ≤ exponent then (numerator * Nat.pow 10 exponent.toNat, denominator)
  else (numerator, denominator * Nat.pow 10 exponent.natAbs)

/-- The number nearest to a significand times a power of ten, ties to even, or `none` when it is too
large. A significand far outside the range of binary64 is not multiplied out. -/
def ofDecimal? (negative : Bool) (significand : Nat) (exponent : Int) : Option Binary64 :=
  let leading := exponent + (toString significand).length
  if significand = 0 ∨ leading < -400 then some (zero negative)
  else if 400 < leading then none
  else
    let (numerator, denominator) := timesPower significand 1 exponent
    ofRatio? negative numerator denominator

/-- The exponent of the greatest power of ten that is not above a positive quotient. -/
def decimalExponent (numerator denominator : Nat) : Int :=
  let estimate : Int := ((numerator.log2 : Int) - denominator.log2) * 30103 / 100000
  let reaches (exponent : Int) : Bool :=
    let (high, low) := timesPower numerator denominator (-exponent)
    low ≤ high
  if reaches (estimate + 1) then estimate + 1
  else if reaches estimate then estimate
  else estimate - 1

/-- `readsBack magnitude digits exponent` says the decimal rounds to the magnitude: it lies between
the midpoints to the neighbouring numbers, and may be a midpoint if the magnitude is even. -/
def readsBack (magnitude digits : Nat) (exponent : Int) : Bool :=
  let own := (ratio magnitude).1
  let low := (ratio (magnitude - 1)).1 + own
  let high := own + (ratio (magnitude + 1)).1
  let (numerator, denominator) := timesPower digits 1 exponent
  let value := numerator * Nat.pow 2 1075
  if magnitude % 2 = 0 then low * denominator ≤ value && value ≤ high * denominator
  else low * denominator < value && value < high * denominator

/-- The decimal with the given last place that is nearest to a magnitude among those that read
back. -/
def nearestAt? (magnitude : Nat) (exponent : Int) : Option Nat :=
  let (numerator, denominator) :=
    timesPower (ratio magnitude).1 (ratio magnitude).2 (-exponent)
  let below := numerator / denominator
  let above := below + 1
  let twice := 2 * (numerator % denominator)
  if readsBack magnitude below exponent then
    if readsBack magnitude above exponent &&
        (denominator < twice || (denominator = twice && below % 2 = 1)) then some above
    else some below
  else if readsBack magnitude above exponent then some above
  else none

/-- Removes zeros at the end of a digit string and raises the exponent to match. -/
def dropZeros : Nat → Nat → Int → Nat × Int
  | 0, digits, exponent => (digits, exponent)
  | fuel + 1, digits, exponent =>
      if digits % 10 = 0 && digits != 0 then dropZeros fuel (digits / 10) (exponent + 1)
      else (digits, exponent)

/-- The fewest digits that read back as a positive magnitude, nearest first, with the power of ten
they are multiplied by. -/
def shortest (magnitude : Nat) : Nat × Int :=
  let top := decimalExponent (ratio magnitude).1 (ratio magnitude).2
  let found := (List.range 17).findSome? fun (places : Nat) ↦
    let exponent := top - places
    (nearestAt? magnitude exponent).map fun digits ↦ (digits, exponent)
  let (digits, exponent) := found.getD (0, 0)
  dropZeros 20 digits exponent

/-- A run of zeros. -/
def zeros (count : Nat) : String := String.ofList (List.replicate count '0')

/-- Writes digits times a power of ten, with a decimal point when the first digit stands between
the fifth place after the point and the sixteenth before it. -/
def positional (digits : Nat) (exponent : Int) : String :=
  let text := toString digits
  let leading := exponent + text.length - 1
  if -5 ≤ leading && leading < 16 then
    if 0 ≤ exponent then text ++ zeros exponent.toNat ++ ".0"
    else if 0 ≤ leading then
      let before := (leading + 1).toNat
      String.ofList (text.toList.take before) ++ "." ++ String.ofList (text.toList.drop before)
    else "0." ++ zeros (-leading - 1).toNat ++ text
  else
    let mantissa :=
      if text.length = 1 then text
      else String.ofList (text.toList.take 1) ++ "." ++ String.ofList (text.toList.drop 1)
    mantissa ++ (if 0 ≤ leading then "e+" else "e") ++ toString leading

/-- The shortest decimal text of a number; zero keeps its sign. -/
def text (number : Binary64) : String :=
  let unsigned :=
    if number.magnitude = 0 then "0.0"
    else
      let (digits, exponent) := shortest number.magnitude
      positional digits exponent
  if number.negative then "-" ++ unsigned else unsigned

end FlowGate.Binary64
