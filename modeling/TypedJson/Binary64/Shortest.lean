import TypedJson.Binary64

namespace TypedJson

/-- Where an exact half between two digits goes. -/
inductive TieRule
  | toEven
  | up
deriving DecidableEq

/-- A positive decimal numeral `digits · 10^exponent`. -/
structure Decimal where
  digits : Nat
  exponent : Int
deriving DecidableEq

namespace Decimal

/-- The count of decimal digits of a natural number, one for zero. -/
def width (value : Nat) : Nat := (Nat.toDigits 10 value).length

/-- The numeral without its trailing zeros. -/
def trim (value : Decimal) : Decimal :=
  go (width value.digits) value.digits value.exponent
where
  go : Nat → Nat → Int → Decimal
    | 0, digits, exponent => ⟨digits, exponent⟩
    | steps + 1, digits, exponent =>
      if digits ≠ 0 ∧ digits % 10 = 0 then go steps (digits / 10) (exponent + 1)
      else ⟨digits, exponent⟩

end Decimal

namespace Binary64

/-- A nonempty range of positive reals `low / scale` to `high / scale` round `middle / scale`. -/
structure Interval where
  low : Nat
  middle : Nat
  high : Nat
  scale : Nat
  closed : Bool

/--
The reals that round to a positive number. Half a grid step lies on each side, except below a
power of two, where the step is half as wide; the ends belong to it when the word is even.
-/
def rounding (value : Binary64) : Interval :=
  let step := 1 <<< (value.word / leadingBit - 1)
  let narrow := value.word % leadingBit = 0 ∧ leadingBit < value.word
  { low := 4 * value.units - (if narrow then step else 2 * step)
    middle := 4 * value.units
    high := 4 * value.units + 2 * step
    scale := 4 * one
    closed := value.word % 2 = 0 }

/-- Membership of `numerator / denominator`. -/
def Interval.contains (range : Interval) (numerator denominator : Nat) : Bool :=
  let point := numerator * range.scale
  if range.closed then range.low * denominator ≤ point ∧ point ≤ range.high * denominator
  else range.low * denominator < point ∧ point < range.high * denominator

/-- The exponent `e` with `10^e ≤ middle / scale < 10^(e+1)`. -/
def Interval.decimalExponent (range : Interval) : Int :=
  if range.scale ≤ range.middle then (Decimal.width (range.middle / range.scale) : Int) - 1
  else -(leadingZeros 400 range.middle 0 : Int)
where
  /-- How many multiplications by ten bring `middle` up to the scale. -/
  leadingZeros : Nat → Nat → Nat → Nat
    | 0, _, count => count
    | steps + 1, middle, count =>
      if range.scale ≤ middle then count else leadingZeros steps (middle * 10) (count + 1)

/-- The best numeral on the grid of `10^exponent` inside the range, if there is one. -/
def Interval.onGrid (range : Interval) (tie : TieRule) (exponent : Int) : Option Decimal :=
  let up := Nat.pow 10 exponent.toNat
  let down := Nat.pow 10 (-exponent).toNat
  let below := range.middle * down / (range.scale * up)
  let remainder := range.middle * down % (range.scale * up)
  let above := below + 1
  let lowFits := range.contains (below * up) down && below ≠ 0
  let highFits := range.contains (above * up) down
  let half := range.scale * up
  if lowFits && highFits then
    let upward : Bool :=
      if 2 * remainder = half then
        match tie with
        | .toEven => below % 2 = 1
        | .up => true
      else half < 2 * remainder
    some ⟨if upward then above else below, exponent⟩
  else if lowFits then some ⟨below, exponent⟩
  else if highFits then some ⟨above, exponent⟩
  else none

/--
The shortest numeral that reads back as the number, and of these the nearest: the first of the
grids with 1, 2, … 17 digits that meets the rounding range.
-/
def shortest (value : Binary64) (tie : TieRule) : Decimal :=
  if value.isZero then ⟨0, 0⟩
  else
    let range := value.rounding
    let top := range.decimalExponent
    let grids := (List.range 17).map fun index : Nat => top - (index : Int)
    ((grids.findSome? (range.onGrid tie)).getD ⟨value.units, 0⟩).trim

end Binary64

end TypedJson
