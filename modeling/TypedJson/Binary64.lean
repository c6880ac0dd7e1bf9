/-
This file holds the finite binary64 numbers with exact arithmetic on their values.
Every value is a whole number of units of 2^-1074, so order, rounding and integrality are
statements on natural numbers.
-/

namespace TypedJson

/-- A finite binary64 number: a sign, and the bit pattern below the sign. -/
structure Binary64 where
  negative : Bool
  word : Nat
  inRange : word < 0x7FF0000000000000
deriving DecidableEq

namespace Binary64

instance : Inhabited Binary64 := ⟨⟨false, 0, by decide⟩⟩

/-- The least significand of a number of full precision, 2^52. -/
def leadingBit : Nat := 0x10000000000000

/-- The absolute value, counted in units of 2^-1074. -/
def units (value : Binary64) : Nat :=
  if value.word < leadingBit then value.word
  else (leadingBit + value.word % leadingBit) <<< (value.word / leadingBit - 1)

/-- The value with its sign, counted in units of 2^-1074; both zeros count zero. -/
def signedUnits (value : Binary64) : Int :=
  if value.negative then -(value.units : Int) else value.units

instance : LE Binary64 := ⟨fun left right => left.signedUnits ≤ right.signedUnits⟩
instance : LT Binary64 := ⟨fun left right => left.signedUnits < right.signedUnits⟩

instance (left right : Binary64) : Decidable (left ≤ right) :=
  inferInstanceAs (Decidable (left.signedUnits ≤ right.signedUnits))

instance (left right : Binary64) : Decidable (left < right) :=
  inferInstanceAs (Decidable (left.signedUnits < right.signedUnits))

/-- Equality of values, so the two zeros agree. -/
def sameValue (left right : Binary64) : Bool := left.signedUnits == right.signedUnits

/-- How many units make one. -/
def one : Nat := 1 <<< 1074

/-- Whether the value is an integer. -/
def isWhole (value : Binary64) : Bool := value.units % one == 0

def isZero (value : Binary64) : Bool := value.word == 0

/-- The whole part of the absolute value. -/
def wholePart (value : Binary64) : Nat := value.units / one

/-- The number with the other sign. -/
def negate (value : Binary64) : Binary64 := { value with negative := !value.negative }

/-- The quotient rounded to the nearest natural number, a half to the even one. -/
def roundHalfEven (numerator denominator : Nat) : Nat :=
  let quotient := numerator / denominator
  let remainder := numerator % denominator
  if denominator < 2 * remainder then quotient + 1
  else if 2 * remainder = denominator then quotient + quotient % 2
  else quotient

/--
The word nearest to `numerator / denominator` units. Above 2^53 units the grid is coarser by
one power of two for each further binary digit, and words count grid points.
-/
def nearestWord (numerator denominator : Nat) : Nat :=
  let shift := (numerator / denominator).log2 - 52
  shift * leadingBit + roundHalfEven numerator (denominator <<< shift)

/-- The number nearest to a ratio of units, absent past the finite range. -/
def ofRatio? (negative : Bool) (numerator denominator : Nat) : Option Binary64 :=
  let word := nearestWord numerator denominator
  if inRange : word < 0x7FF0000000000000 then some ⟨negative, word, inRange⟩ else none

/-- The number nearest to a natural number; past the finite range, the greatest number. -/
def ofNat (value : Nat) : Binary64 :=
  (ofRatio? false (value <<< 1074) 1).getD ⟨false, 0x7FEFFFFFFFFFFFFF, by decide⟩

/-- The number nearest to an integer. -/
def ofInt (value : Int) : Binary64 :=
  if value < 0 then (ofNat value.natAbs).negate else ofNat value.natAbs

/-- The rounded product, absent past the finite range. -/
def mul? (left right : Binary64) : Option Binary64 :=
  ofRatio? (left.negative != right.negative) (left.units * right.units) one

/-- The rounded quotient, absent past the finite range or for a zero divisor. -/
def div? (left right : Binary64) : Option Binary64 :=
  if right.isZero then none
  else ofRatio? (left.negative != right.negative) (left.units <<< 1074) right.units

/-- The number nearest to a power of ten. -/
def powerOfTen (exponent : Nat) : Binary64 := ofNat (Nat.pow 10 exponent)

/--
The value read for `significand · 10^exponent`: the significand is rounded first, then its
product or quotient with the rounded power of ten. Below 10^-308 the quotient is taken in two
steps, and past the second step nothing is left.
-/
def ofScaled? (significand : Nat) (exponent : Int) : Option Binary64 :=
  let start := ofNat significand
  if start.isZero then some start
  else if 0 ≤ exponent then
    if exponent ≤ 308 then start.mul? (powerOfTen exponent.toNat) else none
  else if -308 ≤ exponent then start.div? (powerOfTen exponent.natAbs)
  else if -616 ≤ exponent then
    (start.div? (powerOfTen 308)).bind (·.div? (powerOfTen (exponent.natAbs - 308)))
  else some default

/-- Numbers are ordered as their units are. -/
theorem le_iff (left right : Binary64) : left ≤ right ↔ left.signedUnits ≤ right.signedUnits :=
  Iff.rfl

theorem lt_iff (left right : Binary64) : left < right ↔ left.signedUnits < right.signedUnits :=
  Iff.rfl

end Binary64

end TypedJson
