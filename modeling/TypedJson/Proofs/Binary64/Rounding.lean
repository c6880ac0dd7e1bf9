import Mathlib.Algebra.Order.Field.Power
import Mathlib.Tactic.Linarith
import Mathlib.Tactic.NormNum
import Mathlib.Tactic.Positivity
import Mathlib.Tactic.Ring
import TypedJson.Binary64.Shortest

namespace TypedJson.Binary64

/-- The absolute value of the number with a word, counted in units. -/
def unitsAt (word : Nat) : Nat :=
  if word < leadingBit then word
  else (leadingBit + word % leadingBit) <<< (word / leadingBit - 1)

/-- How many units lie between the number with a word and the next one. -/
def stepAt (word : Nat) : Nat := 1 <<< (word / leadingBit - 1)

/-- Four times the units at the lower end of the range that rounds to a word. -/
def lowAt (word : Nat) : Nat :=
  4 * unitsAt word -
    if word % leadingBit = 0 ∧ leadingBit < word then stepAt word else 2 * stepAt word

/-- Four times the units at the upper end. -/
def highAt (word : Nat) : Nat := 4 * unitsAt word + 2 * stepAt word

/-- The units of a number are those of its word. -/
theorem units_eq (value : Binary64) : value.units = unitsAt value.word := rfl

theorem rounding_low (value : Binary64) : value.rounding.low = lowAt value.word := rfl

theorem rounding_middle (value : Binary64) : value.rounding.middle = 4 * unitsAt value.word := rfl

theorem rounding_high (value : Binary64) : value.rounding.high = highAt value.word := rfl

theorem rounding_scale (value : Binary64) : value.rounding.scale = 4 * one := rfl

/-- A word is one of the least ones, or has a power of two and a place between it and the next. -/
theorem word_cases (word : Nat) :
    word < leadingBit ∨
      ∃ power place, place < leadingBit ∧ word = leadingBit * (power + 1) + place := by
  rcases Nat.lt_or_ge word leadingBit with small | large
  · exact .inl small
  · refine .inr ⟨word / leadingBit - 1, word % leadingBit, Nat.mod_lt _ (by decide), ?_⟩
    have positive : 1 ≤ word / leadingBit := (Nat.one_le_div_iff (by decide)).mpr large
    rw [Nat.sub_add_cancel positive, Nat.div_add_mod]

/-- A word without a leading bit counts its units. -/
theorem unitsAt_small {word : Nat} (small : word < leadingBit) : unitsAt word = word :=
  if_pos small

/-- Such words are one unit apart. -/
theorem stepAt_small {word : Nat} (small : word < leadingBit) : stepAt word = 1 := by
  rw [stepAt, Nat.div_eq_of_lt small]
  rfl

/-- The power of a normal word is its quotient. -/
theorem div_normal {power place : Nat} (inRange : place < leadingBit) :
    (leadingBit * (power + 1) + place) / leadingBit = power + 1 := by
  rw [Nat.mul_add_div (by decide), Nat.div_eq_of_lt inRange, Nat.add_zero]

/-- The place of a normal word in its range is its rest. -/
theorem mod_normal {power place : Nat} (inRange : place < leadingBit) :
    (leadingBit * (power + 1) + place) % leadingBit = place := by
  rw [Nat.mul_add_mod, Nat.mod_eq_of_lt inRange]

/-- A normal word stands for its significand times its power. -/
theorem unitsAt_normal {power place : Nat} (inRange : place < leadingBit) :
    unitsAt (leadingBit * (power + 1) + place) = (leadingBit + place) * 2 ^ power := by
  have large : ¬leadingBit * (power + 1) + place < leadingBit := by
    rw [Nat.mul_succ]
    omega
  rw [unitsAt, if_neg large, div_normal inRange, mod_normal inRange, Nat.shiftLeft_eq,
    Nat.add_sub_cancel]

/-- Normal words are their power apart. -/
theorem stepAt_normal {power place : Nat} (inRange : place < leadingBit) :
    stepAt (leadingBit * (power + 1) + place) = 2 ^ power := by
  rw [stepAt, div_normal inRange, Nat.add_sub_cancel, Nat.one_shiftLeft]

/-- Words are apart. -/
theorem stepAt_pos (word : Nat) : 0 < stepAt word := by
  rw [stepAt, Nat.one_shiftLeft]
  positivity

/-- The range of a word starts where the range of the word before ends. -/
theorem lowAt_succ (word : Nat) : lowAt (word + 1) = highAt word := by
  have bit : leadingBit = 4503599627370496 := rfl
  obtain small | ⟨power, place, inRange, rfl⟩ := word_cases word
  · rw [highAt, unitsAt_small small, stepAt_small small]
    by_cases last : word + 1 = leadingBit
    · -- the first number of full precision has the step of the numbers below it
      have asNormal : word + 1 = leadingBit * (0 + 1) + 0 := by omega
      rw [lowAt, if_neg (by omega), asNormal, unitsAt_normal (by decide), stepAt_normal (by decide)]
      omega
    · have small : word + 1 < leadingBit := by omega
      rw [lowAt, if_neg (by omega), unitsAt_small small, stepAt_small small]
      omega
  · rw [highAt, unitsAt_normal inRange, stepAt_normal inRange]
    by_cases last : place + 1 = leadingBit
    · -- the step doubles, and below the power of two the range is half as wide
      have asNormal : leadingBit * (power + 1) + place + 1 =
          leadingBit * (power + 1 + 1) + 0 := by
        rw [Nat.mul_succ leadingBit (power + 1)]
        omega
      have narrow : (leadingBit * (power + 1 + 1) + 0) % leadingBit = 0 ∧
          leadingBit < leadingBit * (power + 1 + 1) + 0 := by
        rw [mod_normal (by decide), bit]
        omega
      rw [asNormal, lowAt, if_pos narrow, unitsAt_normal (by decide), stepAt_normal (by decide),
        Nat.pow_succ]
      obtain rfl : place = leadingBit - 1 := by omega
      rw [bit]
      omega
    · have inside : place + 1 < leadingBit := by omega
      have wide : ¬((leadingBit * (power + 1) + (place + 1)) % leadingBit = 0 ∧
          leadingBit < leadingBit * (power + 1) + (place + 1)) := by
        rw [mod_normal inside]
        omega
      have moved : (leadingBit + (place + 1)) * 2 ^ power =
          (leadingBit + place) * 2 ^ power + 2 ^ power := by ring
      rw [Nat.add_assoc, lowAt, if_neg wide, unitsAt_normal inside, stepAt_normal inside, moved]
      omega

/-- The range of a word has an inside. -/
theorem lowAt_lt_highAt (word : Nat) : lowAt word < highAt word := by
  have positive := stepAt_pos word
  unfold lowAt highAt
  split <;> omega

/-- Ranges are wide: more than sixteen digits are never needed to find a place in one. -/
theorem unitsAt_lt_width (word : Nat) :
    4 * unitsAt word < (highAt word - lowAt word) * 10 ^ 16 := by
  have bit : leadingBit = 4503599627370496 := rfl
  obtain small | ⟨power, place, inRange, rfl⟩ := word_cases word
  · rw [highAt, lowAt, if_neg (by omega), unitsAt_small small, stepAt_small small]
    omega
  · rw [highAt, lowAt, unitsAt_normal inRange, stepAt_normal inRange, mod_normal inRange]
    have positive : 0 < 2 ^ power := by positivity
    generalize 2 ^ power = step at positive ⊢
    split
    · rename_i narrow
      rw [narrow.1, Nat.add_zero, bit]
      omega
    · have units : (leadingBit + place) * step < 9007199254740992 * step :=
        Nat.mul_lt_mul_of_pos_right (by omega) positive
      omega

/-- The ends of the ranges are ordered as the words are. -/
theorem highAt_strictMono : StrictMono highAt := by
  apply strictMono_nat_of_lt_succ
  intro word
  rw [← lowAt_succ word]
  exact lowAt_lt_highAt (word + 1)

/-- Membership of a rational number in a range. -/
def Interval.Holds (range : Interval) (point : ℚ) : Prop :=
  if range.closed then range.low ≤ point * range.scale ∧ point * range.scale ≤ range.high
  else range.low < point * range.scale ∧ point * range.scale < range.high

namespace Interval

variable {range : Interval} {point : ℚ}

/-- A point of a range is not below it. -/
theorem Holds.low_le (holds : range.Holds point) : range.low ≤ point * range.scale := by
  unfold Holds at holds
  split at holds
  · exact holds.1
  · exact holds.1.le

/-- A point of a range is not above it. -/
theorem Holds.le_high (holds : range.Holds point) : point * range.scale ≤ range.high := by
  unfold Holds at holds
  split at holds
  · exact holds.2
  · exact holds.2.le

/-- An end that belongs to the range is the end of a closed range. -/
theorem Holds.closed_of_high (holds : range.Holds point)
    (isEnd : point * range.scale = range.high) : range.closed = true := by
  by_contra opened
  rw [Holds, if_neg opened] at holds
  exact absurd isEnd holds.2.ne

/-- Only a closed range has its own end. -/
theorem Holds.closed_of_low (holds : range.Holds point)
    (isEnd : point * range.scale = range.low) : range.closed = true := by
  by_contra opened
  rw [Holds, if_neg opened] at holds
  exact absurd isEnd.symm holds.1.ne

/-- The test for a ratio says whether the range has it. -/
theorem contains_iff (range : Interval) (numerator : Nat) {denominator : Nat}
    (positive : 0 < denominator) :
    range.contains numerator denominator = true ↔ range.Holds (numerator / denominator) := by
  have divisor : (0 : ℚ) < denominator := by exact_mod_cast positive
  have below : (range.low : ℚ) ≤ numerator / denominator * range.scale ↔
      range.low * denominator ≤ numerator * range.scale := by
    rw [div_mul_eq_mul_div, le_div_iff₀ divisor]
    exact_mod_cast Iff.rfl
  have above : numerator / denominator * range.scale ≤ (range.high : ℚ) ↔
      numerator * range.scale ≤ range.high * denominator := by
    rw [div_mul_eq_mul_div, div_le_iff₀ divisor]
    exact_mod_cast Iff.rfl
  have strictlyBelow : (range.low : ℚ) < numerator / denominator * range.scale ↔
      range.low * denominator < numerator * range.scale := by
    rw [div_mul_eq_mul_div, lt_div_iff₀ divisor]
    exact_mod_cast Iff.rfl
  have strictlyAbove : numerator / denominator * range.scale < (range.high : ℚ) ↔
      numerator * range.scale < range.high * denominator := by
    rw [div_mul_eq_mul_div, div_lt_iff₀ divisor]
    exact_mod_cast Iff.rfl
  unfold contains Holds
  dsimp only
  split
  · rw [decide_eq_true_iff, below, above]
  · rw [decide_eq_true_iff, strictlyBelow, strictlyAbove]

end Interval

/-- The range of an even word is closed. -/
theorem closed_iff (value : Binary64) :
    value.rounding.closed = true ↔ value.word % 2 = 0 := decide_eq_true_iff

/-- Reals that are ordered lie in the ranges of numbers that are ordered. -/
theorem word_le_of_holds {left right : Binary64} {below above : ℚ}
    (inLeft : left.rounding.Holds below) (inRight : right.rounding.Holds above)
    (ordered : below ≤ above) : left.word ≤ right.word := by
  by_contra greater
  obtain ⟨word, isWord⟩ : ∃ word, left.word = word + 1 := ⟨left.word - 1, by omega⟩
  have belowHigh := inRight.le_high
  have aboveLow := inLeft.low_le
  rw [rounding_high, rounding_scale] at belowHigh
  rw [rounding_low, rounding_scale, isWord, lowAt_succ] at aboveLow
  have scaled : below * ((4 * one : Nat) : ℚ) ≤ above * ((4 * one : Nat) : ℚ) :=
    mul_le_mul_of_nonneg_right ordered (Nat.cast_nonneg _)
  have words : highAt right.word ≤ highAt word := highAt_strictMono.monotone (by omega)
  -- the ranges can only share the point between neighbours, which is in one of them
  have meet : highAt right.word = highAt word := by
    have reached : (highAt word : ℚ) ≤ highAt right.word := (aboveLow.trans scaled).trans belowHigh
    exact le_antisymm words (by exact_mod_cast reached)
  rw [meet] at belowHigh
  have atHigh := le_antisymm belowHigh (aboveLow.trans scaled)
  have atLow := le_antisymm (scaled.trans belowHigh) aboveLow
  have neighbours : right.word = word := highAt_strictMono.injective meet
  have rightEven := (closed_iff right).mp (inRight.closed_of_high (by
    rw [rounding_high, rounding_scale, meet, atHigh]))
  have leftEven := (closed_iff left).mp (inLeft.closed_of_low (by
    rw [rounding_low, rounding_scale, isWord, lowAt_succ, atLow]))
  omega

/-- Two numbers whose ranges have a point in common have the same word. -/
theorem word_eq_of_holds {left right : Binary64} {point : ℚ}
    (inLeft : left.rounding.Holds point) (inRight : right.rounding.Holds point) :
    left.word = right.word :=
  le_antisymm (word_le_of_holds inLeft inRight le_rfl) (word_le_of_holds inRight inLeft le_rfl)

end TypedJson.Binary64
