import TypedJson.Json.Number
import TypedJson.Proofs.Binary64.Rounding

namespace TypedJson

namespace Binary64

/-- The value of a number. -/
def toRat (value : Binary64) : ℚ := value.signedUnits / one

/-- The two natural numbers next to a quotient, and how far from it the chosen one is. -/
theorem roundHalfEven_cases (numerator denominator : Nat) :
    (roundHalfEven numerator denominator = numerator / denominator ∧
        2 * (numerator % denominator) ≤ denominator ∧
        (2 * (numerator % denominator) = denominator → numerator / denominator % 2 = 0)) ∨
      (roundHalfEven numerator denominator = numerator / denominator + 1 ∧
        denominator ≤ 2 * (numerator % denominator) ∧
        (2 * (numerator % denominator) = denominator → numerator / denominator % 2 = 1)) := by
  unfold roundHalfEven
  dsimp only
  split
  · exact .inr ⟨rfl, by omega, by omega⟩
  · split
    · rcases Nat.mod_two_eq_zero_or_one (numerator / denominator) with even | odd
      · exact .inl ⟨by omega, by omega, fun _ => even⟩
      · exact .inr ⟨by omega, by omega, fun _ => odd⟩
    · exact .inl ⟨rfl, by omega, by omega⟩

/-- The chosen number is at most a half away, and even if it is a half away. -/
theorem roundHalfEven_near (numerator : Nat) {denominator : Nat} (positive : 0 < denominator) :
    let point := roundHalfEven numerator denominator * denominator
    2 * point ≤ 2 * numerator + denominator ∧ 2 * numerator ≤ 2 * point + denominator ∧
      (2 * point = 2 * numerator + denominator ∨ 2 * numerator = 2 * point + denominator →
        roundHalfEven numerator denominator % 2 = 0) := by
  have split := Nat.div_add_mod numerator denominator
  have less : numerator % denominator < denominator := Nat.mod_lt numerator positive
  rw [Nat.mul_comm] at split
  rcases roundHalfEven_cases numerator denominator with ⟨down, near, tie⟩ | ⟨up, near, tie⟩
  · rw [down]
    exact ⟨by omega, by omega, by omega⟩
  · have product : (numerator / denominator + 1) * denominator =
        numerator / denominator * denominator + denominator := Nat.succ_mul _ _
    rw [up, product]
    exact ⟨by omega, by omega, by omega⟩

/-- Which power of two the grid of a quotient has, and where on the grid the quotient lies. -/
theorem quotient_place (numerator denominator : Nat) :
    let shift := (numerator / denominator).log2 - 52
    numerator / (denominator * 2 ^ shift) < 2 * leadingBit ∧
      (leadingBit ≤ numerator / (denominator * 2 ^ shift) ∨ shift = 0) := by
  intro shift
  rw [← Nat.div_div_eq_div_mul]
  have isShift : shift = (numerator / denominator).log2 - 52 := rfl
  clear_value shift
  generalize numerator / denominator = quotient at isShift
  have twice : 2 * leadingBit = 2 ^ 53 := rfl
  have below : quotient < 2 ^ (quotient.log2 + 1) := Nat.lt_log2_self
  rw [Nat.div_lt_iff_lt_mul (by positivity), twice, ← Nat.pow_add]
  refine ⟨below.trans_le (Nat.pow_le_pow_right (by decide) (by omega)), ?_⟩
  by_cases fine : shift = 0
  · exact .inr fine
  · have notZero : quotient ≠ 0 := by
      rintro rfl
      rw [Nat.log2_zero] at isShift
      omega
    have bit : leadingBit = 2 ^ 52 := rfl
    refine .inl ((Nat.le_div_iff_mul_le (by positivity)).mpr ?_)
    rw [bit, ← Nat.pow_add, show 52 + shift = quotient.log2 by omega]
    exact Nat.log2_self_le notZero

/-- Words count the places of grids that get coarser by a power of two each. -/
theorem unitsAt_place {shift place : Nat} (inRange : place ≤ 2 * leadingBit)
    (full : leadingBit ≤ place ∨ shift = 0) :
    unitsAt (shift * leadingBit + place) = place * 2 ^ shift := by
  rcases Nat.lt_or_ge place leadingBit with small | large
  · obtain rfl : shift = 0 := by omega
    rw [Nat.zero_mul, Nat.zero_add, unitsAt_small small, Nat.pow_zero, Nat.mul_one]
  · by_cases last : place = 2 * leadingBit
    · have asNormal : shift * leadingBit + place = leadingBit * (shift + 1 + 1) + 0 := by
        rw [last, Nat.mul_comm]
        ring
      rw [asNormal, unitsAt_normal (by decide), last, Nat.pow_succ]
      ring
    · have asNormal : shift * leadingBit + place =
          leadingBit * (shift + 1) + (place - leadingBit) := by
        rw [Nat.mul_comm, Nat.mul_succ]
        omega
      rw [asNormal, unitsAt_normal (by omega), Nat.add_sub_cancel' large]

/-- In its range, each number is one step of a power of two away from the next. -/
theorem stepAt_place {shift place : Nat} (inRange : place < 2 * leadingBit)
    (full : leadingBit ≤ place ∨ shift = 0) : stepAt (shift * leadingBit + place) = 2 ^ shift := by
  rcases Nat.lt_or_ge place leadingBit with small | large
  · obtain rfl : shift = 0 := by omega
    rw [Nat.zero_mul, Nat.zero_add, stepAt_small small, Nat.pow_zero]
  · have asNormal : shift * leadingBit + place =
        leadingBit * (shift + 1) + (place - leadingBit) := by
      rw [Nat.mul_comm, Nat.mul_succ]
      omega
    rw [asNormal, stepAt_normal (by omega)]

/-- The last place of a grid is the first one of the next grid. -/
theorem stepAt_last (shift : Nat) :
    stepAt (shift * leadingBit + 2 * leadingBit) = 2 * 2 ^ shift := by
  have asNormal : shift * leadingBit + 2 * leadingBit = leadingBit * (shift + 1 + 1) + 0 := by ring
  rw [asNormal, stepAt_normal (by decide), Nat.pow_succ, Nat.mul_comm]

/-- The range of a place ends half a step of its grid above it, or a whole one for the last place. -/
theorem highAt_place {shift place : Nat} (inRange : place ≤ 2 * leadingBit)
    (full : leadingBit ≤ place ∨ shift = 0) :
    highAt (shift * leadingBit + place) =
      4 * (place * 2 ^ shift) + (if place = 2 * leadingBit then 4 else 2) * 2 ^ shift := by
  rw [highAt, unitsAt_place inRange full]
  split
  · rename_i last
    rw [last, stepAt_last]
    ring
  · rw [stepAt_place (by omega) full]

/-- The range of a place starts half a step below it, or a quarter where the step below is half as
wide. -/
theorem lowAt_place {shift place : Nat} (inRange : place ≤ 2 * leadingBit)
    (full : leadingBit ≤ place ∨ shift = 0) :
    lowAt (shift * leadingBit + place) =
      4 * (place * 2 ^ shift) - (if place = leadingBit ∧ 0 < shift then 1 else 2) * 2 ^ shift := by
  have bit : leadingBit = 4503599627370496 := rfl
  rw [lowAt, unitsAt_place inRange full]
  by_cases last : place = 2 * leadingBit
  · subst last
    have narrow : (shift * leadingBit + 2 * leadingBit) % leadingBit = 0 ∧
        leadingBit < shift * leadingBit + 2 * leadingBit := by
      rw [bit]
      omega
    rw [if_pos narrow, if_neg (by omega), stepAt_last]
  · have narrow : ((shift * leadingBit + place) % leadingBit = 0 ∧
        leadingBit < shift * leadingBit + place) ↔ place = leadingBit ∧ 0 < shift := by
      rw [bit] at inRange full last ⊢
      omega
    rw [stepAt_place (by omega) full]
    split
    · rename_i given
      rw [if_pos (narrow.mp given), Nat.one_mul]
    · rename_i given
      rw [if_neg (given ∘ narrow.mpr)]

/-- How the nearest word arises: a place of the grid next to the ratio, and its units. -/
theorem unitsAt_nearestWord (numerator denominator : Nat) :
    let shift := (numerator / denominator).log2 - 52
    let place := roundHalfEven numerator (denominator * 2 ^ shift)
    nearestWord numerator denominator = shift * leadingBit + place ∧
      place ≤ 2 * leadingBit ∧ (leadingBit ≤ place ∨ shift = 0) ∧
      unitsAt (nearestWord numerator denominator) = place * 2 ^ shift := by
  intro shift place
  obtain ⟨below, full⟩ : numerator / (denominator * 2 ^ shift) < 2 * leadingBit ∧
      (leadingBit ≤ numerator / (denominator * 2 ^ shift) ∨ shift = 0) :=
    quotient_place numerator denominator
  have word : nearestWord numerator denominator = shift * leadingBit + place := by
    rw [nearestWord, Nat.shiftLeft_eq]
  have near := roundHalfEven_cases numerator (denominator * 2 ^ shift)
  have inRange : place ≤ 2 * leadingBit := by omega
  have large : leadingBit ≤ place ∨ shift = 0 := by omega
  exact ⟨word, inRange, large, word ▸ unitsAt_place inRange large⟩

/-- A ratio lies in the range of its nearest word, and at an end of it only if the word is even. -/
theorem nearestWord_range (numerator : Nat) {denominator : Nat} (positive : 0 < denominator) :
    let word := nearestWord numerator denominator
    lowAt word * denominator ≤ 4 * numerator ∧ 4 * numerator ≤ highAt word * denominator ∧
      (lowAt word * denominator = 4 * numerator ∨ 4 * numerator = highAt word * denominator →
        word % 2 = 0) := by
  have bit : leadingBit = 4503599627370496 := rfl
  obtain ⟨isWord, inRange, full, -⟩ := unitsAt_nearestWord numerator denominator
  obtain ⟨below, above⟩ := quotient_place numerator denominator
  dsimp only at isWord inRange full below above ⊢
  rw [isWord]
  generalize (numerator / denominator).log2 - 52 = shift at *
  have step : 0 < denominator * 2 ^ shift := by positivity
  obtain ⟨notFar, near, tie⟩ := roundHalfEven_near numerator step
  have down := roundHalfEven_cases numerator (denominator * 2 ^ shift)
  have whole := Nat.div_mul_le_self numerator (denominator * 2 ^ shift)
  have less : numerator < 2 * leadingBit * (denominator * 2 ^ shift) :=
    (Nat.div_lt_iff_lt_mul step).mp below
  generalize roundHalfEven numerator (denominator * 2 ^ shift) = place at *
  have even : (shift * leadingBit + place) % 2 = place % 2 := by rw [bit]; omega
  rw [lowAt_place inRange full, highAt_place inRange full, even, Nat.sub_mul, Nat.add_mul]
  have scaled (factor : Nat) :
      factor * 2 ^ shift * denominator = factor * (denominator * 2 ^ shift) := by ring
  have scaledPlace :
      4 * (place * 2 ^ shift) * denominator = 4 * (place * (denominator * 2 ^ shift)) := by ring
  rw [scaled, scaled, scaledPlace]
  generalize denominator * 2 ^ shift = grid at *
  -- nothing below the first place of a grid is rounded on this grid
  have reached : place = leadingBit ∧ 0 < shift → leadingBit * grid ≤ numerator := fun first =>
    (Nat.mul_le_mul_right grid (by omega)).trans whole
  refine ⟨?_, ?_, ?_⟩
  · split
    · rename_i first
      have reached := reached first
      rw [first.1]
      omega
    · omega
  · split <;> omega
  · rintro (low | high)
    · split at low
      · rename_i first
        have reached := reached first
        rw [first.1] at low
        omega
      · rcases Nat.eq_zero_or_pos place with zero | positive
        · rw [zero]
        · have := Nat.le_mul_of_pos_left grid positive
          exact tie (.inl (by omega))
    · split at high
      · rename_i last
        rw [last] at high
        omega
      · exact tie (.inr (by omega))

/-- Words keep the order of the units they stand for. -/
theorem unitsAt_strictMono : StrictMono unitsAt := by
  apply strictMono_nat_of_lt_succ
  intro word
  have positive := stepAt_pos word
  have next := lowAt_succ word
  have lower : lowAt (word + 1) ≤ 4 * unitsAt (word + 1) := Nat.sub_le _ _
  rw [next, highAt] at lower
  omega

/-- The word of a ratio is at most that of the end of its range. -/
theorem nearestWord_le (numerator denominator : Nat) :
    nearestWord numerator denominator ≤
      ((numerator / denominator).log2 - 52) * leadingBit + 2 * leadingBit := by
  obtain ⟨isWord, inRange, -⟩ := unitsAt_nearestWord numerator denominator
  omega

/-- The exponent of `one` is named, so that the power is not computed. -/
theorem one_eq_pow : ∃ exponent, exponent = 1074 ∧ one = 2 ^ exponent := by
  obtain ⟨exponent, isExponent⟩ : ∃ exponent, exponent = 1074 := ⟨_, rfl⟩
  exact ⟨exponent, isExponent, by rw [one, ← isExponent, Nat.one_shiftLeft]⟩

/-- There is a unit in one. -/
theorem one_pos : 0 < one := by
  obtain ⟨exponent, -, isOne⟩ := one_eq_pow
  rw [isOne]
  positivity

/-- A ratio lies in the range of the number it is rounded to. -/
theorem holds_ofRatio {negative : Bool} {numerator denominator : Nat} {value : Binary64}
    (positive : 0 < denominator) (made : ofRatio? negative numerator denominator = some value) :
    value.rounding.Holds (numerator / (denominator * one : Nat)) := by
  obtain ⟨inRange, rfl⟩ : ∃ inRange,
      (⟨negative, nearestWord numerator denominator, inRange⟩ : Binary64) = value := by
    rw [ofRatio?] at made
    split at made
    · rename_i inRange
      exact ⟨inRange, Option.some.inj made⟩
    · simp at made
  have scaled (bound : Nat) : bound * (denominator * one) = bound * denominator * one := by ring
  have scaledPoint : numerator * (4 * one) = 4 * numerator * one := by ring
  obtain ⟨low, high, tie⟩ := nearestWord_range numerator positive
  rw [← Interval.contains_iff _ _ (Nat.mul_pos positive one_pos), Interval.contains,
    rounding_low, rounding_high, rounding_scale, scaled, scaled, scaledPoint]
  dsimp only
  generalize nearestWord numerator denominator = word at *
  split
  · rw [decide_eq_true_iff]
    exact ⟨Nat.mul_le_mul_right one low, Nat.mul_le_mul_right one high⟩
  · rename_i odd
    rw [closed_iff] at odd
    have odd : ¬word % 2 = 0 := odd
    rw [decide_eq_true_iff, Nat.mul_lt_mul_right one_pos, Nat.mul_lt_mul_right one_pos]
    omega

/-- A shift by 1074 counts the units. -/
theorem scaled_eq (value : Nat) : value <<< 1074 = value * one := by
  rw [one, Nat.one_shiftLeft, Nat.shiftLeft_eq]

/-- Multiplication by a power of two adds its exponent to the number of bits. -/
theorem log2_mul_pow_lt {value bound : Nat} (power : Nat) (positive : 0 < bound)
    (less : value < 2 ^ bound) : (value * 2 ^ power).log2 < bound + power := by
  rcases Nat.eq_zero_or_pos value with rfl | notZero
  · rw [Nat.zero_mul, Nat.log2_zero]
    omega
  · rw [Nat.log2_lt (by positivity), Nat.pow_add]
    exact Nat.mul_lt_mul_of_pos_right less (by positivity)

/-- A number of units has 1074 more bits. -/
theorem log2_mul_one_lt {value bound : Nat} (positive : 0 < bound) (less : value < 2 ^ bound) :
    (value * one).log2 < bound + 1074 := by
  obtain ⟨exponent, rfl, isOne⟩ := one_eq_pow
  rw [isOne]
  exact log2_mul_pow_lt _ positive less

/-- A ratio whose word is that of a number is rounded to the number. -/
theorem ofRatio?_of_fits (negative : Bool) {numerator denominator : Nat}
    (fits : nearestWord numerator denominator < 0x7FF0000000000000) :
    ofRatio? negative numerator denominator =
      some ⟨negative, nearestWord numerator denominator, fits⟩ := dif_pos fits

/-- Integers of 64 bits are far below the greatest number. -/
theorem ofRatio?_ofNat {value : Nat} (inRange : value < 2 ^ 64) :
    ofRatio? false (value * one) 1 = some (ofNat value) := by
  have fits : nearestWord (value * one) 1 < 0x7FF0000000000000 := by
    have word := nearestWord_le (value * one) 1
    have short := log2_mul_one_lt (by decide) inRange
    rw [Nat.div_one] at word
    generalize value * one = scaled at *
    have places : scaled.log2 - 52 ≤ 1085 := by omega
    have bit : leadingBit = 4503599627370496 := rfl
    have := Nat.mul_le_mul_right leadingBit places
    omega
  rw [ofNat, scaled_eq, ofRatio?_of_fits false fits, Option.getD_some]

/-- The rounded number is named, so that no step of a proof computes it. -/
theorem exists_holds_ofNat {value : Nat} (inRange : value < 2 ^ 64) :
    ∃ rounded, ofNat value = rounded ∧ rounded.rounding.Holds value := by
  have made := ofRatio?_ofNat inRange
  generalize ofNat value = rounded at made
  have holds := holds_ofRatio Nat.one_pos made
  have positive : (one : ℚ) ≠ 0 := Nat.cast_ne_zero.mpr one_pos.ne'
  rw [Nat.one_mul, Nat.cast_mul, mul_div_cancel_right₀ _ positive] at holds
  exact ⟨rounded, rfl, holds⟩

/-- Rounding keeps the order of natural numbers. -/
theorem units_ofNat_mono {left right : Nat} (inRange : right < 2 ^ 64) (ordered : left ≤ right) :
    (ofNat left).units ≤ (ofNat right).units := by
  obtain ⟨below, isBelow, holdsBelow⟩ := exists_holds_ofNat (ordered.trans_lt inRange)
  obtain ⟨above, isAbove, holdsAbove⟩ := exists_holds_ofNat inRange
  rw [isBelow, isAbove]
  exact unitsAt_strictMono.monotone
    (word_le_of_holds holdsBelow holdsAbove (Nat.cast_le.mpr ordered))

/-- A quotient without rest is not rounded. -/
theorem roundHalfEven_of_dvd {numerator denominator : Nat} (divides : denominator ∣ numerator) :
    roundHalfEven numerator denominator = numerator / denominator := by
  have none := Nat.mod_eq_zero_of_dvd divides
  rcases roundHalfEven_cases numerator denominator with ⟨down, -⟩ | ⟨-, near, -⟩
  · exact down
  · obtain rfl : denominator = 0 := by omega
    obtain rfl := Nat.eq_zero_of_zero_dvd divides
    rfl

/-- Natural numbers of up to 2^53 are numbers themselves. -/
theorem units_ofNat {value : Nat} (small : value ≤ 2 ^ 53) :
    (ofNat value).units = value * one := by
  have inRange : value < 2 ^ 64 := small.trans_lt (by decide)
  obtain ⟨-, -, -, units⟩ := unitsAt_nearestWord (value * one) 1
  have word : (ofNat value).word = nearestWord (value * one) 1 := by
    have made := ofRatio?_ofNat inRange
    rw [ofRatio?] at made
    split at made
    · rw [← Option.some.inj made]
    · simp at made
  rw [units_eq, word, units, Nat.one_mul, Nat.div_one]
  have divides : 2 ^ ((value * one).log2 - 52) ∣ value * one := by
    obtain ⟨exponent, isExponent, isOne⟩ := one_eq_pow
    rcases small.lt_or_eq with less | rfl
    · have short := log2_mul_one_lt (by decide) less
      rw [← isExponent] at short
      refine Nat.dvd_mul_left_of_dvd ?_ value
      rw [isOne] at short ⊢
      exact Nat.pow_dvd_pow 2 (by omega)
    · rw [isOne, ← Nat.pow_add, Nat.log2_two_pow]
      exact Nat.pow_dvd_pow 2 (by omega)
  rw [roundHalfEven_of_dvd divides, Nat.div_mul_cancel divides]

/-- A natural number has no sign. -/
theorem signedUnits_ofNat (value : Nat) : (ofNat value).signedUnits = (ofNat value).units := by
  have positive : (ofNat value).negative = false := by
    rw [ofNat, ofRatio?]
    split <;> rfl
  rw [signedUnits, positive]
  rfl

/-- Negation turns the sign of the units. -/
theorem signedUnits_negate (value : Binary64) : value.negate.signedUnits = -value.signedUnits := by
  have units : value.negate.units = value.units := rfl
  unfold signedUnits
  rw [units]
  cases given : value.negative <;> simp [negate, given]

/-- An integer is rounded as its absolute value is. -/
theorem signedUnits_ofInt (value : Int) :
    (ofInt value).signedUnits =
      if value < 0 then -((ofNat value.natAbs).units : Int) else (ofNat value.natAbs).units := by
  unfold ofInt
  split
  · rw [signedUnits_negate, signedUnits_ofNat]
  · exact signedUnits_ofNat _

/-- Rounding keeps the order of integers. -/
theorem signedUnits_ofInt_mono {left right : Int} (leftInRange : left.natAbs < 2 ^ 64)
    (rightInRange : right.natAbs < 2 ^ 64) (ordered : left ≤ right) :
    (ofInt left).signedUnits ≤ (ofInt right).signedUnits := by
  rw [signedUnits_ofInt, signedUnits_ofInt]
  split
  · split
    · have := units_ofNat_mono leftInRange (show right.natAbs ≤ left.natAbs by omega)
      omega
    · omega
  · have := units_ofNat_mono rightInRange (show left.natAbs ≤ right.natAbs by omega)
    rw [if_neg (by omega)]
    omega

/-- Two integers with the same nearest number. -/
def Indistinct (left right : Int) : Prop := (ofInt left).sameValue (ofInt right) = true

instance (left right : Int) : Decidable (Indistinct left right) :=
  inferInstanceAs (Decidable ((ofInt left).sameValue (ofInt right) = true))

/-- Integers are not told apart just if they are rounded to the same units. -/
theorem indistinct_iff (left right : Int) :
    Indistinct left right ↔ (ofInt left).signedUnits = (ofInt right).signedUnits := beq_iff_eq

theorem Indistinct.symm {left right : Int} (same : Indistinct left right) :
    Indistinct right left :=
  (indistinct_iff right left).mpr ((indistinct_iff left right).mp same).symm

/-- An integer is at most another one after rounding if it is before, or if rounding merges them. -/
theorem ofInt_le_iff {left right : Int} (leftInRange : left.natAbs < 2 ^ 64)
    (rightInRange : right.natAbs < 2 ^ 64) :
    ofInt left ≤ ofInt right ↔ left ≤ right ∨ Indistinct left right := by
  rw [le_iff, indistinct_iff]
  constructor
  · intro atMost
    rcases Int.le_total left right with ordered | reversed
    · exact .inl ordered
    · exact .inr (le_antisymm atMost (signedUnits_ofInt_mono rightInRange leftInRange reversed))
  · rintro (ordered | same)
    · exact signedUnits_ofInt_mono leftInRange rightInRange ordered
    · exact same.le

/-- Rounding keeps the order of integers that it tells apart. -/
theorem ofInt_lt_iff {left right : Int} (leftInRange : left.natAbs < 2 ^ 64)
    (rightInRange : right.natAbs < 2 ^ 64) :
    ofInt left < ofInt right ↔ left < right ∧ ¬Indistinct left right := by
  have converse := ofInt_le_iff rightInRange leftInRange
  rw [le_iff, indistinct_iff] at converse
  rw [lt_iff, indistinct_iff, ← not_le, converse, not_or, not_le, eq_comm]

/-- Integers of up to 2^53 are not rounded. -/
theorem signedUnits_ofInt_exact {value : Int} (small : value.natAbs ≤ 2 ^ 53) :
    (ofInt value).signedUnits = value * one := by
  rw [signedUnits_ofInt, units_ofNat small, Nat.cast_mul, Int.natCast_natAbs]
  split
  · rename_i negative
    rw [abs_of_neg negative]
    ring
  · rename_i notNegative
    rw [abs_of_nonneg (not_lt.mp notNegative)]

/-- Integers of up to 2^53 are told apart. -/
theorem Indistinct.eq_of_le {left right : Int} (leftSmall : left.natAbs ≤ 2 ^ 53)
    (rightSmall : right.natAbs ≤ 2 ^ 53) (same : Indistinct left right) : left = right := by
  rw [indistinct_iff, signedUnits_ofInt_exact leftSmall, signedUnits_ofInt_exact rightSmall] at same
  exact Int.eq_of_mul_eq_mul_right (Int.natCast_ne_zero.mpr one_pos.ne') same

/-- Rounding merges no integer below 2^53 with another one of 64 bits. -/
theorem Indistinct.eq_of_lt {left right : Int} (small : left.natAbs < 2 ^ 53)
    (inRange : right.natAbs < 2 ^ 64) (same : Indistinct left right) : left = right := by
  by_cases rightSmall : right.natAbs ≤ 2 ^ 53
  · exact same.eq_of_le small.le rightSmall
  · exfalso
    have positive : (0 : Int) < one := Int.natCast_pos.mpr one_pos
    have exact : (ofInt (2 ^ 53)).signedUnits = 2 ^ 53 * one ∧
        (ofInt (-2 ^ 53)).signedUnits = -2 ^ 53 * one :=
      ⟨signedUnits_ofInt_exact (by decide), signedUnits_ofInt_exact (by decide)⟩
    rw [indistinct_iff, signedUnits_ofInt_exact small.le] at same
    rcases Int.le_total 0 right with notNegative | notPositive
    · have ordered : (ofInt (2 ^ 53)).signedUnits ≤ (ofInt right).signedUnits :=
        signedUnits_ofInt_mono (by decide) inRange (by omega)
      rw [exact.1, ← same] at ordered
      have := le_of_mul_le_mul_right ordered positive
      omega
    · have ordered : (ofInt right).signedUnits ≤ (ofInt (-2 ^ 53)).signedUnits :=
        signedUnits_ofInt_mono inRange (by decide) (by omega)
      rw [exact.2, ← same] at ordered
      have := le_of_mul_le_mul_right ordered positive
      omega

end Binary64

end TypedJson
