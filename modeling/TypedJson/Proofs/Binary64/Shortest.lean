import TypedJson.Proofs.Binary64.Rounding

namespace TypedJson

namespace Decimal

/-- The number that a numeral stands for. -/
def toRat (value : Decimal) : ℚ := value.digits * (10 : ℚ) ^ value.exponent

/-- A numeral is a ratio of two natural numbers. -/
theorem toRat_eq_div (digits : Nat) (exponent : Int) :
    toRat ⟨digits, exponent⟩ =
      (digits * Nat.pow 10 exponent.toNat : Nat) / (Nat.pow 10 (-exponent).toNat : Nat) := by
  have split : exponent = (exponent.toNat : Int) - ((-exponent).toNat : Int) := by omega
  rw [toRat]
  conv_lhs => rw [split]
  rw [zpow_sub₀ (by norm_num), zpow_natCast, zpow_natCast, Nat.pow_eq, Nat.pow_eq]
  push_cast
  ring

/-- Dropping zeros at the end keeps the value. -/
theorem toRat_trim_go (steps digits : Nat) (exponent : Int) :
    (trim.go steps digits exponent).toRat = toRat ⟨digits, exponent⟩ := by
  induction steps generalizing digits exponent with
  | zero => rfl
  | succ steps ih =>
      rw [trim.go]
      split
      · rename_i zero
        rw [ih, toRat, toRat, zpow_add_one₀ (by norm_num)]
        have digits : (digits : ℚ) = (digits / 10 : Nat) * 10 := by
          exact_mod_cast (Nat.div_mul_cancel (Nat.dvd_of_mod_eq_zero zero.2)).symm
        dsimp only
        rw [digits]
        ring
      · rfl

/-- Dropping zeros at the end keeps the value. -/
theorem toRat_trim (value : Decimal) : value.trim.toRat = value.toRat := toRat_trim_go _ _ _

/-- A number of so many digits is at least the power of ten below. -/
theorem pow_width_le {value : Nat} (positive : 0 < value) : 10 ^ (width value - 1) ≤ value := by
  by_contra less
  have short : width value - 1 ≠ 0 := by
    intro none
    rw [none, pow_zero] at less
    omega
  have narrow := (Nat.length_toDigits_le_iff (by norm_num) (Nat.pos_of_ne_zero short)).mpr
    (Nat.lt_of_not_le less)
  rw [← width] at narrow
  omega

end Decimal

namespace Binary64

namespace Interval

variable {range : Interval}

/-- A numeral on a grid is in the range, and is not zero. -/
theorem onGrid_eq_some {tie : TieRule} {exponent : Int} {numeral : Decimal}
    (found : range.onGrid tie exponent = some numeral) :
    range.Holds numeral.toRat ∧ numeral.digits ≠ 0 := by
  have holds {digits : Nat}
      (fits : range.contains (digits * Nat.pow 10 exponent.toNat)
        (Nat.pow 10 (-exponent).toNat) = true) :
      range.Holds (Decimal.toRat ⟨digits, exponent⟩) := by
    rw [Decimal.toRat_eq_div]
    exact (range.contains_iff _ (Nat.pow_pos (by norm_num))).mp fits
  have either {upward : Bool} {first second : Nat}
      (holdsFirst : range.Holds (Decimal.toRat ⟨first, exponent⟩) ∧ first ≠ 0)
      (holdsSecond : range.Holds (Decimal.toRat ⟨second, exponent⟩) ∧ second ≠ 0) :
      range.Holds (Decimal.toRat ⟨if upward then first else second, exponent⟩) ∧
        (if upward then first else second) ≠ 0 := by
    cases upward
    · exact holdsSecond
    · exact holdsFirst
  unfold onGrid at found
  dsimp only at found
  split at found
  · rename_i both
    simp only [Bool.and_eq_true, decide_eq_true_eq] at both
    obtain rfl := Option.some.inj found
    exact either ⟨holds both.2, Nat.succ_ne_zero _⟩ ⟨holds both.1.1, both.1.2⟩
  · split at found
    · rename_i low
      simp only [Bool.and_eq_true, decide_eq_true_eq] at low
      obtain rfl := Option.some.inj found
      exact ⟨holds low.1, low.2⟩
    · split at found
      · rename_i high
        obtain rfl := Option.some.inj found
        exact ⟨holds high, Nat.succ_ne_zero _⟩
      · simp at found

/-- The zeros that are counted are enough to reach the scale. -/
theorem leadingZeros_spec (range : Interval) {steps middle : Nat}
    (enough : range.scale ≤ middle * 10 ^ steps) (count : Nat) :
    ∃ zeros, decimalExponent.leadingZeros range steps middle count = count + zeros ∧
      range.scale ≤ middle * 10 ^ zeros := by
  induction steps generalizing middle count with
  | zero => exact ⟨0, rfl, enough⟩
  | succ steps ih =>
      rw [decimalExponent.leadingZeros]
      split
      · rename_i reached
        exact ⟨0, rfl, by simpa using reached⟩
      · have enoughNext : range.scale ≤ middle * 10 * 10 ^ steps := by
          rw [mul_assoc, ← pow_succ']
          exact enough
        obtain ⟨zeros, counted, reached⟩ := ih enoughNext (count + 1)
        refine ⟨zeros + 1, by rw [counted]; omega, ?_⟩
        rw [pow_succ', ← mul_assoc]
        exact reached

/-- The decimal exponent of a range is not too great for its middle. -/
theorem scale_le_of_decimalExponent (positive : 0 < range.scale)
    (enough : range.scale ≤ range.middle * 10 ^ 400) :
    range.scale * 10 ^ range.decimalExponent.toNat ≤
      range.middle * 10 ^ (-range.decimalExponent).toNat := by
  unfold decimalExponent
  split
  · rename_i large
    have whole : 0 < range.middle / range.scale := Nat.div_pos large positive
    have wide : 1 ≤ Decimal.width (range.middle / range.scale) := Nat.length_toDigits_pos
    obtain ⟨width, isWidth⟩ : ∃ width, Decimal.width (range.middle / range.scale) = width + 1 :=
      ⟨Decimal.width (range.middle / range.scale) - 1, by omega⟩
    have bound := Decimal.pow_width_le whole
    rw [isWidth, Nat.add_sub_cancel] at bound
    have exponent : ((width + 1 : Nat) : Int) - 1 = width := by omega
    have negated : (-(width : Int)).toNat = 0 := by omega
    rw [isWidth, exponent, Int.toNat_natCast, negated, pow_zero, mul_one, mul_comm]
    exact (Nat.le_div_iff_mul_le positive).mp bound
  · obtain ⟨zeros, counted, reached⟩ := range.leadingZeros_spec enough 0
    have none : (-(zeros : Int)).toNat = 0 := by omega
    rw [counted, Nat.zero_add, none, pow_zero, mul_one, neg_neg, Int.toNat_natCast]
    exact reached

/-- A ratio strictly between the ends lies in the range. -/
theorem contains_of_between {numerator denominator : Nat}
    (above : range.low * denominator < numerator * range.scale)
    (below : numerator * range.scale < range.high * denominator) :
    range.contains numerator denominator = true := by
  unfold contains
  dsimp only
  split
  · exact decide_eq_true ⟨above.le, below.le⟩
  · exact decide_eq_true ⟨above, below⟩

/--
On a grid whose places are less apart than the ends of the range, one of the two numerals around
the middle is in the range.
-/
theorem onGrid_isSome (tie : TieRule) (exponent : Int) {up down : Nat}
    (isUp : Nat.pow 10 exponent.toNat = up) (isDown : Nat.pow 10 (-exponent).toNat = down)
    (positive : 0 < range.scale * up) (some : range.scale * up ≤ range.middle * down)
    (lowest : range.low * down ≤ range.middle * down)
    (highest : range.middle * down < range.high * down)
    (fine : range.low * down + range.scale * up < range.high * down) :
    (range.onGrid tie exponent).isSome = true := by
  unfold onGrid
  dsimp only
  rw [isUp, isDown]
  have below := Nat.div_add_mod (range.middle * down) (range.scale * up)
  have rest := Nat.mod_lt (range.middle * down) positive
  have notZero : range.middle * down / (range.scale * up) ≠ 0 := (Nat.div_pos some positive).ne'
  generalize range.middle * down / (range.scale * up) = digits at below notZero ⊢
  generalize range.middle * down % (range.scale * up) = remainder at below rest ⊢
  have place : digits * up * range.scale = range.scale * up * digits := by ring
  have next : (digits + 1) * up * range.scale = range.scale * up * digits + range.scale * up := by
    ring
  rcases Nat.lt_or_ge (range.low * down + remainder) (range.middle * down) with near | far
  · have fits : range.contains (digits * up) down = true :=
      contains_of_between (by omega) (by omega)
    rw [fits, decide_eq_true notZero]
    split <;> rfl
  · have fits : range.contains ((digits + 1) * up) down = true :=
      contains_of_between (by omega) (by omega)
    rw [fits]
    split
    · rfl
    · split <;> rfl

end Interval

/-- So many units have no more than 400 digits. -/
theorem one_le_pow : one ≤ 10 ^ 400 := by
  have hundreds : 400 = 4 * 100 := rfl
  rw [one, Nat.one_shiftLeft, hundreds, Nat.pow_mul]
  calc 2 ^ 1074 ≤ 2 ^ (13 * 100) := Nat.pow_le_pow_right (by norm_num) (by norm_num)
    _ = (2 ^ 13) ^ 100 := Nat.pow_mul 2 13 100
    _ ≤ (10 ^ 4) ^ 100 := Nat.pow_le_pow_left (by norm_num) 100

/-- A word other than zero has units. -/
theorem unitsAt_pos {word : Nat} (positive : 0 < word) : 0 < unitsAt word := by
  obtain small | ⟨power, place, inRange, rfl⟩ := word_cases word
  · rwa [unitsAt_small small]
  · rw [unitsAt_normal inRange]
    have bit : 0 < leadingBit := by decide
    positivity

/-- Seventeen digits are enough. -/
theorem onGrid_seventeen {value : Binary64} (notZero : 0 < value.word) (tie : TieRule) :
    (value.rounding.onGrid tie (value.rounding.decimalExponent - 16)).isSome = true := by
  have units := unitsAt_pos notZero
  have scale : 0 < value.rounding.scale := by rw [rounding_scale]; decide
  have enough : value.rounding.scale ≤ value.rounding.middle * 10 ^ 400 := by
    rw [rounding_scale, rounding_middle]
    calc 4 * one ≤ 4 * 10 ^ 400 := Nat.mul_le_mul_left 4 one_le_pow
      _ ≤ 4 * unitsAt value.word * 10 ^ 400 := Nat.mul_le_mul_right _ (by omega)
  have top := Interval.scale_le_of_decimalExponent scale enough
  generalize value.rounding.decimalExponent = exponent at top ⊢
  obtain ⟨up, isUp⟩ : ∃ up, up = Nat.pow 10 (exponent - 16).toNat := ⟨_, rfl⟩
  obtain ⟨down, isDown⟩ : ∃ down, down = Nat.pow 10 (-(exponent - 16)).toNat := ⟨_, rfl⟩
  have upPositive : 0 < up := isUp ▸ Nat.pow_pos (by norm_num)
  have downPositive : 0 < down := isDown ▸ Nat.pow_pos (by norm_num)
  -- the grid is sixteen digits finer than the leading digit
  have shift : 10 ^ exponent.toNat * down = up * 10 ^ 16 * 10 ^ (-exponent).toNat := by
    rw [isUp, isDown, Nat.pow_eq, Nat.pow_eq, ← pow_add, ← pow_add, ← pow_add]
    congr 1
    omega
  have grid : value.rounding.scale * up * 10 ^ 16 ≤ value.rounding.middle * down := by
    have positive : 0 < 10 ^ (-exponent).toNat := by positivity
    apply Nat.le_of_mul_le_mul_right _ positive
    calc value.rounding.scale * up * 10 ^ 16 * 10 ^ (-exponent).toNat
        = value.rounding.scale * (10 ^ exponent.toNat * down) := by rw [shift]; ring
      _ = value.rounding.scale * 10 ^ exponent.toNat * down := by ring
      _ ≤ value.rounding.middle * 10 ^ (-exponent).toNat * down := Nat.mul_le_mul_right _ top
      _ = value.rounding.middle * down * 10 ^ (-exponent).toNat := by ring
  have width := unitsAt_lt_width value.word
  have lowest : value.rounding.low ≤ value.rounding.middle := Nat.sub_le _ _
  have highest : value.rounding.middle < value.rounding.high :=
    Nat.lt_add_of_pos_right (Nat.mul_pos (by norm_num) (stepAt_pos _))
  rw [← rounding_low, ← rounding_high, ← rounding_middle] at width
  have fine : value.rounding.scale * up < (value.rounding.high - value.rounding.low) * down := by
    have narrow : value.rounding.middle * down <
        (value.rounding.high - value.rounding.low) * 10 ^ 16 * down :=
      Nat.mul_lt_mul_of_pos_right width downPositive
    have moved : (value.rounding.high - value.rounding.low) * 10 ^ 16 * down =
        (value.rounding.high - value.rounding.low) * down * 10 ^ 16 := by ring
    omega
  rw [Nat.sub_mul] at fine
  have lowDown := Nat.mul_le_mul_right down lowest
  have highDown := Nat.mul_lt_mul_of_pos_right highest downPositive
  apply Interval.onGrid_isSome tie _ isUp.symm isDown.symm
  · positivity
  · omega
  · exact lowDown
  · exact highDown
  · omega

/-- The shortest numeral of a number other than zero lies in the range that rounds to it. -/
theorem holds_shortest {value : Binary64} (notZero : 0 < value.word) (tie : TieRule) :
    value.rounding.Holds (value.shortest tie).toRat ∧ 0 < (value.shortest tie).toRat := by
  have isZero : value.isZero = false := beq_false_of_ne notZero.ne'
  rw [shortest, isZero, if_neg Bool.false_ne_true]
  dsimp only
  rw [Decimal.toRat_trim]
  generalize grids : ((List.range 17).map fun index : Nat =>
    value.rounding.decimalExponent - (index : Int)) = exponents
  have last : value.rounding.decimalExponent - 16 ∈ exponents := by
    rw [← grids]
    exact List.mem_map.mpr ⟨16, by decide, rfl⟩
  cases found : exponents.findSome? (value.rounding.onGrid tie) with
  | none =>
      have absent := List.findSome?_eq_none_iff.mp found _ last
      have isSome := onGrid_seventeen notZero tie
      simp [absent] at isSome
  | some numeral =>
      obtain ⟨exponent, -, onGrid⟩ := List.exists_of_findSome?_eq_some found
      obtain ⟨holds, digits⟩ := Interval.onGrid_eq_some onGrid
      have positive : (0 : ℚ) < numeral.digits := by exact_mod_cast Nat.pos_of_ne_zero digits
      refine ⟨holds, ?_⟩
      rw [Option.getD_some, Decimal.toRat]
      positivity

/-- The shortest numeral of zero is zero. -/
theorem toRat_shortest_zero {value : Binary64} (zero : value.word = 0) (tie : TieRule) :
    (value.shortest tie).toRat = 0 := by
  have isZero : value.isZero = true := beq_iff_eq.mpr zero
  rw [shortest, isZero, if_pos rfl, Decimal.toRat]
  simp

/-- Numbers whose shortest numerals stand for the same rational differ at most in their sign. -/
theorem word_eq_of_toRat_shortest {left right : Binary64} {tie : TieRule}
    (same : (left.shortest tie).toRat = (right.shortest tie).toRat) : left.word = right.word := by
  rcases Nat.eq_zero_or_pos left.word with leftZero | leftPositive
  · rcases Nat.eq_zero_or_pos right.word with rightZero | rightPositive
    · rw [leftZero, rightZero]
    · rw [toRat_shortest_zero leftZero] at same
      exact absurd same (holds_shortest rightPositive tie).2.ne
  · rcases Nat.eq_zero_or_pos right.word with rightZero | rightPositive
    · rw [toRat_shortest_zero rightZero] at same
      exact absurd same (holds_shortest leftPositive tie).2.ne'
    · have inLeft := (holds_shortest leftPositive tie).1
      have inRight := (holds_shortest rightPositive tie).1
      rw [same] at inLeft
      exact word_eq_of_holds inLeft inRight

end Binary64

end TypedJson
