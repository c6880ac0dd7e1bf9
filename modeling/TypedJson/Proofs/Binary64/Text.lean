import Mathlib.Data.List.TakeWhile
import TypedJson.Binary64.Text
import TypedJson.Proofs.Binary64.Shortest

namespace TypedJson

namespace Decimal

/-- The number that positional text without a sign stands for. -/
def pointValue (text : List Char) : ℚ :=
  Nat.ofDigitChars 10 (text.filter (· != '.')) 0 /
    10 ^ ((text.dropWhile (· != '.')).length - 1)

/-- Without a point the digits are the value. -/
theorem pointValue_whole {digits : List Char} (plain : ∀ char ∈ digits, char != '.') :
    pointValue digits = Nat.ofDigitChars 10 digits 0 := by
  rw [pointValue, List.filter_eq_self.mpr plain, List.dropWhile_eq_nil_iff.mpr plain]
  simp

/-- Behind a point each digit counts for a tenth. -/
theorem pointValue_point {before after : List Char} (plainBefore : ∀ char ∈ before, char != '.')
    (plainAfter : ∀ char ∈ after, char != '.') :
    pointValue (before ++ '.' :: after) =
      Nat.ofDigitChars 10 (before ++ after) 0 / 10 ^ after.length := by
  have dropped : (before ++ '.' :: after).dropWhile (· != '.') = '.' :: after := by
    rw [List.dropWhile_append_of_pos plainBefore, List.dropWhile_cons_of_neg (by decide)]
  have kept : (before ++ '.' :: after).filter (· != '.') = before ++ after := by
    rw [List.filter_append, List.filter_cons_of_neg (by decide),
      List.filter_eq_self.mpr plainBefore, List.filter_eq_self.mpr plainAfter]
  rw [pointValue, dropped, kept, List.length_cons, Nat.add_sub_cancel]

/-- Zeros before digits are digits. -/
theorem isDigit_zero_or_mem {count number : Nat} {char : Char}
    (inside : char ∈ List.replicate count '0' ++ Nat.toDigits 10 number) : char.isDigit = true := by
  rcases List.mem_append.mp inside with zero | digit
  · rw [List.eq_of_mem_replicate zero]
    rfl
  · exact Nat.isDigit_of_mem_toDigits (by decide) (by decide) digit

/-- A whole numeral is written as its digits and zeros behind them. -/
theorem toList_positional_whole {value : Decimal} (whole : 0 ≤ value.exponent) :
    (value.positional false).toList =
      Nat.toDigits 10 value.digits ++ List.replicate value.exponent.toNat '0' := by
  simp [positional, whole]

/-- The digits of a numeral with a fraction, at least one of them before the point. -/
def padded (value : Decimal) : List Char :=
  List.replicate ((-value.exponent).toNat + 1 - (Nat.toDigits 10 value.digits).length) '0' ++
    Nat.toDigits 10 value.digits

/-- Any other numeral is written with a point before its last digits. -/
theorem toList_positional_fraction {value : Decimal} (fraction : ¬0 ≤ value.exponent) :
    (value.positional false).toList =
      value.padded.take (value.padded.length - (-value.exponent).toNat) ++
        '.' :: value.padded.drop (value.padded.length - (-value.exponent).toNat) := by
  simp [positional, fraction, padded]

/-- Zeros are put in front until there are digits for each place. -/
theorem le_length_padded (value : Decimal) : (-value.exponent).toNat ≤ value.padded.length := by
  rw [padded, List.length_append, List.length_replicate]
  omega

/-- Positional text without a mark stands for the numeral. -/
theorem pointValue_positional (value : Decimal) :
    pointValue (value.positional false).toList = value.toRat := by
  have plain {char : Char} (digit : char.isDigit = true) : char != '.' := by
    rw [bne_iff_ne]
    rintro rfl
    exact absurd digit (by decide)
  by_cases whole : 0 ≤ value.exponent
  · have shown : ∀ char ∈ Nat.toDigits 10 value.digits ++
        List.replicate value.exponent.toNat '0', char != '.' := by
      intro char inside
      exact plain (isDigit_zero_or_mem (List.mem_append.mpr (List.mem_append.mp inside).symm))
    rw [toList_positional_whole whole, pointValue_whole shown, Nat.ofDigitChars_append,
      Nat.ofDigitChars_replicate_zero, Nat.ofDigitChars_ten_toDigits, toRat]
    conv_rhs => rw [← Int.toNat_of_nonneg whole, zpow_natCast]
    push_cast
    ring
  · have shown : ∀ char ∈ value.padded, char != '.' := fun char inside =>
      plain (isDigit_zero_or_mem inside)
    have places : (value.padded.drop (value.padded.length - (-value.exponent).toNat)).length =
        (-value.exponent).toNat := by
      rw [List.length_drop, Nat.sub_sub_self value.le_length_padded]
    have exponent : value.exponent = -((-value.exponent).toNat : Int) := by omega
    rw [toList_positional_fraction whole,
      pointValue_point (fun char inside => shown char (List.mem_of_mem_take inside))
        (fun char inside => shown char (List.mem_of_mem_drop inside)),
      List.take_append_drop, places, padded, Nat.ofDigitChars_append,
      Nat.ofDigitChars_replicate_zero, Nat.mul_zero, Nat.ofDigitChars_ten_toDigits, toRat]
    conv_rhs => rw [exponent, zpow_neg, zpow_natCast]
    rw [div_eq_mul_inv]

/-- A numeral alone has no sign. -/
theorem minus_notMem_positional (value : Decimal) : '-' ∉ (value.positional false).toList := by
  intro inside
  have digit {char : Char} (isDigit : char.isDigit = true) : char ≠ '-' := by
    rintro rfl
    exact absurd isDigit (by decide)
  by_cases whole : 0 ≤ value.exponent
  · rw [toList_positional_whole whole, List.mem_append, Or.comm, ← List.mem_append] at inside
    exact digit (isDigit_zero_or_mem inside) rfl
  · rw [toList_positional_fraction whole, List.mem_append, List.mem_cons] at inside
    rcases inside with before | point | after
    · exact digit (isDigit_zero_or_mem (List.mem_of_mem_take before)) rfl
    · exact absurd point (by decide)
    · exact digit (isDigit_zero_or_mem (List.mem_of_mem_drop after)) rfl

end Decimal

namespace Binary64

/-- The text of a bound is its sign and its shortest numeral. -/
theorem toList_text_bound (value : Binary64) :
    (value.text .bound).toList = (if value.negative then ['-'] else []) ++
      ((value.shortest .up).positional false).toList := by
  rw [text, String.toList_append]
  cases value.negative <;> rfl

/-- The sign of a bound shows in its text. -/
theorem minus_mem_text_bound (value : Binary64) :
    '-' ∈ (value.text .bound).toList ↔ value.negative = true := by
  rw [toList_text_bound, List.mem_append]
  have none := Decimal.minus_notMem_positional (value.shortest .up)
  cases value.negative <;> simp [none]

/-- Bounds with one text are one number. -/
theorem text_bound_injective {left right : Binary64}
    (same : left.text .bound = right.text .bound) : left = right := by
  have negative : left.negative = right.negative := by
    rw [Bool.eq_iff_iff, ← minus_mem_text_bound, ← minus_mem_text_bound, same]
  have chars := congrArg String.toList same
  rw [toList_text_bound, toList_text_bound, negative] at chars
  have numerals := congrArg Decimal.pointValue (List.append_cancel_left chars)
  rw [Decimal.pointValue_positional, Decimal.pointValue_positional] at numerals
  have word := word_eq_of_toRat_shortest numerals
  obtain ⟨leftSign, leftWord, leftRange⟩ := left
  obtain ⟨rightSign, rightWord, rightRange⟩ := right
  obtain rfl : leftSign = rightSign := negative
  obtain rfl : leftWord = rightWord := word
  rfl

end Binary64

end TypedJson
