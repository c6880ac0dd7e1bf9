import TypedJson.Proofs.Binary64.Nearest
import TypedJson.Proofs.Binary64.Shortest
import TypedJson.Schema.Node

namespace TypedJson

open Json (Value)

namespace Binary64

/-- A number is zero if it has no units. -/
theorem isZero_iff (value : Binary64) : value.isZero = true ↔ value.units = 0 := by
  rw [isZero, beq_iff_eq, units_eq]
  constructor
  · intro zero
    rw [zero]
    rfl
  · intro none
    by_contra notZero
    exact (unitsAt_pos (Nat.pos_of_ne_zero notZero)).ne' none

/-- A number has the units of a natural number exactly if it is whole and has that whole part. -/
theorem units_eq_iff (value : Binary64) (count : Nat) :
    value.units = count * one ↔ value.isWhole = true ∧ value.wholePart = count := by
  rw [isWhole, beq_iff_eq, wholePart]
  constructor
  · intro same
    rw [same]
    exact ⟨Nat.mul_mod_left _ _, Nat.mul_div_left _ one_pos⟩
  · rintro ⟨whole, rfl⟩
    exact (Nat.div_mul_cancel (Nat.dvd_of_mod_eq_zero whole)).symm

/-- The value of a number is a natural number if the number is whole and not below zero. -/
theorem toRat_eq_natCast_iff (value : Binary64) (count : Nat) :
    value.toRat = count ↔
      (value.negative && !value.isZero) = false ∧ value.isWhole = true ∧
        value.wholePart = count := by
  have divisor : (one : ℚ) ≠ 0 := Nat.cast_ne_zero.mpr one_pos.ne'
  have scaled : value.toRat = count ↔ value.signedUnits = (count * one : Nat) := by
    rw [toRat, div_eq_iff divisor]
    exact_mod_cast Iff.rfl
  rw [scaled, ← units_eq_iff, signedUnits]
  by_cases negative : value.negative = true
  · rw [if_pos negative, negative, Bool.true_and, Bool.not_eq_false', isZero_iff]
    constructor
    · intro same
      have zero : value.units = 0 := by omega
      exact ⟨zero, by omega⟩
    · rintro ⟨zero, same⟩
      omega
  · rw [if_neg negative, Bool.eq_false_iff.mpr negative, Bool.false_and, Int.natCast_inj]
    exact (and_iff_right rfl).symm

end Binary64

/-- The value of a JSON number. -/
def Json.Number.toRat : Json.Number → ℚ
  | integer value _ => value
  | float value => value.toRat

namespace Schema.Node

open Json (Number)

/-- A number that is a natural number of 64 bits. -/
def CountsAs (number : Number) (count : Nat) : Prop :=
  number.toRat = count ∧ count ≤ 18446744073709551615

/-- The number one past the greatest count, which is read as the greatest count. -/
def IsCutTo (number : Number) (count : Nat) : Prop :=
  number.toRat = 18446744073709551616 ∧ count = 18446744073709551615

/-- An integer gives the count that it is. -/
theorem countOf?_integer {value : Int}
    (inRange : -0x8000000000000000 ≤ value ∧ value < 0x10000000000000000) (count : Nat) :
    countOf? (.integer value inRange) = some count ↔
      CountsAs (.integer value inRange) count ∨ IsCutTo (.integer value inRange) count := by
  have counts : CountsAs (.integer value inRange) count ↔ value = count := by
    have below : value = count → count ≤ 18446744073709551615 := by omega
    rw [CountsAs, Number.toRat]
    norm_cast
    exact and_iff_left_of_imp below
  have noCut : ¬IsCutTo (.integer value inRange) count := by
    rintro ⟨same, -⟩
    rw [Number.toRat] at same
    norm_cast at same
    omega
  rw [counts, or_iff_left noCut, countOf?]
  split
  · rw [Option.some.injEq]
    omega
  · rename_i negative
    simp only [reduceCtorEq, false_iff]
    omega

/-- A floating number gives the count that it is, or the greatest one for 2^64. -/
theorem countOf?_float (value : Binary64) (count : Nat) :
    countOf? (.float value) = some count ↔
      CountsAs (.float value) count ∨ IsCutTo (.float value) count := by
  have exact := value.toRat_eq_natCast_iff count
  have beyond := value.toRat_eq_natCast_iff 18446744073709551616
  rw [Nat.cast_ofNat] at beyond
  rw [CountsAs, IsCutTo, Number.toRat, exact, beyond, countOf?]
  have limit : countLimit = 18446744073709551615 := rfl
  rw [limit]
  by_cases negative : (value.negative && !value.isZero) = true
  · simp [negative]
  · rw [Bool.not_eq_true] at negative
    by_cases whole : value.isWhole = true
    · simp only [negative, whole, Bool.false_or, Bool.not_true, true_and, decide_eq_true_eq]
      split
      · simp only [reduceCtorEq, false_iff]
        omega
      · rw [Option.some.injEq]
        omega
    · simp [negative, whole]

/-- A number gives the count that it is, or the greatest one if it is cut to it. -/
theorem countOf?_eq_some_iff (number : Number) (count : Nat) :
    countOf? number = some count ↔ CountsAs number count ∨ IsCutTo number count := by
  cases number with
  | integer value inRange => exact countOf?_integer inRange count
  | float value => exact countOf?_float value count

/-- The count in the value of a keyword. -/
theorem number?_bind_countOf? (value : Value) (count : Nat) :
    value.number?.bind countOf? = some count ↔
      ∃ number, value = .number number ∧ (CountsAs number count ∨ IsCutTo number count) := by
  cases value with
  | number number => simp [Value.number?, countOf?_eq_some_iff]
  | _ => simp [Value.number?]

/-- A keyword has a count if its value is a number that gives it. -/
theorem count_eq_some_iff (node : Node) (keyword : String) (count : Nat) :
    node.count keyword = .ok (some count) ↔
      ∃ value, node.get? keyword = some value ∧ value.number?.bind countOf? = some count := by
  rw [Node.count]
  cases node.get? keyword with
  | none => simp
  | some value => cases found : value.number?.bind countOf? <;> simp [found]

/-- A keyword has no count if it is absent. -/
theorem count_eq_none_iff (node : Node) (keyword : String) :
    node.count keyword = .ok none ↔ node.get? keyword = none := by
  rw [Node.count]
  cases node.get? keyword with
  | none => simp
  | some value => cases found : value.number?.bind countOf? <;> simp [found]

/-- A keyword fails as a count if its value gives none. -/
theorem count_eq_error_iff (node : Node) (keyword : String) (error : Error) :
    node.count keyword = .error error ↔
      error = .badKeyword keyword .count ∧
        ∃ value, node.get? keyword = some value ∧ value.number?.bind countOf? = none := by
  rw [Node.count]
  cases node.get? keyword with
  | none => simp
  | some value => cases found : value.number?.bind countOf? <;> simp [found, eq_comm]

/--
A count is read from a number that is one, or that is one too many; nothing is read if the keyword is
missing; all else is a fault of the keyword.
-/
theorem count_iff_countsAs (node : Node) (keyword : String) :
    (∀ count, node.count keyword = .ok (some count) ↔
      ∃ number, node.get? keyword = some (.number number) ∧
        (CountsAs number count ∨ IsCutTo number count)) ∧
    (node.count keyword = .ok none ↔ node.get? keyword = none) ∧
    (∀ error, node.count keyword = .error error ↔
      error = .badKeyword keyword .count ∧ ∃ value, node.get? keyword = some value ∧
        ∀ number, value = .number number → ∀ count, ¬CountsAs number count ∧ ¬IsCutTo number count) := by
  refine ⟨fun count => ?_, count_eq_none_iff node keyword, fun error => ?_⟩
  · rw [count_eq_some_iff]
    constructor
    · rintro ⟨value, given, read⟩
      obtain ⟨number, rfl, counts⟩ := (number?_bind_countOf? value count).mp read
      exact ⟨number, given, counts⟩
    · rintro ⟨number, given, counts⟩
      exact ⟨.number number, given, (number?_bind_countOf? _ count).mpr ⟨number, rfl, counts⟩⟩
  · rw [count_eq_error_iff]
    refine and_congr_right fun _ => exists_congr fun value => and_congr_right fun _ => ?_
    rw [Option.eq_none_iff_forall_ne_some]
    constructor
    · intro missed number isNumber count
      rw [← not_or]
      exact fun counts =>
        missed count ((number?_bind_countOf? value count).mpr ⟨number, isNumber, counts⟩)
    · intro noCount count read
      obtain ⟨number, isNumber, counts⟩ := (number?_bind_countOf? value count).mp read
      exact not_or.mpr (noCount number isNumber count) counts

/-- The number 2^64 is no count, and is read as the count before it. -/
theorem count_of_two_pow_64 :
    let number : Number := .float ⟨false, 0x43F0000000000000, by decide⟩
    let node : Node := ⟨[("minLength", .number number)]⟩
    number.toRat = 18446744073709551616 ∧
      node.count "minLength" = .ok (some 18446744073709551615) ∧
      ¬∃ count, CountsAs number count := by
  intro number node
  have value : number.toRat = (18446744073709551616 : Nat) :=
    (Binary64.toRat_eq_natCast_iff _ _).mpr ⟨by decide, by decide, by decide⟩
  refine ⟨by exact_mod_cast value, by rfl, ?_⟩
  rintro ⟨count, same, inRange⟩
  rw [value] at same
  norm_cast at same
  omega

end Schema.Node

end TypedJson
