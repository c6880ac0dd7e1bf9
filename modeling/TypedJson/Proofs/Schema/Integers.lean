import TypedJson.Proofs.Schema.Count
import TypedJson.Proofs.Schema.Names
import TypedJson.Proofs.Schema.Satisfies

namespace TypedJson

open Json (Value setMember lookup_setMember lookup_setMember_of_ne)

namespace Binary64

/-- A number has the value zero if it has no units. -/
theorem toRat_eq_zero_iff (value : Binary64) : value.toRat = 0 ↔ value.signedUnits = 0 := by
  have divisor : (one : ℚ) ≠ 0 := Nat.cast_ne_zero.mpr one_pos.ne'
  rw [toRat, div_eq_zero_iff, or_iff_left divisor, Int.cast_eq_zero]

/-- Both zeros have the value zero and no other number has. -/
theorem isZero_iff_toRat (value : Binary64) : value.isZero = true ↔ value.toRat = 0 := by
  rw [isZero_iff, toRat_eq_zero_iff, signedUnits]
  split <;> omega

end Binary64

/-- The nearest float of a number is zero only for zero itself. -/
theorem Json.Number.isZero_toBinary64_iff (number : Json.Number) :
    number.toBinary64.isZero = true ↔ number.toRat = 0 := by
  cases number with
  | float value => exact value.isZero_iff_toRat
  | integer value inRange =>
      have zero : (Binary64.ofInt 0).signedUnits = 0 := Binary64.signedUnits_ofInt_exact (by decide)
      rw [toBinary64, toRat, Int.cast_eq_zero, Binary64.isZero_iff_toRat,
        Binary64.toRat_eq_zero_iff]
      constructor
      · intro rounded
        have merged : Binary64.Indistinct 0 value :=
          (Binary64.indistinct_iff 0 value).mpr (zero.trans rounded.symm)
        exact (merged.eq_of_lt (by decide) (by omega)).symm
      · rintro rfl
        exact zero

namespace Schema

/-- The values that a flag counts as false: nothing, a plain no, zero, and the empty text. -/
@[mk_iff]
inductive LooselyFalse : Value → Prop
  | null : LooselyFalse .null
  | no : LooselyFalse (.boolean false)
  | zero {number : Json.Number} (isZero : number.toRat = 0) : LooselyFalse (.number number)
  | empty : LooselyFalse (.string "")

/-- A flag is set unless its value counts as false. -/
theorem flag_eq_true_iff {node : Node} {keyword : String} {value : Value}
    (given : node.get? keyword = some value) :
    node.flag keyword = true ↔ ¬LooselyFalse value := by
  rw [Node.flag, given, looselyFalse_iff]
  cases value with
  | number number => simp [← Json.Number.isZero_toBinary64_iff]
  | _ => simp

/-- Whether a number is whole may be asked before its constraints or after them. -/
theorem accepts_integer_eq (constraints : List Constraint) (value : Value) :
    ((Descriptor.primitive .integer).refine constraints).accepts value =
      ((Descriptor.primitive .number).refine (constraints ++ [.integral])).accepts value := by
  rw [Bool.eq_iff_iff, accepts_refine, accepts_refine, List.forall_mem_append]
  cases value with
  | number number =>
      simp [Descriptor.accepts, Primitive.accepts, Value.number?, Constraint.holds, and_comm]
  | _ => simp [Descriptor.accepts, Primitive.accepts, Value.number?, Constraint.holds]

section

variable {registry : Registry} {members : List (String × Value)} {flag : Value}

/-- The type `integer` is the primitive type of integers with the bounds of the node. -/
theorem compile_integer (registry : Registry) (members : List (String × Value)) :
    compile registry (alone members "integer") =
      (bounds ⟨members⟩).map fun constraints =>
        (Descriptor.primitive .integer).refine constraints := by
  have named := compile_alone_kind registry members .integer
  rw [show "integer" = Kind.integer.name from rfl, named]
  rfl

/-- The type `number` with the keyword `integer` is that of numbers with the bounds of the node and
a constraint to integers behind them. -/
theorem compile_flagged_number (registry : Registry) (members : List (String × Value))
    (truthy : ¬LooselyFalse flag) :
    compile registry (alone (setMember "integer" flag members) "number") =
      (bounds ⟨members⟩).map fun constraints =>
        (Descriptor.primitive .number).refine (constraints ++ [.integral]) := by
  have named := compile_alone_kind registry (setMember "integer" flag members) .number
  have set : Node.flag ⟨setMember "integer" flag members⟩ "integer" = true :=
    (flag_eq_true_iff (lookup_setMember _ _ _)).mpr truthy
  have sameBounds : bounds ⟨setMember "integer" flag members⟩ = bounds ⟨members⟩ := by
    apply bounds_congr
    intro keyword inside
    apply lookup_setMember_of_ne
    rintro rfl
    exact absurd inside (by decide)
  rw [show "number" = Kind.number.name from rfl, named]
  change numberType ⟨setMember "integer" flag members⟩ = _
  rw [numberType, sameBounds, set]
  rfl

end

/--
A node of the type `integer` and the same node of the type `number` with a flag that asks for
integers fail alike, or both compile and accept the same values.
-/
theorem integer_agrees_with_flagged_number (registry : Registry) (members : List (String × Value))
    {flag : Value} (truthy : ¬LooselyFalse flag) :
    let integer := alone members "integer"
    let number := alone (setMember "integer" flag members) "number"
    (∀ error, compile registry integer = .error error ↔ compile registry number = .error error) ∧
      ((∃ type, compile registry integer = .ok type) ↔
        ∃ type, compile registry number = .ok type) ∧
      ∀ type other, compile registry integer = .ok type → compile registry number = .ok other →
        ∀ value, type.accepts value = other.accepts value := by
  intro integer number
  have first := compile_integer registry members
  have second := compile_flagged_number registry members truthy
  cases made : bounds ⟨members⟩ with
  | error failure =>
      rw [made] at first second
      simp [integer, number, first, second, Except.map]
  | ok constraints =>
      rw [made] at first second
      refine ⟨by simp [integer, number, first, second, Except.map],
        by simp [integer, number, first, second, Except.map], ?_⟩
      intro type other compiled compiledOther value
      obtain rfl := Except.ok.inj (first.symm.trans compiled)
      obtain rfl := Except.ok.inj (second.symm.trans compiledOther)
      exact accepts_integer_eq constraints value

/-- A port of at least 1 that says it need not be an integer, and one whose flag is a text. -/
theorem integer_agrees_with_flagged_number_port :
    let port := [("minimum", Value.number (.integer 1 (by decide))), ("integer", .boolean false)]
    let integer := alone port "integer"
    let number := alone (setMember "integer" (.string "yes") port) "number"
    ∃ type other, compile .empty integer = .ok type ∧ compile .empty number = .ok other ∧
      ∀ value, type.accepts value = other.accepts value := by
  intro port integer number
  have truthy : ¬LooselyFalse (.string "yes") := by simp [looselyFalse_iff]
  obtain ⟨-, -, same⟩ := integer_agrees_with_flagged_number .empty port truthy
  exact ⟨_, _, rfl, rfl, same _ _ rfl rfl⟩

end Schema

end TypedJson
