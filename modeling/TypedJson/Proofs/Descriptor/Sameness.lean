import TypedJson.Proofs.Descriptor.Congruence
import TypedJson.Proofs.Json.Sameness

namespace TypedJson

open Json (Value Number)

namespace Binary64

variable {left right : Binary64}

/-- The two zeros have the same units. -/
theorem signedUnits_eq (same : left.sameValue right = true) :
    left.signedUnits = right.signedUnits := by
  simpa [sameValue] using same

/-- The units without the sign are those of the word. -/
theorem natAbs_signedUnits (value : Binary64) : value.signedUnits.natAbs = value.units := by
  unfold signedUnits
  split <;> simp

theorem isWhole_congr (same : left.sameValue right = true) : left.isWhole = right.isWhole := by
  rw [isWhole, isWhole, ← natAbs_signedUnits, ← natAbs_signedUnits, signedUnits_eq same]

end Binary64

theorem Json.Number.isWhole_congr {first second : Number} (same : first.same second = true) :
    first.isWhole = second.isWhole := by
  cases first <;> cases second <;> simp_all [Number.same, Number.isWhole]
  exact Binary64.isWhole_congr same

/-- No value is told from an equal one by a constraint. -/
theorem Constraint.holds_congr (constraint : Constraint) {value other : Value}
    (same : value.same other = true) : constraint.holds value = constraint.holds other := by
  cases value with
  | null => rw [Value.same_null_iff.mp same]
  | boolean value => rw [Value.same_boolean_iff.mp same]
  | string value => rw [Value.same_string_iff.mp same]
  | number number =>
      obtain ⟨found, rfl, here⟩ := Value.same_number_iff.mp same
      have units := Binary64.signedUnits_eq (Number.sameValue_toBinary64 here)
      have whole := Number.isWhole_congr here
      cases constraint <;>
        simp [holds, numberPasses, Value.number?, Value.string?, Value.items?, whole,
          Binary64.le_iff, Binary64.lt_iff, units]
  | array items =>
      obtain ⟨others, rfl, all⟩ := Value.same_array_iff.mp same
      cases constraint <;>
        simp [holds, numberPasses, Value.number?, Value.string?, Value.items?, all.length_eq]
  | object members =>
      obtain ⟨others, rfl, -, -⟩ := Value.same_object_iff.mp same
      cases constraint <;> rfl

theorem Constraints.hold_congr (constraints : Constraints) {value other : Value}
    (same : value.same other = true) : constraints.hold value = constraints.hold other := by
  unfold hold
  simp only [fun constraint => Constraint.holds_congr constraint same]

theorem Primitive.accepts_congr (kind : Primitive) {value other : Value}
    (same : value.same other = true) : kind.accepts value = kind.accepts other := by
  have whole := Constraint.integral.holds_congr same
  cases kind <;> cases value <;> cases other <;> first | exact whole | rfl | simp [Value.same] at same

theorem Json.Value.isNull_congr {value other : Value} (same : value.same other = true) :
    value.isNull = other.isNull := by
  cases value <;> cases other <;> first | rfl | simp [Value.same] at same

/-- Equal values of which the first repeats no key of an object; then neither does the second. -/
structure Json.Value.Equal (value other : Value) : Prop where
  distinct : value.keysDistinct = true
  same : value.same other = true

/-- A closed set has both of two equal values or none. -/
theorem Choice.contains_congr (choices : List Choice) {value other : Value}
    (equal : value.Equal other) : contains choices value = contains choices other := by
  have back := Value.same_symm equal.distinct equal.same
  unfold contains
  congr 1
  funext choice
  rw [Bool.eq_iff_iff]
  exact ⟨fun here => Value.same_trans here equal.same, fun here => Value.same_trans here back⟩

namespace Json.Value.Equal

variable {value other : Value}

/-- Two arrays with equal items, or no arrays. -/
theorem items? (equal : value.Equal other) :
    (∃ items others, value.items? = some items ∧ other.items? = some others ∧
      List.Forall₂ Equal items others) ∨ value.items? = none ∧ other.items? = none := by
  obtain ⟨distinct, same⟩ := equal
  cases value with
  | array items =>
      obtain ⟨others, rfl, all⟩ := same_array_iff.mp same
      have known := keysDistinctItems_iff.mp (by simpa [keysDistinct] using distinct)
      refine .inl ⟨items, others, rfl, rfl, ?_⟩
      clear distinct same
      induction all with
      | nil => exact .nil
      | cons here rest ih =>
          rw [List.forall_mem_cons] at known
          exact .cons ⟨known.1, here⟩ (ih known.2)
  | _ => cases other <;> first | exact .inr ⟨rfl, rfl⟩ | simp [Value.same] at same

/-- Two objects with equal members under each key, be they absent or not, or no objects. -/
theorem members? (equal : value.Equal other) :
    (∃ members others, value.members? = some members ∧ other.members? = some others ∧
      ∀ key, (Descriptor.memberOrNull members key).Equal (Descriptor.memberOrNull others key)) ∨
        value.members? = none ∧ other.members? = none := by
  obtain ⟨distinct, same⟩ := equal
  cases value with
  | object members =>
      obtain ⟨others, rfl, length, found⟩ := same_object_iff.mp same
      have perm := keys_perm (nodup_of_keysDistinct distinct) length found
      refine .inl ⟨members, others, rfl, rfl, fun key => ?_⟩
      unfold Descriptor.memberOrNull
      cases here : members.lookup key with
      | some item =>
          have inside := mem_of_lookup here
          obtain ⟨item', there, equal⟩ := found _ inside
          rw [there]
          exact ⟨member_keysDistinct distinct _ inside, equal⟩
      | none =>
          have absent : others.lookup key = none := by
            rw [List.lookup_eq_none_iff] at here ⊢
            intro member inside
            have known := perm.symm.subset (List.mem_map_of_mem inside)
            obtain ⟨old, there, named⟩ := List.mem_map.mp known
            exact named ▸ here old there
          rw [absent]
          exact ⟨rfl, rfl⟩
  | _ => cases other <;> first | exact .inr ⟨rfl, rfl⟩ | simp [Value.same] at same

end Json.Value.Equal

/-- Violations of the same type at the same place, where equal values were found. -/
structure Violation.Same (one other : Violation) : Prop where
  path : one.path = other.path
  expected : one.expected = other.expected
  actual : one.actual.same other.actual = true

/-- The same violations are the same below a place. -/
theorem Violation.Same.below {one other : Violation} (same : one.Same other)
    (pointer : Json.Pointer) : (one.below pointer).Same (other.below pointer) :=
  ⟨by rw [Violation.below, Violation.below, same.path], same.expected, same.actual⟩

namespace Descriptor

/-- Equal values compared: what is reported of them differs in the order of members only. -/
def equalValues : Comparison where
  related := Value.Equal
  like := Violation.Same
  known _ := True
  settled _ := True
  rejection _ _ _ equal := ⟨rfl, rfl, equal.same⟩
  below pointer _ _ same := same.below pointer
  isNull equal := Value.isNull_congr equal.same
  primitive kind _ _ equal := kind.accepts_congr equal.same
  constraints constraints _ _ equal := constraints.hold_congr equal.same
  contains _ equal := Choice.contains_congr _ equal
  items? equal := equal.items?
  members? equal := by
    obtain ⟨members, others, here, there, member⟩ | missing := equal.members?
    · exact .inl ⟨members, others, here, there, fun key _ => member key⟩
    · exact .inr missing

/-- The comparison of equal values covers every type. -/
theorem equalValues_covers (type : Descriptor) : equalValues.Covers type :=
  ⟨fun _ _ _ _ _ => trivial, fun _ _ => trivial⟩

/--
Equal values are both accepted, or both refused with the same violations: position by position the
same place and the same expected type, and equal values found.
-/
theorem accepts_and_validate_congr (descriptor : Descriptor) {value other : Value}
    (distinct : value.keysDistinct = true) (same : value.same other = true) :
    descriptor.accepts value = descriptor.accepts other ∧
      ((descriptor.validate value = .ok () ∧ descriptor.validate other = .ok ()) ∨
        ∃ found others, descriptor.validate value = .error found ∧
          descriptor.validate other = .error others ∧ List.Forall₂ Violation.Same found others) := by
  have agrees := Comparison.agrees (equalValues_covers descriptor)
  have equal : value.Equal other := ⟨distinct, same⟩
  refine ⟨agrees.accepts equal, ?_⟩
  have reports : List.Forall₂ Violation.Same _ _ := agrees equal
  unfold validate
  generalize descriptor.report value = found at reports
  generalize descriptor.report other = others at reports
  cases reports with
  | nil => exact .inl ⟨rfl, rfl⟩
  | cons here rest => exact .inr ⟨_, _, rfl, rfl, .cons here rest⟩

/-- A record whose members are written in one order, with one zero. -/
def firstRecord : Value :=
  .object [("name", .number (.float default)), ("tags", .array [.null])]

/-- The same record in the other order, with the other zero. -/
def secondRecord : Value :=
  .object [("tags", .array [.null]), ("name", .number (.float (Binary64.negate default)))]

/-- A record of a name and some marks. -/
def recordType : Descriptor :=
  .struct none [⟨"name", .primitive .string, false⟩, ⟨"tags", .list (.primitive .boolean), false⟩]

/-- Two records with other orders of members and other zeros are reported alike. -/
theorem accepts_and_validate_congr_records :
    firstRecord.keysDistinct = true ∧ firstRecord.same secondRecord = true ∧
      recordType.accepts firstRecord = recordType.accepts secondRecord ∧
        ((recordType.validate firstRecord = .ok () ∧ recordType.validate secondRecord = .ok ()) ∨
          ∃ found others, recordType.validate firstRecord = .error found ∧
            recordType.validate secondRecord = .error others ∧
              List.Forall₂ Violation.Same found others) := by
  have distinct : firstRecord.keysDistinct = true := by decide +kernel
  have same : firstRecord.same secondRecord = true := by decide +kernel
  exact ⟨distinct, same, accepts_and_validate_congr recordType distinct same⟩

end Descriptor

end TypedJson
