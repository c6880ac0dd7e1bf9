import Mathlib.Data.List.Perm.Subperm
import TypedJson.Proofs.Json.Members

namespace TypedJson.Json

/-- Being the same number is handed on. -/
theorem Number.same_trans {first second third : Number} (one : first.same second = true)
    (two : second.same third = true) : first.same third = true := by
  cases first <;> cases second <;> cases third <;>
    simp_all [Number.same, Binary64.sameValue]

/-- Equal numbers have equal nearest binary64 numbers. -/
theorem Number.sameValue_toBinary64 {first second : Number} (same : first.same second = true) :
    first.toBinary64.sameValue second.toBinary64 = true := by
  cases first <;> cases second <;> simp_all [Number.same, Number.toBinary64, Binary64.sameValue]

namespace Value

attribute [local simp] same sameItems sameMembers keysDistinct keysDistinctItems keysDistinctMembers

/-- Values are finite trees, so a property of all parts that passes to the whole holds. -/
@[elab_as_elim]
theorem induction {motive : Value → Prop} (null : motive .null)
    (boolean : ∀ value, motive (.boolean value)) (number : ∀ value, motive (.number value))
    (string : ∀ value, motive (.string value))
    (array : ∀ items, (∀ item ∈ items, motive item) → motive (.array items))
    (object : ∀ members, (∀ member ∈ members, motive member.2) → motive (.object members)) :
    ∀ value, motive value
  | .null => null
  | .boolean value => boolean value
  | .number value => number value
  | .string value => string value
  | .array items =>
      array items fun item _ => induction null boolean number string array object item
  | .object members =>
      object members fun member _ => induction null boolean number string array object member.2
termination_by value => sizeOf value
decreasing_by
  · have inside := List.sizeOf_lt_of_mem ‹item ∈ items›
    rw [Value.array.sizeOf_spec]
    omega
  · have inside := List.sizeOf_lt_of_mem ‹member ∈ members›
    have part : sizeOf member.2 < sizeOf member := by
      show sizeOf member.2 < 1 + sizeOf member.1 + sizeOf member.2
      omega
    rw [Value.object.sizeOf_spec]
    omega

/-- Lists are the same if their items are. -/
theorem sameItems_iff {left right : List Value} :
    sameItems left right = true ↔ List.Forall₂ (fun one other => one.same other = true) left right := by
  induction left generalizing right with
  | nil => cases right <;> simp
  | cons item rest ih => cases right <;> simp [ih]

/-- Each member has an equal one under its key. -/
theorem sameMembers_iff {left right : List (String × Value)} :
    sameMembers left right = true ↔
      ∀ member ∈ left, ∃ item, right.lookup member.1 = some item ∧ member.2.same item = true := by
  induction left with
  | nil => simp
  | cons member rest ih =>
      obtain ⟨key, item⟩ := member
      rw [sameMembers, Bool.and_eq_true, ih, List.forall_mem_cons]
      cases right.lookup key <;> simp

/-- Keys are distinct in items if they are in each. -/
theorem keysDistinctItems_iff {items : List Value} :
    keysDistinctItems items = true ↔ ∀ item ∈ items, item.keysDistinct = true := by
  induction items with
  | nil => simp
  | cons item rest ih => simp [ih]

/-- Keys are distinct in members if they are in each. -/
theorem keysDistinctMembers_iff {members : List (String × Value)} :
    keysDistinctMembers members = true ↔ ∀ member ∈ members, member.2.keysDistinct = true := by
  induction members with
  | nil => simp
  | cons member rest ih => simp [ih]

/-- Keys are distinct in a list if they are in each item. -/
theorem array_keysDistinct_iff {items : List Value} :
    (array items).keysDistinct = true ↔ ∀ item ∈ items, item.keysDistinct = true := by
  rw [keysDistinct, keysDistinctItems_iff]

/-- Keys are distinct in an object if its own are and those in each member. -/
theorem object_keysDistinct_iff {members : List (String × Value)} :
    (object members).keysDistinct = true ↔
      (members.map Prod.fst).Nodup ∧ ∀ member ∈ members, member.2.keysDistinct = true := by
  rw [keysDistinct, Bool.and_eq_true, beq_iff_eq, keysDistinctMembers_iff,
    ← length_eraseDups_eq_iff, List.length_map]

/-- The keys of an object are distinct. -/
theorem nodup_of_keysDistinct {members : List (String × Value)}
    (distinct : (object members).keysDistinct = true) : (members.map Prod.fst).Nodup :=
  (object_keysDistinct_iff.mp distinct).1

/-- Keys are distinct in each member. -/
theorem member_keysDistinct {members : List (String × Value)}
    (distinct : (object members).keysDistinct = true) :
    ∀ member ∈ members, member.2.keysDistinct = true :=
  (object_keysDistinct_iff.mp distinct).2

section

variable {other : Value}

/-- Only null is the same as null. -/
theorem same_null_iff : null.same other = true ↔ null = other := by
  cases other <;> simp

/-- Only the same truth value is the same. -/
theorem same_boolean_iff {value : Bool} :
    (boolean value).same other = true ↔ boolean value = other := by
  cases other <;> simp

/-- Only the same numbers are the same. -/
theorem same_number_iff {value : Number} :
    (number value).same other = true ↔ ∃ found, other = number found ∧ value.same found = true := by
  cases other <;> simp

/-- Only the same text is the same. -/
theorem same_string_iff {value : String} :
    (string value).same other = true ↔ string value = other := by
  cases other <;> simp

/-- Only lists with the same items are the same. -/
theorem same_array_iff {items : List Value} :
    (array items).same other = true ↔
      ∃ others, other = array others ∧
        List.Forall₂ (fun one other => one.same other = true) items others := by
  cases other <;> simp [sameItems_iff]

/-- Only objects with the same members, in any order, are the same. -/
theorem same_object_iff {members : List (String × Value)} :
    (object members).same other = true ↔
      ∃ others, other = object others ∧ members.length = others.length ∧
        ∀ member ∈ members, ∃ item, others.lookup member.1 = some item ∧
          member.2.same item = true := by
  cases other <;> simp [sameMembers_iff]

end

/-- Sameness is handed on. -/
theorem same_trans {first second third : Value} (one : first.same second = true)
    (two : second.same third = true) : first.same third = true := by
  induction first using Value.induction generalizing second third with
  | null =>
      obtain rfl := same_null_iff.mp one
      exact two
  | boolean value =>
      obtain rfl := same_boolean_iff.mp one
      exact two
  | number value =>
      obtain ⟨found, rfl, same⟩ := same_number_iff.mp one
      obtain ⟨last, rfl, same'⟩ := same_number_iff.mp two
      exact same_number_iff.mpr ⟨last, rfl, Number.same_trans same same'⟩
  | string value =>
      obtain rfl := same_string_iff.mp one
      exact two
  | array items ih =>
      obtain ⟨others, rfl, all⟩ := same_array_iff.mp one
      obtain ⟨last, rfl, all'⟩ := same_array_iff.mp two
      refine same_array_iff.mpr ⟨last, rfl, ?_⟩
      clear one two
      induction all generalizing last with
      | nil => exact all'
      | cons here rest restIh =>
          rw [List.forall_mem_cons] at ih
          cases all' with
          | cons here' rest' => exact .cons (ih.1 here here') (restIh ih.2 _ rest')
  | object members ih =>
      obtain ⟨others, rfl, length, found⟩ := same_object_iff.mp one
      obtain ⟨last, rfl, length', found'⟩ := same_object_iff.mp two
      refine same_object_iff.mpr ⟨last, rfl, length.trans length', fun member inside => ?_⟩
      obtain ⟨item, here, same⟩ := found member inside
      obtain ⟨item', here', same'⟩ := found' _ (mem_of_lookup here)
      exact ⟨item', here', ih member inside same same'⟩

/-- Members with equal ones under their keys, as many as there are, are all the members. -/
theorem keys_perm {members others : List (String × Value)}
    (distinct : (members.map Prod.fst).Nodup) (length : members.length = others.length)
    (found : ∀ member ∈ members, ∃ item, others.lookup member.1 = some item ∧
      member.2.same item = true) : (members.map Prod.fst).Perm (others.map Prod.fst) := by
  have within : members.map Prod.fst ⊆ others.map Prod.fst := by
    intro key inside
    obtain ⟨member, here, rfl⟩ := List.mem_map.mp inside
    obtain ⟨item, there, -⟩ := found member here
    exact List.mem_map.mpr ⟨_, mem_of_lookup there, rfl⟩
  apply (distinct.subperm within).perm_of_length_le
  simp [length]

/-- Equality is symmetric where the value on the left repeats no key of an object. -/
theorem same_symm {first second : Value} (distinct : first.keysDistinct = true)
    (same : first.same second = true) : second.same first = true := by
  induction first using Value.induction generalizing second with
  | null =>
      obtain rfl := same_null_iff.mp same
      exact same
  | boolean value =>
      obtain rfl := same_boolean_iff.mp same
      exact same
  | number value =>
      obtain ⟨found, rfl, here⟩ := same_number_iff.mp same
      exact same_number_iff.mpr ⟨value, rfl, Number.same_comm value found ▸ here⟩
  | string value =>
      obtain rfl := same_string_iff.mp same
      exact same
  | array items ih =>
      obtain ⟨others, rfl, all⟩ := same_array_iff.mp same
      have known := keysDistinctItems_iff.mp (by simpa [keysDistinct] using distinct)
      refine same_array_iff.mpr ⟨items, rfl, ?_⟩
      clear distinct same
      induction all with
      | nil => exact .nil
      | cons here rest restIh =>
          rw [List.forall_mem_cons] at ih known
          exact .cons (ih.1 known.1 here) (restIh ih.2 known.2)
  | object members ih =>
      obtain ⟨others, rfl, length, found⟩ := same_object_iff.mp same
      have keys := nodup_of_keysDistinct distinct
      have perm := keys_perm keys length found
      refine same_object_iff.mpr ⟨members, rfl, length.symm, fun member inside => ?_⟩
      obtain ⟨old, here, named⟩ :=
        List.mem_map.mp (perm.symm.subset (List.mem_map_of_mem inside))
      obtain ⟨item, there, equal⟩ := found old here
      have again : others.lookup member.1 = some member.2 :=
        (lookup_eq_some_iff (perm.nodup_iff.mp keys)).mpr inside
      rw [named, again, Option.some.injEq] at there
      subst there
      refine ⟨old.2, (lookup_eq_some_iff keys).mpr (named ▸ here), ?_⟩
      exact ih old here (member_keysDistinct distinct old here) equal

end Value

end TypedJson.Json
