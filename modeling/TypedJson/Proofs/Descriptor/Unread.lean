import Mathlib.Logic.Relation
import TypedJson.Proofs.Descriptor.Congruence
import TypedJson.Proofs.Json.Sameness
import TypedJson.Proofs.Result

namespace TypedJson

open Json (Value Pointer)

namespace Json.Value

/-- An object stands somewhere in the value. -/
inductive HasObject : Value → Prop
  | whole (members : List (String × Value)) : HasObject (object members)
  | item {items : List Value} {item : Value} (given : item ∈ items) (inside : HasObject item) :
      HasObject (array items)

/-- What equals a value with an object in it has an object in it. -/
theorem hasObject_of_same {value other : Value} (same : value.same other = true)
    (inside : other.HasObject) : value.HasObject := by
  induction inside generalizing value with
  | whole members => cases value <;> first | exact .whole _ | simp [Value.same] at same
  | @item others other given inside ih =>
      cases value with
      | array items =>
          obtain ⟨_, found, all⟩ := same_array_iff.mp same
          obtain rfl := Value.array.inj found
          obtain ⟨item, here, sameItem⟩ := exists_left_of_forall₂ all given
          exact .item here (ih sameItem)
      | _ => simp [Value.same] at same

/-- Keys are distinct in a list if they are in one item and in the others. -/
theorem array_keysDistinct_middle {before after : List Value} {item : Value} :
    (array (before ++ item :: after)).keysDistinct = true ↔
      (array (before ++ after)).keysDistinct = true ∧ item.keysDistinct = true := by
  have moved : (before ++ item :: after).Perm (item :: (before ++ after)) := List.perm_middle
  simp only [array_keysDistinct_iff, moved.mem_iff, List.forall_mem_cons, and_comm]

/-- Keys are distinct in an object if one is fresh and they are in its member and in the others. -/
theorem object_keysDistinct_middle {before after : List (String × Value)} {key : String}
    {item : Value} : (object (before ++ (key, item) :: after)).keysDistinct = true ↔
      (object (before ++ after)).keysDistinct = true ∧ key ∉ (before ++ after).map Prod.fst ∧
        item.keysDistinct = true := by
  have moved : (before ++ (key, item) :: after).Perm ((key, item) :: (before ++ after)) :=
    List.perm_middle
  rw [object_keysDistinct_iff, object_keysDistinct_iff, (moved.map Prod.fst).nodup_iff,
    List.map_cons, List.nodup_cons]
  simp only [moved.mem_iff, List.forall_mem_cons]
  tauto

/-- One change to members that count as absent: they are null or under a free key. -/
inductive Reshaped (free : String → Prop) : Value → Value → Prop
  | dropNull (before after : List (String × Value)) (key : String) :
      Reshaped free (object (before ++ (key, null) :: after)) (object (before ++ after))
  | drop (before after : List (String × Value)) {key : String} (unread : free key) (item : Value) :
      Reshaped free (object (before ++ (key, item) :: after)) (object (before ++ after))
  | add (before after : List (String × Value)) {key : String} (unread : free key)
      (fresh : key ∉ (before ++ after).map Prod.fst) {item : Value}
      (distinct : item.keysDistinct = true) :
      Reshaped free (object (before ++ after)) (object (before ++ (key, item) :: after))
  | item (before after : List Value) {item other : Value} (changed : Reshaped free item other) :
      Reshaped free (array (before ++ item :: after)) (array (before ++ other :: after))
  | member (before after : List (String × Value)) (key : String) {item other : Value}
      (changed : Reshaped free item other) :
      Reshaped free (object (before ++ (key, item) :: after))
        (object (before ++ (key, other) :: after))

namespace Reshaped

variable {free : String → Prop} {value other : Value}

/-- A change is inside of an object, so both values have one. -/
theorem hasObject (changed : Reshaped free value other) : value.HasObject ∧ other.HasObject := by
  induction changed with
  | item before after changed ih =>
      exact ⟨.item (by simp) ih.1, .item (by simp) ih.2⟩
  | _ => exact ⟨.whole _, .whole _⟩

/-- A change keeps keys distinct. -/
theorem keysDistinct (changed : Reshaped free value other) (distinct : value.keysDistinct = true) :
    other.keysDistinct = true := by
  induction changed with
  | dropNull => exact (object_keysDistinct_middle.mp distinct).1
  | drop => exact (object_keysDistinct_middle.mp distinct).1
  | add before after unread fresh distinctItem =>
      exact object_keysDistinct_middle.mpr ⟨distinct, fresh, distinctItem⟩
  | item before after changed ih =>
      obtain ⟨others, here⟩ := array_keysDistinct_middle.mp distinct
      exact array_keysDistinct_middle.mpr ⟨others, ih here⟩
  | member before after key changed ih =>
      obtain ⟨others, fresh, here⟩ := object_keysDistinct_middle.mp distinct
      exact object_keysDistinct_middle.mpr ⟨others, fresh, ih here⟩

/-- A change makes no null and removes none. -/
theorem isNull_eq (changed : Reshaped free value other) : value.isNull = other.isNull := by
  cases changed <;> rfl

/-- Primitive types do not see a change. -/
theorem accepts_eq (changed : Reshaped free value other) (kind : Primitive) :
    kind.accepts value = kind.accepts other := by
  cases changed <;> cases kind <;> rfl

/-- Constraints do not see a change. -/
theorem holds_eq (changed : Reshaped free value other) (constraint : Constraint) :
    constraint.holds value = constraint.holds other := by
  cases changed with
  | item before after => cases constraint <;> simp [Constraint.holds, items?] <;> rfl
  | _ => cases constraint <;> rfl

/-- A set without objects has neither of two values with objects. -/
theorem contains_eq (changed : Reshaped free value other) {choices : List Choice}
    (plain : ∀ choice ∈ choices, ¬choice.value.HasObject) :
    Choice.contains choices value = Choice.contains choices other := by
  obtain ⟨inside, insideToo⟩ := changed.hasObject
  have missing {found : Value} (object : found.HasObject) : Choice.contains choices found = false := by
    rw [Choice.contains, List.any_eq_false]
    intro choice given same
    exact plain choice given (hasObject_of_same same object)
  rw [missing inside, missing insideToo]

end Reshaped

/-- A change or none, of a value that repeats no key of an object. -/
inductive Near (free : String → Prop) (value : Value) : Value → Prop
  | same : Near free value value
  | changed {other : Value} (distinct : value.keysDistinct = true)
      (changed : Reshaped free value other) : Near free value other

namespace Near

variable {free : String → Prop} {value other : Value}

/-- A change keeps the number of items and changes inside of them. -/
theorem items? (near : Near free value other) :
    (∃ items others, value.items? = some items ∧ other.items? = some others ∧
      List.Forall₂ (Near free) items others) ∨ value.items? = none ∧ other.items? = none := by
  have unchanged (items : List Value) : List.Forall₂ (Near free) items items :=
    List.forall₂_same.mpr fun _ _ => .same
  cases near with
  | same =>
      cases found : value.items? with
      | some items => exact .inl ⟨items, items, rfl, rfl, unchanged items⟩
      | none => exact .inr ⟨rfl, rfl⟩
  | changed distinct changed =>
      cases changed with
      | item before after changed =>
          rw [array_keysDistinct_iff] at distinct
          have here : Near free _ _ := .changed (distinct _ (by simp)) changed
          exact .inl ⟨_, _, rfl, rfl, List.rel_append (unchanged before) (.cons here (unchanged after))⟩
      | _ => exact .inr ⟨rfl, rfl⟩

end Near

end Json.Value

open Json.Value (Reshaped Near HasObject object_keysDistinct_middle)

namespace Descriptor

section

variable {before after : List (String × Value)} {key name : String} {item : Value}

/-- A member that is missing reads as null. -/
theorem memberOrNull_of_notMem (absent : key ∉ after.map Prod.fst) :
    memberOrNull after key = .null := by
  rw [memberOrNull, lookup_of_notMem absent, Option.getD_none]

/-- A member is read by its key. -/
theorem memberOrNull_middle (fresh : key ∉ before.map Prod.fst) :
    memberOrNull (before ++ (key, item) :: after) key = item := by
  rw [memberOrNull, lookup_middle fresh, Option.getD_some]

/-- Under another key a member is found as if the one in the middle were not there. -/
theorem memberOrNull_of_ne (different : name ≠ key) :
    memberOrNull (before ++ (key, item) :: after) name = memberOrNull (before ++ after) name := by
  rw [memberOrNull, memberOrNull, lookup_middle_of_ne different]

end

/-- Other members do not see that one is dropped, and a null one reads as before. -/
theorem memberOrNull_dropped {free : String → Prop} {before after : List (String × Value)}
    {key name : String} {item : Value} (dropped : free key ∨ item = .null) (known : ¬free name)
    (fresh : key ∉ (before ++ after).map Prod.fst) :
    memberOrNull (before ++ (key, item) :: after) name = memberOrNull (before ++ after) name := by
  by_cases same : name = key
  · subst same
    obtain rfl : item = .null := dropped.resolve_left known
    have freshBefore : name ∉ before.map Prod.fst := fun inside => fresh (by simp [inside])
    rw [memberOrNull_middle freshBefore, memberOrNull_of_notMem fresh]
  · exact memberOrNull_of_ne same

/-- Members under keys that are not free are the same, or changed themselves, or null on both sides. -/
theorem members?_near {free : String → Prop} {value other : Value} (near : Near free value other) :
    (∃ members others, value.members? = some members ∧ other.members? = some others ∧
      ∀ key, ¬free key → Near free (memberOrNull members key) (memberOrNull others key)) ∨
        value.members? = none ∧ other.members? = none := by
  cases near with
  | same =>
      cases found : value.members? with
      | some members => exact .inl ⟨members, members, rfl, rfl, fun _ _ => .same⟩
      | none => exact .inr ⟨rfl, rfl⟩
  | changed distinct changed =>
      cases changed with
      | dropNull before after key =>
          have fresh := (object_keysDistinct_middle.mp distinct).2.1
          refine .inl ⟨_, _, rfl, rfl, fun name known => ?_⟩
          rw [memberOrNull_dropped (.inr rfl) known fresh]
          exact .same
      | drop before after unread item =>
          have fresh := (object_keysDistinct_middle.mp distinct).2.1
          refine .inl ⟨_, _, rfl, rfl, fun name known => ?_⟩
          rw [memberOrNull_dropped (.inl unread) known fresh]
          exact .same
      | add before after unread fresh =>
          refine .inl ⟨_, _, rfl, rfl, fun name known => ?_⟩
          rw [memberOrNull_dropped (.inl unread) known fresh]
          exact .same
      | member before after key changed =>
          obtain ⟨-, fresh, here⟩ := object_keysDistinct_middle.mp distinct
          have freshBefore : key ∉ before.map Prod.fst := fun inside => fresh (by simp [inside])
          refine .inl ⟨_, _, rfl, rfl, fun name known => ?_⟩
          by_cases same : name = key
          · subst same
            rw [memberOrNull_middle freshBefore, memberOrNull_middle freshBefore]
            exact .changed here changed
          · rw [memberOrNull_of_ne same, memberOrNull_of_ne same]
            exact .same
      | item => exact .inr ⟨rfl, rfl⟩

end Descriptor

/-- The place and the expected name of a violation. -/
def Violation.location (violation : Violation) : String × String :=
  (violation.path.text, violation.expected)

/-- The places that a validation reports, with the names that were expected there. -/
def Violation.locations : Except (List Violation) Unit → List (String × String)
  | .ok _ => []
  | .error found => found.map location

namespace Descriptor

/-- The locations of a validation are those of the report. -/
theorem locations_validate (type : Descriptor) (value : Value) :
    Violation.locations (type.validate value) = (type.report value).map Violation.location := by
  rw [← given_validate]
  cases type.validate value with
  | ok => rfl
  | error found => rfl

/-- Values compared up to a change of members that are null or under free keys. -/
def upToUnread (free : String → Prop) : Comparison where
  related := Near free
  like one other := one.path = other.path ∧ one.expected = other.expected
  known key := ¬free key
  settled choices := ∀ choice ∈ choices, ¬choice.value.HasObject
  rejection _ _ _ _ := ⟨rfl, rfl⟩
  below pointer _ _ same := ⟨congrArg pointer.append same.1, same.2⟩
  isNull near := by
    cases near with
    | same => rfl
    | changed distinct changed => exact changed.isNull_eq
  primitive kind _ _ near := by
    cases near with
    | same => rfl
    | changed distinct changed => exact changed.accepts_eq kind
  constraints constraints _ _ near := by
    cases near with
    | same => rfl
    | changed distinct changed =>
        rw [Constraints.hold, Constraints.hold, funext changed.holds_eq]
  contains plain near := by
    cases near with
    | same => rfl
    | changed distinct changed => exact changed.contains_eq plain
  items? := Near.items?
  members? := members?_near

/-- A structure somewhere in the type has a field under the key. -/
def Declares (type : Descriptor) (key : String) : Prop :=
  ∃ label fields, (struct label fields).Inside type ∧ key ∈ fields.map Field.key

/-- The comparison up to unread members covers a type without objects in its closed sets. -/
theorem upToUnread_covers {type : Descriptor}
    (plain : ∀ choices, (enumeration choices).Inside type →
      ∀ choice ∈ choices, ¬choice.value.HasObject) :
    (upToUnread fun key => ¬type.Declares key).Covers type where
  keys label fields inside _ given :=
    not_not.mpr ⟨label, fields, inside, List.mem_map_of_mem given⟩
  sets := plain

/-- One change is not seen by the type, nor by what is reported without the values found. -/
theorem unseen_of_near {type : Descriptor}
    (plain : ∀ choices, (enumeration choices).Inside type →
      ∀ choice ∈ choices, ¬choice.value.HasObject)
    {value other : Value} (near : Near (fun key => ¬type.Declares key) value other) :
    type.accepts value = type.accepts other ∧
      (type.report value).map Violation.location = (type.report other).map Violation.location := by
  have agrees := Comparison.agrees (upToUnread_covers plain)
  refine ⟨agrees.accepts near, ?_⟩
  have same : List.Forall₂ (· = ·) ((type.report value).map Violation.location)
      ((type.report other).map Violation.location) := by
    rw [List.forall₂_map_left_iff, List.forall₂_map_right_iff]
    refine (agrees near).imp fun one other like => ?_
    rw [Violation.location, Violation.location, like.1, like.2]
  rwa [List.forall₂_eq_eq_eq] at same

/--
Members that are null, and members under keys that no structure of the type has, can be dropped,
and the latter added, anywhere in a value: the type accepts it as before, and validation reports
the same places and names. No closed set of the type may have a member with an object.
-/
theorem accepts_and_locations_of_reshaped (type : Descriptor)
    (plain : ∀ choices, (enumeration choices).Inside type →
      ∀ choice ∈ choices, ¬choice.value.HasObject)
    {value other : Value} (distinct : value.keysDistinct = true)
    (changed : Relation.ReflTransGen (Reshaped fun key => ¬type.Declares key) value other) :
    type.accepts other = type.accepts value ∧
      Violation.locations (type.validate other) = Violation.locations (type.validate value) := by
  suffices kept : other.keysDistinct = true ∧ type.accepts other = type.accepts value ∧
      (type.report other).map Violation.location = (type.report value).map Violation.location by
    rw [locations_validate, locations_validate]
    exact kept.2
  induction changed with
  | refl => exact ⟨distinct, rfl, rfl⟩
  | tail before step ih =>
      obtain ⟨distinctHere, accepted, reported⟩ := ih
      obtain ⟨accepts, reports⟩ := unseen_of_near plain (.changed distinctHere step)
      exact ⟨step.keysDistinct distinctHere, accepts.symm.trans accepted, reports.symm.trans reported⟩

/-- A mark is a letter of a closed set or a number. -/
def mark : Field Descriptor :=
  ⟨"mark", union [enumeration [⟨.string "a", "a"⟩], primitive .integer], true⟩

def markedRecords : Descriptor := list (struct none [mark])

/-- The parts of the example are known. -/
theorem inside_markedRecords {part : Descriptor} (inside : part.Inside markedRecords) :
    part = markedRecords ∨ part = struct none [mark] ∨ part = mark.type ∨
      part = enumeration [⟨.string "a", "a"⟩] ∨ part = primitive .integer := by
  cases inside with
  | whole => exact .inl rfl
  | element inside =>
      cases inside with
      | whole => exact .inr (.inl rfl)
      | field given inside =>
          obtain rfl := List.mem_singleton.mp given
          cases inside with
          | whole => exact .inr (.inr (.inl rfl))
          | alternative given inside =>
              obtain rfl | given := List.mem_cons.mp given
              · cases inside
                exact .inr (.inr (.inr (.inl rfl)))
              · obtain rfl := List.mem_singleton.mp given
                cases inside
                exact .inr (.inr (.inr (.inr rfl)))

/-- The example declares one key. -/
theorem declares_markedRecords {key : String} (declared : markedRecords.Declares key) :
    key = "mark" := by
  obtain ⟨label, fields, inside, given⟩ := declared
  obtain same | same | same | same | same := inside_markedRecords inside <;> cases same
  exact List.mem_singleton.mp given

/-- The first of two records loses a null mark and a key, and gets another key; the second is refused. -/
theorem accepts_and_locations_of_reshaped_records :
    let refused := Value.object [("mark", .boolean true)]
    let value := Value.array [.object [("mark", .null), ("size", .boolean true)], refused]
    let other := Value.array [.object [("note", .object [])], refused]
    value.keysDistinct = true ∧
      Relation.ReflTransGen (Reshaped fun key => ¬markedRecords.Declares key) value other ∧
      Violation.locations (markedRecords.validate value) =
        [("/1/mark", "\"a\" | Integer")] ∧
      markedRecords.accepts other = markedRecords.accepts value ∧
      Violation.locations (markedRecords.validate other) =
        Violation.locations (markedRecords.validate value) := by
  intro refused value other
  have distinct : value.keysDistinct = true := by decide +kernel
  have plain (choices : List Choice) (inside : (enumeration choices).Inside markedRecords) :
      ∀ choice ∈ choices, ¬choice.value.HasObject := by
    obtain same | same | same | same | same := inside_markedRecords inside <;> cases same
    rw [List.forall_mem_singleton]
    rintro ⟨⟩
  have unread (key : String) (different : key ≠ "mark") : ¬markedRecords.Declares key :=
    fun declared => different (declares_markedRecords declared)
  have first : Reshaped (fun key => ¬markedRecords.Declares key)
      (.object [("mark", .null), ("size", .boolean true)]) (.object [("size", .boolean true)]) :=
    .dropNull [] _ "mark"
  have second : Reshaped (fun key => ¬markedRecords.Declares key)
      (.object [("size", .boolean true)]) (.object []) := .drop [] [] (unread "size" (by decide)) _
  have third : Reshaped (fun key => ¬markedRecords.Declares key)
      (.object []) (.object [("note", .object [])]) :=
    .add [] [] (unread "note" (by decide)) (by simp) (by decide)
  have changed : Relation.ReflTransGen (Reshaped fun key => ¬markedRecords.Declares key)
      value other :=
    .tail (.tail (.single (.item [] [refused] first)) (.item [] [refused] second))
      (.item [] [refused] third)
  exact ⟨distinct, changed, rfl, accepts_and_locations_of_reshaped _ plain distinct changed⟩

end Descriptor

end TypedJson
