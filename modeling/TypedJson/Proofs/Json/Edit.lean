import TypedJson.Proofs.Json.Members
import TypedJson.Proofs.Json.Pointer

namespace TypedJson.Json

namespace Value

/-- What a segment leads to, or null. -/
def read (value : Value) (segment : String) : Value := (Pointer.locate value segment).getD .null

/-- Changes what a segment leads to. A missing member is added, as a change of null. -/
def changeAt (segment : String) (change : Value → Value) (value : Value) : Value :=
  match value with
  | object members => object (setMember segment (change (value.read segment)) members)
  | array items =>
    match Pointer.position? segment with
    | some index => array (items.modify index change)
    | none => value
  | _ => value

/-- The value with another one at a place. -/
def put (value : Value) (pointer : Pointer) (new : Value) : Value :=
  pointer.segments.foldr changeAt (fun _ => new) value

@[simp] theorem put_root (value new : Value) : value.put .root new = new := rfl

/-- A place at which a part of a value stands, or at which a member may be added. -/
inductive Place : Value → String → Prop
  | member (members : List (String × Value)) (key : String) : Place (object members) key
  | item {items : List Value} {index : Nat} (inside : index < items.length) :
      Place (array items) (toString index)

/-- Values of one frame: equal ones, arrays of one length, and any two objects. -/
inductive Alike : Value → Value → Prop
  | same (value : Value) : Alike value value
  | array {first second : List Value} (length : first.length = second.length) :
      Alike (array first) (array second)
  | object (first second : List (String × Value)) : Alike (object first) (object second)

theorem Alike.trans {first second third : Value} (one : Alike first second)
    (other : Alike second third) : Alike first third := by
  cases one with
  | same => exact other
  | array length =>
      cases other with
      | same => exact .array length
      | array further => exact .array (length.trans further)
  | object =>
      cases other with
      | same => exact .object _ _
      | object => exact .object _ _

/-- Values of one frame have the same places. -/
theorem Alike.place {first second : Value} (alike : Alike first second) {segment : String}
    (place : Place first segment) : Place second segment := by
  cases alike with
  | same => exact place
  | array length =>
      cases place with
      | item inside => exact .item (length ▸ inside)
  | object => exact .member _ _

/-- Only null has the frame of null. -/
theorem Alike.eq_null {value : Value} (alike : Alike value .null) : value = .null := by
  cases alike
  rfl

/-- A change at a segment keeps the frame. -/
theorem alike_changeAt (value : Value) (segment : String) (change : Value → Value) :
    Alike value (value.changeAt segment change) := by
  unfold changeAt
  split
  · exact .object _ _
  · split
    · exact .array (List.length_modify ..).symm
    · exact .same _
  · exact .same _

/-- An index leads to its item. -/
theorem read_item {items : List Value} {index : Nat} (inside : index < items.length) :
    (array items).read (toString index) = items[index] := by
  rw [read, Pointer.locate, Pointer.position_toString]
  simp [inside]

/-- A change at an index changes the item. -/
theorem changeAt_item (items : List Value) (index : Nat) (change : Value → Value) :
    (array items).changeAt (toString index) change = array (items.modify index change) := by
  rw [changeAt, Pointer.position_toString]

/-- At its segment a change is seen. -/
theorem read_changeAt {value : Value} {segment : String} (place : Place value segment)
    (change : Value → Value) :
    (value.changeAt segment change).read segment = change (value.read segment) := by
  cases place with
  | member members =>
      change ((setMember segment _ members).lookup segment).getD .null = _
      rw [lookup_setMember]
      rfl
  | @item items index inside =>
      rw [changeAt_item, read_item (by simpa using inside), read_item inside]
      simp

/-- At other segments a change is not seen. -/
theorem read_changeAt_of_ne {value : Value} {segment other : String}
    (place : Place value segment) (otherPlace : Place value other) (different : other ≠ segment)
    (change : Value → Value) : (value.changeAt segment change).read other = value.read other := by
  cases place with
  | member members =>
      change ((setMember segment _ members).lookup other).getD .null = _
      rw [lookup_setMember_of_ne different]
      rfl
  | @item items index inside =>
      cases otherPlace with
      | @item _ position within =>
          have apart : index ≠ position := by
            intro same
            exact different (by rw [same])
          rw [changeAt_item, read_item (by simpa using within), read_item within]
          simp [apart]

/-- Two changes at one place are one change. -/
theorem changeAt_changeAt (value : Value) (segment : String) (first second : Value → Value) :
    (value.changeAt segment first).changeAt segment second =
      value.changeAt segment fun part => second (first part) := by
  cases value with
  | object members =>
      have read : (object (setMember segment (first ((object members).read segment)) members)).read
          segment = first ((object members).read segment) :=
        read_changeAt (.member members segment) first
      simp only [changeAt, read, setMember_setMember]
  | array items =>
      unfold changeAt
      cases Pointer.position? segment with
      | none => rfl
      | some index => simp [List.modify_modify_eq, Function.comp_def]
  | _ => rfl

end Value

end TypedJson.Json
