import TypedJson.Constraint
import TypedJson.Json.Text

namespace TypedJson

open Json (Value)

/-- The types that have no parts. -/
inductive Primitive
  | null
  | string
  | number
  | integer
  | boolean
  | object
  | array
  | any
deriving DecidableEq

namespace Primitive

def name : Primitive → String
  | null => "Null"
  | string => "String"
  | number => "Number"
  | integer => "Integer"
  | boolean => "Boolean"
  | object => "Object"
  | array => "Array"
  | any => "Any"

def accepts (kind : Primitive) (value : Value) : Bool :=
  match kind with
  | null => value.isNull
  | string => value.string?.isSome
  | number => value.number?.isSome
  | integer => Constraint.integral.holds value
  | boolean => value.isBoolean
  | object => value.members?.isSome
  | array => value.items?.isSome
  | any => true

end Primitive

/-- A value of a closed set, with the label under which it is shown. -/
structure Choice where
  value : Value
  label : String

/-- A member that values of a structure type may or must have. -/
structure Field (Item : Type) where
  key : String
  type : Item
  /-- Whether the member may be absent or null. -/
  optional : Bool

/-- A type descriptor, which says what values belong to a type. -/
inductive Descriptor
  | primitive (kind : Primitive)
  | enumeration (choices : List Choice)
  | refinement (base : Descriptor) (constraints : Constraints)
  | struct (label : Option String) (fields : List (Field Descriptor))
  | list (element : Descriptor)
  | tuple (elements : List Descriptor)
  | union (alternatives : List Descriptor)
  /-- A type under a name that was given to it. -/
  | custom (name : String) (target : Descriptor)

namespace Choice

/-- A string is its own label, and any other value is labelled by its text. -/
def labelOf : Value → String
  | .string text => text
  | value => value.text

/-- The choices of an array, or the keys of an object labelled by their members. -/
def ofKeyword? : Value → Option (List Choice)
  | .array items => some (items.map fun item => ⟨item, labelOf item⟩)
  | .object members => some (members.map fun member => ⟨.string member.1, labelOf member.2⟩)
  | _ => none

def text (choice : Choice) : String := choice.value.text

end Choice

namespace Descriptor

def any : Descriptor := primitive .any

/-- The type of a descriptor's outermost part. -/
inductive Kind
  | primitive
  | enumeration
  | refinement
  | struct
  | list
  | tuple
  | union
  | custom
deriving DecidableEq

def kind : Descriptor → Kind
  | primitive _ => .primitive
  | enumeration _ => .enumeration
  | refinement _ _ => .refinement
  | struct _ _ => .struct
  | list _ => .list
  | tuple _ => .tuple
  | union _ => .union
  | custom _ _ => .custom

def isPrimitive (descriptor : Descriptor) (kind : Primitive) : Bool :=
  match descriptor with
  | primitive other => other == kind
  | _ => false

def isStruct (descriptor : Descriptor) : Bool := descriptor.kind == .struct

def isList (descriptor : Descriptor) : Bool := descriptor.kind == .list

/-- What the first temporal format of a refinement says. -/
def temporal? : Descriptor → Option Format.Temporal
  | refinement _ constraints => constraints.temporal?
  | _ => none

/-- A type with constraints, if there are any. -/
def refine (base : Descriptor) (constraints : List Constraint) : Descriptor :=
  match Constraints.ofList? constraints with
  | some constraints => refinement base constraints
  | none => base

mutual

/-- Whether the keys of each structure's fields are distinct. -/
def keysDistinct : Descriptor → Bool
  | primitive _ => true
  | enumeration _ => true
  | refinement base _ => base.keysDistinct
  | struct _ fields =>
    (fields.map Field.key).eraseDups.length == fields.length && keysDistinctFields fields
  | list element => element.keysDistinct
  | tuple elements => keysDistinctAll elements
  | union alternatives => keysDistinctAll alternatives
  | custom _ target => target.keysDistinct

def keysDistinctFields : List (Field Descriptor) → Bool
  | [] => true
  | field :: rest => field.type.keysDistinct && keysDistinctFields rest

def keysDistinctAll : List Descriptor → Bool
  | [] => true
  | item :: rest => item.keysDistinct && keysDistinctAll rest

end

end Descriptor

end TypedJson
