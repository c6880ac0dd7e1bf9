import TypedJson.Descriptor.Basic

namespace TypedJson

open Json (Value)

namespace Choice

/-- Whether one of the choices is equal to a value. -/
def contains (choices : List Choice) (value : Value) : Bool :=
  choices.any fun choice => choice.value.same value

end Choice

namespace Descriptor

/-- The member under a key, or null. -/
def memberOrNull (members : List (String × Value)) (key : String) : Value :=
  (members.lookup key).getD .null

mutual

/-- Whether a value belongs to a type. An absent member of a structure counts as null, and members
without a field are ignored. -/
def accepts : Descriptor → Value → Bool
  | primitive kind, value => kind.accepts value
  | enumeration choices, value => Choice.contains choices value
  | refinement base constraints, value => base.accepts value && constraints.hold value
  | struct _ fields, value =>
    match value.members? with
    | some members => acceptsFields fields members
    | none => false
  | list element, value =>
    match value.items? with
    | some items => items.all element.accepts
    | none => false
  | tuple elements, value =>
    match value.items? with
    | some items => items.length == elements.length && acceptsItems elements items
    | none => false
  | union alternatives, value => acceptsAny alternatives value
  | custom _ target, value => target.accepts value

def acceptsFields : List (Field Descriptor) → List (String × Value) → Bool
  | [], _ => true
  | field :: rest, members =>
    ((field.optional && (memberOrNull members field.key).isNull) ||
      field.type.accepts (memberOrNull members field.key)) && acceptsFields rest members

def acceptsItems : List Descriptor → List Value → Bool
  | element :: elements, item :: items => element.accepts item && acceptsItems elements items
  | _, _ => true

def acceptsAny : List Descriptor → Value → Bool
  | [], _ => false
  | alternative :: rest, value => alternative.accepts value || acceptsAny rest value

end

end Descriptor

end TypedJson
