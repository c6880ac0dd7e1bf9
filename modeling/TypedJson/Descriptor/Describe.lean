import TypedJson.Descriptor.Basic

namespace TypedJson.Descriptor

open Json (Value)

def describeChoice (choice : Choice) : Value :=
  .object [("value", choice.value), ("label", .string choice.label)]

def describeTemporal (temporal : Option Format.Temporal) : List (String × Value) :=
  match temporal with
  | some temporal => [("temporal", .string temporal.name)]
  | none => []

def describeLabel (label : Option String) : List (String × Value) :=
  match label with
  | some label => [("label", .string label)]
  | none => []

mutual

/-- The description of a type as a JSON value. -/
def describe : Descriptor → Value
  | primitive kind => .object [("kind", .string "primitive"), ("name", .string kind.name)]
  | enumeration choices =>
    .object [("kind", .string "enumeration"), ("members", .array (choices.map describeChoice))]
  | refinement base constraints =>
    .object ([("kind", .string "refinement"), ("base", base.describe),
      ("predicates", .array (constraints.list.map fun constraint => .string constraint.text))] ++
        describeTemporal constraints.temporal?)
  | struct label fields =>
    .object ([("kind", .string "struct"), ("fields", .object (describeFields fields))] ++
      describeLabel label)
  | list element => .object [("kind", .string "list"), ("element", element.describe)]
  | tuple elements =>
    .object [("kind", .string "tuple"), ("elements", .array (describeAll elements))]
  | union alternatives =>
    .object [("kind", .string "union"), ("alternatives", .array (describeAll alternatives))]
  | custom name target =>
    .object [("kind", .string "custom"), ("name", .string name), ("target", target.describe)]

def describeAll : List Descriptor → List Value
  | [] => []
  | item :: rest => item.describe :: describeAll rest

def describeFields : List (Field Descriptor) → List (String × Value)
  | [] => []
  | field :: rest =>
    (field.key, .object [("optional", .boolean field.optional), ("type", field.type.describe)]) ::
      describeFields rest

end

end TypedJson.Descriptor
