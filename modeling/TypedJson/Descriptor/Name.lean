import TypedJson.Descriptor.Basic

namespace TypedJson.Descriptor

mutual

/-- The name of a type. A labelled structure and a named type show only their label or name. -/
def name : Descriptor → String
  | primitive kind => kind.name
  | enumeration choices => " | ".intercalate (choices.map Choice.text)
  | refinement base constraints => "\x7b" ++ base.name ++ " | " ++ constraints.text ++ "\x7d"
  | struct (some label) _ => label
  | struct none fields => "\x7b" ++ ", ".intercalate (fieldNames fields) ++ "\x7d"
  | list element => "Array<" ++ element.name ++ ">"
  | tuple elements => "[" ++ ", ".intercalate (names elements) ++ "]"
  | union alternatives => " | ".intercalate (names alternatives)
  | custom name _ => name

def names : List Descriptor → List String
  | [] => []
  | item :: rest => item.name :: names rest

def fieldNames : List (Field Descriptor) → List String
  | [] => []
  | field :: rest =>
    (field.key ++ ": " ++ (if field.optional then "?" else "") ++ field.type.name) ::
      fieldNames rest

end

end TypedJson.Descriptor
