import TypedJson.Descriptor.Accepts
import TypedJson.Descriptor.Name
import TypedJson.Json.Pointer

namespace TypedJson

open Json (Value Pointer)

/-- A place of a value, the name of the type that was expected there, and what was found. -/
structure Violation where
  path : Pointer
  expected : String
  actual : Value

namespace Violation

def text (violation : Violation) : String :=
  let path := violation.path.text
  (if path.isEmpty then "(root)" else path) ++ ": expected " ++ violation.expected ++ ", got " ++
    violation.actual.text

end Violation

namespace Descriptor

/-- Adds the violation that the whole value at a place departs from the type. -/
def reject (descriptor : Descriptor) (value : Value) (path : Pointer) (found : Array Violation) :
    Array Violation :=
  found.push ⟨path, descriptor.name, value⟩

/-- Visits the items of a list in order, each with the pointer to it. -/
def collectItems (collect : Value → Pointer → Array Violation → Array Violation)
    (path : Pointer) : Nat → List Value → Array Violation → Array Violation
  | _, [], found => found
  | index, item :: rest, found =>
    collectItems collect path (index + 1) rest (collect item (path.child (toString index)) found)

mutual

/-- Adds the violations of a value that stands at a place to those found before. -/
def collect (descriptor : Descriptor) (value : Value) (path : Pointer)
    (found : Array Violation) : Array Violation :=
  match descriptor with
  | primitive kind =>
    if kind.accepts value then found else (primitive kind).reject value path found
  | enumeration choices =>
    if Choice.contains choices value then found
    else (enumeration choices).reject value path found
  | union alternatives =>
    if acceptsAny alternatives value then found
    else (union alternatives).reject value path found
  | refinement base constraints =>
    if !base.accepts value then base.collect value path found
    else if !constraints.hold value then (refinement base constraints).reject value path found
    else found
  | struct label fields =>
    match value.members? with
    | some members => collectFields fields members path found
    | none => (struct label fields).reject value path found
  | list element =>
    match value.items? with
    | some items => collectItems element.collect path 0 items found
    | none => (list element).reject value path found
  | tuple elements =>
    match value.items? with
    | some items =>
      if items.length = elements.length then collectElements elements items path 0 found
      else (tuple elements).reject value path found
    | none => (tuple elements).reject value path found
  | custom _ target => target.collect value path found

def collectFields : List (Field Descriptor) → List (String × Value) → Pointer →
    Array Violation → Array Violation
  | [], _, _, found => found
  | field :: rest, members, path, found =>
    let member := memberOrNull members field.key
    collectFields rest members path
      (if field.optional && member.isNull then found
        else field.type.collect member (path.child field.key) found)

def collectElements : List Descriptor → List Value → Pointer → Nat →
    Array Violation → Array Violation
  | element :: elements, item :: items, path, index, found =>
    collectElements elements items path (index + 1)
      (element.collect item (path.child (toString index)) found)
  | _, _, _, _, found => found

end

/-- All violations of a value, in the order of the type. -/
def report (descriptor : Descriptor) (value : Value) : List Violation :=
  (descriptor.collect value .root #[]).toList

/-- Succeeds for the values of a type, and gives all violations of any other value. -/
def validate (descriptor : Descriptor) (value : Value) : Except (List Violation) Unit :=
  match descriptor.report value with
  | [] => .ok ()
  | found => .error found

end Descriptor

end TypedJson
