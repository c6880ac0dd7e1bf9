import TypedJson.Registry.Basic

namespace TypedJson.Schema

open Json (Value)

/-- A constraint for a keyword, if it is there. -/
def optional {Item : Type} (make : Item → Constraint) (value : Option Item) : List Constraint :=
  (value.map make).toList

def patternConstraint : Option String → Except Error (List Constraint)
  | none => .ok []
  | some source =>
    match Pattern.ofSource? source with
    | some pattern => .ok [.pattern pattern]
    | none => .error (.badPattern source)

def formatConstraint (registry : Registry) : Option String → Except Error (List Constraint)
  | none => .ok []
  | some name =>
    match registry.format? name with
    | some format => .ok [.format format]
    | none => .error (.unknownFormat name)

/-- A closed set of values takes the place of all other keywords. -/
def stringType (registry : Registry) (node : Node) : Except Error Descriptor :=
  match node.get? "enum" with
  | some keyword =>
    match Choice.ofKeyword? keyword with
    | some choices => .ok (.enumeration choices)
    | none => .error (.badKeyword "enum" .arrayOrObject)
  | none => do
    let minLength ← node.count "minLength"
    let maxLength ← node.count "maxLength"
    let source ← node.string "pattern"
    let pattern ← patternConstraint source
    let name ← node.string "format"
    let format ← formatConstraint registry name
    return Descriptor.refine (.primitive .string)
      (optional .minLength minLength ++ optional .maxLength maxLength ++ pattern ++ format)

/--
The bounds of numbers. A truthy exclusive keyword makes its bound strict, and a numeric one is a
bound of its own.
-/
def bounds (node : Node) : Except Error (List Constraint) := do
  let exclusiveMinimum := node.number? "exclusiveMinimum"
  let exclusiveMaximum := node.number? "exclusiveMaximum"
  let minimum ← node.number "minimum"
  let strictMinimum := exclusiveMinimum.isNone && node.flag "exclusiveMinimum"
  let maximum ← node.number "maximum"
  let strictMaximum := exclusiveMaximum.isNone && node.flag "exclusiveMaximum"
  return optional (if strictMinimum then .exclusiveMinimum else .minimum) minimum ++
    optional .exclusiveMinimum exclusiveMinimum ++
    optional (if strictMaximum then .exclusiveMaximum else .maximum) maximum ++
    optional .exclusiveMaximum exclusiveMaximum

def numberType (node : Node) : Except Error Descriptor := do
  let constraints ← bounds node
  let integral := if node.flag "integer" then [Constraint.integral] else []
  return Descriptor.refine (.primitive .number) (constraints ++ integral)

def integerType (node : Node) : Except Error Descriptor := do
  let constraints ← bounds node
  return Descriptor.refine (.primitive .integer) constraints

/-- A member that is not required is optional, unless it is a boolean. -/
def fieldOf (required : List String) (key : String) (type : Descriptor) : Field Descriptor :=
  ⟨key, type, !required.contains key && !type.isPrimitive .boolean⟩

/-- The type of an object, given the types of its properties once they are wanted. -/
def objectType (node : Node) (types : Unit → Except Error (List (String × Descriptor))) :
    Except Error Descriptor := do
  match ← node.properties with
  | none => return .primitive .object
  | some [] => return .primitive .object
  | some _ =>
    let required ← node.required
    let types ← types ()
    let label ← node.string "description"
    return .struct label (types.map fun (key, type) => fieldOf required key type)

/-- The types of the items of an array. -/
inductive ItemTypes
  | any
  | single (type : Descriptor)
  | tuple (types : List Descriptor)

/-- The type of an array, given the types of its items once they are wanted. -/
def arrayType (node : Node) (types : Unit → Except Error ItemTypes) :
    Except Error Descriptor := do
  let _ ← node.items
  match ← types () with
  | .tuple types => return .tuple types
  | .single type => bounded (.list type)
  | .any => bounded (.primitive .array)
where
  bounded (base : Descriptor) : Except Error Descriptor := do
    let minItems ← node.count "minItems"
    let maxItems ← node.count "maxItems"
    return base.refine (optional .minItems minItems ++ optional .maxItems maxItems)

/-- The type for one name in the `type` keyword of a node. -/
def namedType (registry : Registry) (node : Node)
    (properties : Unit → Except Error (List (String × Descriptor)))
    (items : Unit → Except Error ItemTypes) : TypeName → Except Error Descriptor
  | .kind .null => .ok (.primitive .null)
  | .kind .boolean => .ok (.primitive .boolean)
  | .kind .string => stringType registry node
  | .kind .number => numberType node
  | .kind .integer => integerType node
  | .kind .object => objectType node properties
  | .kind .array => arrayType node items
  | .custom name =>
    match registry.type? name with
    | some target => .ok (.custom name target)
    | none => .error (.unknownType name node.value)

mutual

/-- The type of a schema node. The keywords that a type does not use are not looked at. -/
def compile (registry : Registry) : Value → Except Error Descriptor
  | .object members => do
    let node : Node := ⟨members⟩
    let typeOf := namedType registry node (fun _ => propertyTypes registry members)
      (fun _ => itemTypes registry members)
    match ← node.typeField with
    | .absent => return .any
    | .one name => typeOf name
    | .many names => return .union (← names.mapM typeOf)
  | found => .error (.notAnObject found)

/-- The types of the members of `properties`. -/
def propertyTypes (registry : Registry) :
    List (String × Value) → Except Error (List (String × Descriptor))
  | [] => .ok []
  | (key, value) :: rest =>
    if key = "properties" then
      match value with
      | .object members => compileMembers registry members
      | _ => .ok []
    else propertyTypes registry rest

/-- The types of what stands in `items`. -/
def itemTypes (registry : Registry) : List (String × Value) → Except Error ItemTypes
  | [] => .ok .any
  | (key, value) :: rest =>
    if key = "items" then
      match value with
      | .array nodes => return .tuple (← compileAll registry nodes)
      | node => return .single (← compile registry node)
    else itemTypes registry rest

def compileMembers (registry : Registry) :
    List (String × Value) → Except Error (List (String × Descriptor))
  | [] => .ok []
  | (key, node) :: rest => do
    let type ← compile registry node
    let types ← compileMembers registry rest
    return (key, type) :: types

def compileAll (registry : Registry) : List Value → Except Error (List Descriptor)
  | [] => .ok []
  | node :: rest => do
    let type ← compile registry node
    let types ← compileAll registry rest
    return type :: types

end

end TypedJson.Schema
