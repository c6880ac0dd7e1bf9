import TypedJson.Error

namespace TypedJson.Schema

open Json (Value)

/-- The kinds of types that need no registration. -/
inductive Kind
  | null
  | string
  | number
  | integer
  | boolean
  | object
  | array
deriving DecidableEq

namespace Kind

def all : List Kind := [null, string, number, integer, boolean, object, array]

def name : Kind → String
  | null => "null"
  | string => "string"
  | number => "number"
  | integer => "integer"
  | boolean => "boolean"
  | object => "object"
  | array => "array"

def ofName? (name : String) : Option Kind := all.find? fun kind => kind.name == name

/-- Whether a name stands for a kind, so that no type can be registered under it. -/
def isReserved (name : String) : Bool := (ofName? name).isSome

end Kind

/-- A name in the `type` keyword. -/
inductive TypeName
  | kind (kind : Kind)
  | custom (name : String)
deriving DecidableEq

def TypeName.ofText (text : String) : TypeName :=
  match Kind.ofName? text with
  | some found => .kind found
  | none => .custom text

/-- What the `type` keyword says. -/
inductive TypeField
  | absent
  | one (name : TypeName)
  | many (names : List TypeName)
deriving DecidableEq

/-- What the `items` keyword says. -/
inductive Items
  | single (node : Value)
  | tuple (nodes : List Value)

/-- A schema node with its keywords. A keyword of the wrong shape is an error that names the keyword
and what it should have been. -/
structure Node where
  members : List (String × Value)

namespace Node

def ofValue : Value → Except Error Node
  | .object members => .ok ⟨members⟩
  | found => .error (.notAnObject found)

def value (node : Node) : Value := .object node.members

def get? (node : Node) (keyword : String) : Option Value := node.members.lookup keyword

def unsupported (node : Node) : Error := .unsupported node.value

def typeNames (node : Node) : List Value → Except Error (List TypeName)
  | [] => .ok []
  | .string name :: rest => (typeNames node rest).map (TypeName.ofText name :: ·)
  | _ :: _ => .error node.unsupported

def typeField (node : Node) : Except Error TypeField :=
  match node.get? "type" with
  | none => .ok .absent
  | some (.string name) => .ok (.one (.ofText name))
  | some (.array names) => (node.typeNames names).map .many
  | some _ => .error node.unsupported

/-- The greatest count. -/
def countLimit : Nat := 0xFFFFFFFFFFFFFFFF

/-- The count that a number stands for; a whole floating number counts, and 2^64 is cut. -/
def countOf? : Json.Number → Option Nat
  | .integer value _ => if 0 ≤ value then some value.toNat else none
  | .float value =>
    if (value.negative && !value.isZero) || !value.isWhole || countLimit + 1 < value.wholePart then none
    else some (min value.wholePart countLimit)

def count (node : Node) (keyword : String) : Except Error (Option Nat) :=
  match node.get? keyword with
  | none => .ok none
  | some value =>
    match value.number?.bind countOf? with
    | some count => .ok (some count)
    | none => .error (.badKeyword keyword .count)

def number (node : Node) (keyword : String) : Except Error (Option Binary64) :=
  match node.get? keyword with
  | none => .ok none
  | some value =>
    match value.number? with
    | some number => .ok (some number.toBinary64)
    | none => .error (.badKeyword keyword .number)

/-- The number of a keyword, which other values leave absent. -/
def number? (node : Node) (keyword : String) : Option Binary64 :=
  ((node.get? keyword).bind Value.number?).map Json.Number.toBinary64

def string (node : Node) (keyword : String) : Except Error (Option String) :=
  match node.get? keyword with
  | none => .ok none
  | some value =>
    match value.string? with
    | some text => .ok (some text)
    | none => .error (.badKeyword keyword .string)

/-- Present, and neither false, null, zero nor empty. -/
def flag (node : Node) (keyword : String) : Bool :=
  match node.get? keyword with
  | none => false
  | some .null => false
  | some (.boolean value) => value
  | some (.number number) => !number.toBinary64.isZero
  | some (.string text) => !text.isEmpty
  | some _ => true

/-- The members of `properties`, which may be null. -/
def properties (node : Node) : Except Error (Option (List (String × Value))) :=
  match node.get? "properties" with
  | none => .ok none
  | some .null => .ok none
  | some (.object members) => .ok (some members)
  | some _ => .error (.badKeyword "properties" .object)

def names : List Value → Option (List String)
  | [] => some []
  | .string name :: rest => (names rest).map (name :: ·)
  | _ :: _ => none

/-- The names in `required`, which may be null. -/
def required (node : Node) : Except Error (List String) :=
  match node.get? "required" with
  | none => .ok []
  | some .null => .ok []
  | some (.array items) =>
    match names items with
    | some names => .ok names
    | none => .error (.badKeyword "required" .strings)
  | some _ => .error (.badKeyword "required" .strings)

def items (node : Node) : Except Error (Option Items) :=
  match node.get? "items" with
  | none => .ok none
  | some (.object members) => .ok (some (.single (.object members)))
  | some (.array nodes) => .ok (some (.tuple nodes))
  | some _ => .error (.badKeyword "items" .objectOrArray)

end Node

end TypedJson.Schema
