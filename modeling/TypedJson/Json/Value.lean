import TypedJson.Json.Number

namespace TypedJson.Json

/-- A JSON value. An object lists its members in the order in which their keys were first
written. -/
inductive Value
  | null
  | boolean (value : Bool)
  | number (value : Number)
  | string (value : String)
  | array (items : List Value)
  | object (members : List (String × Value))
deriving Inhabited

/-- Sets a member: a key that is present keeps its place, a new one goes to the end. -/
def setMember {Item : Type} (key : String) (item : Item) :
    List (String × Item) → List (String × Item)
  | [] => [(key, item)]
  | (name, old) :: rest =>
    if name = key then (name, item) :: rest else (name, old) :: setMember key item rest

/-- Sets the members one after the other. -/
def setMembers {Item : Type} (members : List (String × Item)) : List (String × Item) :=
  members.foldl (fun done member => setMember member.1 member.2 done) []

namespace Value

/-- The member of an object under a key. -/
def member? (key : String) : Value → Option Value
  | object members => members.lookup key
  | _ => none

def isNull : Value → Bool
  | null => true
  | _ => false

def isBoolean : Value → Bool
  | boolean _ => true
  | _ => false

def number? : Value → Option Number
  | number value => some value
  | _ => none

def string? : Value → Option String
  | string value => some value
  | _ => none

def items? : Value → Option (List Value)
  | array items => some items
  | _ => none

def members? : Value → Option (List (String × Value))
  | object members => some members
  | _ => none

/-- An optional text, with `null` for its absence. -/
def ofText? : Option String → Value
  | some text => string text
  | none => null

mutual

/-- Equality of values, which ignores the order of members. -/
def same : Value → Value → Bool
  | null, null => true
  | boolean left, boolean right => left == right
  | number left, number right => left.same right
  | string left, string right => left == right
  | array left, array right => sameItems left right
  | object left, object right => left.length == right.length && sameMembers left right
  | _, _ => false

def sameItems : List Value → List Value → Bool
  | [], [] => true
  | left :: leftRest, right :: rightRest => same left right && sameItems leftRest rightRest
  | _, _ => false

/-- Whether each member on the left has an equal one under its key on the right. -/
def sameMembers : List (String × Value) → List (String × Value) → Bool
  | [], _ => true
  | (key, left) :: leftRest, members =>
    (match members.lookup key with
      | some right => same left right
      | none => false) && sameMembers leftRest members

end

mutual

/-- Whether no object anywhere in the value repeats a key. -/
def keysDistinct : Value → Bool
  | array items => keysDistinctItems items
  | object members =>
    (members.map Prod.fst).eraseDups.length == members.length && keysDistinctMembers members
  | _ => true

def keysDistinctItems : List Value → Bool
  | [] => true
  | item :: rest => keysDistinct item && keysDistinctItems rest

def keysDistinctMembers : List (String × Value) → Bool
  | [] => true
  | (_, item) :: rest => keysDistinct item && keysDistinctMembers rest

end

end Value

end TypedJson.Json
