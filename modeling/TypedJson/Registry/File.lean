import TypedJson.Json.Bytes
import TypedJson.Schema.Compile

/-
This file reads registry files, which list the types to register and may ask for the standard
formats. The fields stand in an object or, in their order, in an array, and what follows the
value is not looked at.
-/

namespace TypedJson

open Json (Value Cursor Failure)

structure RegistryFile where
  standardFormats : Bool
  types : List (String × Value)

namespace RegistryFile

open Json.Reader (nextItem endItems nextMember endMembers colon word)

def empty : RegistryFile := ⟨false, []⟩

def formatsKey : String := "standard_formats"

def typesKey : String := "types"

/-- What a scalar is, or a list or an object as far as it has been read. -/
def foundIn : Value → Json.Found
  | .null => .null
  | .boolean value => .boolean value
  | .number value => .number value
  | .string text => .string text
  | .array _ => .list
  | .object _ => .object

/-- Stops at a value of another shape; a scalar is read first. -/
def wrongShape {Item : Type} (wanted : String) (cursor : Cursor) : Except Failure Item :=
  match cursor.rest with
  | '[' :: _ => cursor.failHere (.wrongShape .list wanted)
  | '{' :: _ => cursor.failHere (.wrongShape .object wanted)
  | _ =>
    match Json.Reader.value 1 0 cursor with
    | .error failure => .error failure
    | .ok (value, cursor) => cursor.failHere (.wrongShape (foundIn value) wanted)

def readBoolean (cursor : Cursor) : Except Failure (Bool × Cursor) :=
  let cursor := cursor.skipBlanks
  match cursor.rest with
  | [] => cursor.failNext .valueUnfinished
  | 't' :: _ => (word ['r', 'u', 'e'] cursor.skip).map fun cursor => (true, cursor)
  | 'f' :: _ => (word ['a', 'l', 's', 'e'] cursor.skip).map fun cursor => (false, cursor)
  | _ => wrongShape "a boolean" cursor

/-- How deep the schemas may nest inside the file. -/
def depthLimit : Nat := Json.Reader.depthLimit - 2

def readTypes (cursor : Cursor) : Except Failure (List (String × Value) × Cursor) :=
  let cursor := cursor.skipBlanks
  match cursor.rest with
  | [] => cursor.failNext .valueUnfinished
  | '{' :: _ =>
    (Json.Reader.members (2 * cursor.rest.length + 2) depthLimit [] cursor.skip).map
      fun (value, cursor) => (value.members?.getD [], cursor)
  | _ => wrongShape "a map" cursor

/-- What was read of the fields of an object. -/
structure Fields where
  standardFormats : Option Bool
  types : Option (List (String × Value))

/-- Where a failure about a key is noticed: past blanks and the end of the object. -/
def afterKey (cursor : Cursor) : Cursor :=
  let cursor := cursor.skipBlanks
  match cursor.rest with
  | '}' :: _ => cursor.skip
  | _ => cursor

/-- Adds a step to the trail of a failure. -/
def within {Item : Type} (step : Json.Step) (result : Except Failure Item) :
    Except Failure Item :=
  result.mapError (Failure.within step)

/-- Reads the value of one field. -/
def readField (fields : Fields) (key : String) (cursor : Cursor) :
    Except Failure (Fields × Cursor) :=
  if key = formatsKey then
    if fields.standardFormats.isSome then (afterKey cursor).failHere (.repeatedMember key)
    else do
      let cursor ← colon cursor
      let (standard, cursor) ← within (.member key) (readBoolean cursor)
      return ({ fields with standardFormats := some standard }, cursor)
  else if key = typesKey then
    if fields.types.isSome then (afterKey cursor).failHere (.repeatedMember key)
    else do
      let cursor ← colon cursor
      let (types, cursor) ← within (.member key) (readTypes cursor)
      return ({ fields with types := some types }, cursor)
  else
    within (.member key)
      ((afterKey cursor).failHere (.unknownMember key [formatsKey, typesKey]))

/-- Reads the fields of an object; each round reads one. -/
def readFields : Nat → Bool → Fields → Cursor → Except Failure RegistryFile
  | 0, _, _, cursor => cursor.failHere .objectUnfinished
  | fuel + 1, first, fields, cursor =>
    match nextMember first cursor with
    | .error failure => .error failure
    | .ok none =>
      (endMembers cursor).map fun _ =>
        ⟨fields.standardFormats.getD false, fields.types.getD []⟩
    | .ok (some (key, cursor)) =>
      match readField fields key cursor with
      | .error failure => .error failure
      | .ok (fields, cursor) => readFields fuel false fields cursor

/-- Reads the fields in their order, as many as there are. -/
def readItems (cursor : Cursor) : Except Failure RegistryFile := do
  match ← nextItem true cursor with
  | none => return (← endItems cursor, empty).2
  | some cursor =>
    let (standardFormats, cursor) ← within (.item 0) (readBoolean cursor)
    match ← nextItem false cursor with
    | none => return (← endItems cursor, ⟨standardFormats, []⟩).2
    | some cursor =>
      let (types, cursor) ← within (.item 1) (readTypes cursor)
      return (← endItems cursor, ⟨standardFormats, types⟩).2

def read (text : String) : Except Failure RegistryFile :=
  let cursor := (Cursor.start text).skipBlanks
  match cursor.rest with
  | [] => cursor.failNext .valueUnfinished
  | '[' :: _ => readItems cursor.skip
  | '{' :: _ => readFields (cursor.rest.length + 1) true ⟨none, none⟩ cursor.skip
  | _ => wrongShape "struct RegistryConfig" cursor

/-- Reads the file that bytes hold; it is of no matter whether what follows the file is a text. -/
def readBytes (bytes : ByteArray) : Except Failure RegistryFile := Json.ofBytes read bytes

def failureText (failure : Failure) : String :=
  "at JSON path " ++ failure.trailText ++ " \u2192 " ++ failure.message

/-- Why the types of a file cannot be registered. -/
inductive BuildError
  | compile (name : String) (error : Error)
  | register (error : Error)

namespace BuildError

def error : BuildError → Error
  | compile _ error => error
  | register error => error

def context? : BuildError → Option String
  | compile name _ => some ("failed to compile custom type " ++ Error.quoted name)
  | register _ => none

def message (failure : BuildError) : String :=
  match failure.context? with
  | some context => context ++ ": " ++ failure.error.message
  | none => failure.error.message

end BuildError

/-- Compiles and registers types in their order; each may name those before it. -/
def registerAll (registry : Registry) : List (String × Value) → Except BuildError Registry
  | [] => .ok registry
  | (name, schema) :: rest =>
    match Schema.compile registry schema with
    | .error error => .error (.compile name error)
    | .ok type =>
      match registry.registerType name type with
      | (.error error, _) => .error (.register error)
      | (.ok (), registry) => registerAll registry rest

def build (file : RegistryFile) : Except BuildError Registry :=
  registerAll (if file.standardFormats then .standard else .empty) file.types

end RegistryFile

end TypedJson
