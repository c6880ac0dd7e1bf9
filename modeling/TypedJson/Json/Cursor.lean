import TypedJson.Json.Text
import TypedJson.Text.Visible

/-
This file holds places in a JSON text and the failures of reading it. Lines count from one and
columns count the bytes of the line up to and including the one at fault.
-/

namespace TypedJson.Json

/-- What stands where a value of another shape was wanted. -/
inductive Found
  | null
  | boolean (value : Bool)
  | number (value : Number)
  | string (text : String)
  | list
  | object
deriving DecidableEq

/-- What was found, as failures name it. -/
def Found.text : Found → String
  | null => "null"
  | boolean value => "boolean \x60" ++ (if value then "true" else "false") ++ "\x60"
  | number (.integer value _) => "integer \x60" ++ toString value ++ "\x60"
  | number (.float value) => "floating point \x60" ++ value.text .json ++ "\x60"
  | string text => "string " ++ quoteVisible text
  | list => "sequence"
  | object => "map"

/-- Why a text is no JSON value, or none of the wanted shape. -/
inductive Fault
  | listUnfinished
  | objectUnfinished
  | stringUnfinished
  | valueUnfinished
  | expectedColon
  | expectedItemEnd
  | expectedMemberEnd
  | expectedWord
  | expectedValue
  | badCodePoint
  | badEscape
  | badNumber
  | numberOutOfRange
  | controlCharacter
  | keyNotString
  | loneSurrogate
  | trailingComma
  | trailingText
  | hexEscapeUnfinished
  | tooDeep
  | wrongShape (found : Found) (wanted : String)
  | unknownMember (key : String) (known : List String)
  | repeatedMember (key : String)
deriving DecidableEq

namespace Fault

def message : Fault → String
  | listUnfinished => "EOF while parsing a list"
  | objectUnfinished => "EOF while parsing an object"
  | stringUnfinished => "EOF while parsing a string"
  | valueUnfinished => "EOF while parsing a value"
  | expectedColon => "expected \x60:\x60"
  | expectedItemEnd => "expected \x60,\x60 or \x60]\x60"
  | expectedMemberEnd => "expected \x60,\x60 or \x60\x7d\x60"
  | expectedWord => "expected ident"
  | expectedValue => "expected value"
  | badCodePoint => "invalid unicode code point"
  | badEscape => "invalid escape"
  | badNumber => "invalid number"
  | numberOutOfRange => "number out of range"
  | controlCharacter => "control character (\\u0000-\\u001F) found while parsing a string"
  | keyNotString => "key must be a string"
  | loneSurrogate => "lone leading surrogate in hex escape"
  | trailingComma => "trailing comma"
  | trailingText => "trailing characters"
  | hexEscapeUnfinished => "unexpected end of hex escape"
  | tooDeep => "recursion limit exceeded"
  | wrongShape found wanted => "invalid type: " ++ found.text ++ ", expected " ++ wanted
  | unknownMember key known =>
    "unknown field \x60" ++ key ++ "\x60, expected " ++
      " or ".intercalate (known.map fun name => "\x60" ++ name ++ "\x60")
  | repeatedMember key => "duplicate field \x60" ++ key ++ "\x60"

end Fault

/-- A line and a column of a text. -/
structure Place where
  line : Nat
  column : Nat
deriving DecidableEq

def Place.text (place : Place) : String :=
  "line " ++ toString place.line ++ " column " ++ toString place.column

/-- The unread text with the place reached. -/
structure Cursor where
  rest : List Char
  place : Place

namespace Cursor

def start (text : String) : Cursor := ⟨text.toList, ⟨1, 0⟩⟩

/-- The place after one more character. -/
def advance (place : Place) (char : Char) : Place :=
  if char = '\n' then ⟨place.line + 1, 0⟩ else ⟨place.line, place.column + char.utf8Size⟩

/-- Moves over one character, if there is one. -/
def skip (cursor : Cursor) : Cursor :=
  match cursor.rest with
  | [] => cursor
  | char :: rest => ⟨rest, advance cursor.place char⟩

/-- Moves over characters that are known to be there. -/
def skipMany (cursor : Cursor) : Nat → Cursor
  | 0 => cursor
  | count + 1 => cursor.skip.skipMany count

/-- The place after some bytes, which may end inside a character. -/
def placeAfter (place : Place) : List Char → Nat → Place
  | [], _ => place
  | _, 0 => place
  | char :: rest, bytes =>
    if char.utf8Size ≤ bytes then placeAfter (advance place char) rest (bytes - char.utf8Size)
    else ⟨place.line, place.column + bytes⟩

/-- The place of the next byte. -/
def nextPlace (cursor : Cursor) : Place := placeAfter cursor.place cursor.rest 1

/-- The place at the end of the text. -/
def endPlace (cursor : Cursor) : Place := cursor.rest.foldl advance cursor.place

def isBlank (char : Char) : Bool :=
  char = ' ' || char = '\n' || char = '\t' || char = '\r'

/-- Moves to the next character that is not blank. -/
def skipBlanks (cursor : Cursor) : Cursor :=
  go cursor.place cursor.rest
where
  go (place : Place) : List Char → Cursor
    | [] => ⟨[], place⟩
    | char :: rest => if isBlank char then go (advance place char) rest else ⟨char :: rest, place⟩

end Cursor

/-- A step on the way from the outermost value to an inner one. -/
inductive Step
  | member (key : String)
  | item (index : Nat)
  /-- To a member whose key was not read. -/
  | unknown
deriving DecidableEq

/-- A fault with the place where reading stopped, and the way to the value that it is about. -/
structure Failure where
  fault : Fault
  place : Place
  trail : List Step
deriving DecidableEq

namespace Failure

/-- A failure inside of a value, seen from the value around it. -/
def within (step : Step) (failure : Failure) : Failure :=
  { failure with trail := step :: failure.trail }

def message (failure : Failure) : String :=
  failure.fault.message ++ " at " ++ failure.place.text

/-- The steps of a trail after the first; dots come before keys only. -/
def laterSteps : List Step → String
  | [] => ""
  | .member key :: rest => "." ++ key ++ laterSteps rest
  | .item index :: rest => "[" ++ toString index ++ "]" ++ laterSteps rest
  | .unknown :: rest => ".?" ++ laterSteps rest

/-- The trail as a text, a dot for the outermost value. -/
def trailText (failure : Failure) : String :=
  match failure.trail with
  | [] => "."
  | .member key :: rest => key ++ laterSteps rest
  | .item index :: rest => "[" ++ toString index ++ "]" ++ laterSteps rest
  | .unknown :: rest => "?" ++ laterSteps rest

end Failure

namespace Cursor

/-- Stops at the place reached. -/
def failHere {Item : Type} (cursor : Cursor) (fault : Fault) : Except Failure Item :=
  .error ⟨fault, cursor.place, []⟩

/-- Stops at the next byte. -/
def failNext {Item : Type} (cursor : Cursor) (fault : Fault) : Except Failure Item :=
  .error ⟨fault, cursor.nextPlace, []⟩

end Cursor

end TypedJson.Json
