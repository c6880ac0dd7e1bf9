import TypedJson.Binary64.Text
import TypedJson.Json.Value

namespace TypedJson.Json

/-- The text of one character inside quotes. -/
def escapeChar (char : Char) : List Char :=
  if char = '"' then ['\\', '"']
  else if char = '\\' then ['\\', '\\']
  else if char = '\n' then ['\\', 'n']
  else if char = '\r' then ['\\', 'r']
  else if char = '\t' then ['\\', 't']
  else if char = '\x08' then ['\\', 'b']
  else if char = '\x0c' then ['\\', 'f']
  else if char.toNat < 0x20 then
    ['\\', 'u', '0', '0', Nat.digitChar (char.toNat / 16), Nat.digitChar (char.toNat % 16)]
  else [char]

def quote (text : String) : String :=
  "\"" ++ String.ofList (text.toList.flatMap escapeChar) ++ "\""

def Number.text : Number → String
  | .integer value _ => toString value
  | .float value => value.text .json

namespace Value

mutual

/-- The compact text. -/
def text : Value → String
  | null => "null"
  | boolean value => if value then "true" else "false"
  | number value => value.text
  | string value => quote value
  | array items => "[" ++ itemsText items ++ "]"
  | object members => "\x7b" ++ membersText members ++ "\x7d"

def itemsText : List Value → String
  | [] => ""
  | [item] => text item
  | item :: rest => text item ++ "," ++ itemsText rest

def membersText : List (String × Value) → String
  | [] => ""
  | [(key, item)] => quote key ++ ":" ++ text item
  | (key, item) :: rest => quote key ++ ":" ++ text item ++ "," ++ membersText rest

end

/-- The start of a line at a depth: two blanks a level. -/
def lineStart (depth : Nat) : String := "\n" ++ String.ofList (List.replicate (2 * depth) ' ')

mutual

/-- The text with one item or member per line, at a depth. -/
def linesText (depth : Nat) : Value → String
  | array [] => "[]"
  | array items => "[" ++ itemLines (depth + 1) items ++ lineStart depth ++ "]"
  | object [] => "\x7b\x7d"
  | object members => "\x7b" ++ memberLines (depth + 1) members ++ lineStart depth ++ "\x7d"
  | null => "null"
  | boolean value => if value then "true" else "false"
  | number value => value.text
  | string value => quote value

def itemLines (depth : Nat) : List Value → String
  | [] => ""
  | [item] => lineStart depth ++ linesText depth item
  | item :: rest => lineStart depth ++ linesText depth item ++ "," ++ itemLines depth rest

def memberLines (depth : Nat) : List (String × Value) → String
  | [] => ""
  | [(key, item)] => lineStart depth ++ quote key ++ ": " ++ linesText depth item
  | (key, item) :: rest =>
    lineStart depth ++ quote key ++ ": " ++ linesText depth item ++ "," ++ memberLines depth rest

end

end Value

end TypedJson.Json
