import TypedJson.Json.Text

namespace TypedJson

open Json (Value)

/-- What a keyword should have been. -/
inductive Expectation
  | count
  | number
  | string
  | object
  | strings
  | objectOrArray
  | arrayOrObject
deriving DecidableEq

def Expectation.text : Expectation → String
  | count => "a non-negative integer"
  | number => "a number"
  | string => "a string"
  | object => "an object"
  | strings => "an array of strings"
  | objectOrArray => "an object or an array"
  | arrayOrObject => "an array or an object"

/-- The tables of a registry. -/
inductive Table
  | format
  | type
deriving DecidableEq

def Table.name : Table → String
  | format => "format"
  | type => "type"

/-- Why a schema is no type, or why a registration is refused. -/
inductive Error
  /-- A schema node is no object. -/
  | notAnObject (found : Value)
  /-- The type of a node is neither a name nor an array of names. -/
  | unsupported (node : Value)
  | unknownType (name : String) (node : Value)
  | unknownFormat (name : String)
  | badKeyword (keyword : String) (expected : Expectation)
  /-- No engine reads the pattern. What the engine says about it is left out. -/
  | badPattern (source : String)
  | duplicate (table : Table) (name : String)
  | reserved (name : String)

namespace Error

/-- A text between grave accents. -/
def quoted (text : String) : String := "\x60" ++ text ++ "\x60"

def message : Error → String
  | notAnObject found => "invalid schema node: expected an object, found " ++ found.text
  | unsupported node => "unsupported json schema " ++ node.text
  | unknownType name node => "unknown type " ++ quoted name ++ " in schema " ++ node.text
  | unknownFormat name => "missing format " ++ quoted name ++ ", register it before compiling"
  | badKeyword keyword expected => "keyword " ++ quoted keyword ++ " must be " ++ expected.text
  | badPattern source => "invalid pattern " ++ quoted source
  | duplicate table name => "duplicated " ++ table.name ++ " " ++ quoted name
  | reserved name => "reserved type " ++ quoted name

end Error

end TypedJson
