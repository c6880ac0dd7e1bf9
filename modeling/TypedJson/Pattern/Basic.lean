import TypedJson.Backtrack.Basic
import TypedJson.Pattern.Token
import TypedJson.Regex.Reach
import TypedJson.Regex.Written

namespace TypedJson

namespace Pattern

/-- A search that is ready to run. -/
inductive Matcher
  | linear (regex : Regex)
  | backtracking (search : Backtrack)

def Matcher.isMatch (matcher : Matcher) (text : List Char) : Bool :=
  match matcher with
  | linear regex => regex.isMatch text
  | backtracking search => search.isMatch text

/-- A body and its flags. -/
structure Parts where
  body : List Char
  flags : List Char
deriving DecidableEq

namespace Parts

def isFlag (char : Char) : Bool :=
  char = 'g' || char = 'i' || char = 'm' || char = 'u' || char = 'y'

/-- Splits at the last slash, if the text has the form of a delimited pattern. -/
def delimited? (source : List Char) : Option Parts :=
  let flags := (source.reverse.takeWhile isFlag).reverse
  match source, (source.take (source.length - flags.length)).reverse with
  | '/' :: _, '/' :: reversed =>
    let body := reversed.reverse.drop 1
    if body.isEmpty || body.contains '\n' then none else some ⟨body, flags⟩
  | _, _ => none

def ofSource (source : List Char) : Parts := (delimited? source).getD ⟨source, []⟩

/-- The body between slashes with its flags. -/
def text (parts : Parts) : List Char := '/' :: parts.body ++ '/' :: parts.flags

/-- The text that the engine reads. The sticky flag ties the match to the start of the text. -/
def effective (parts : Parts) : List Char :=
  let body := engineText (engineFor parts.body) parts.body
  (if parts.flags.contains 'i' then "(?i)".toList else []) ++
    (if parts.flags.contains 'm' then "(?m)".toList else []) ++
      if parts.flags.contains 'y' then "\\A(?:".toList ++ body ++ [')'] else body

def matcher? (parts : Parts) : Option Matcher :=
  match engineFor parts.body with
  | .linear => (Regex.ofText? parts.effective).map .linear
  | .backtracking => (Backtrack.ofText? parts.effective).map .backtracking

end Parts

end Pattern

/-- A pattern as it is written in a schema: a bare body, or a body between slashes with flags after
it. -/
structure Pattern where
  /-- The keyword's value as it is written. -/
  source : String
  parts : Pattern.Parts
  matcher : Pattern.Matcher

namespace Pattern

/-- The pattern of a source that an engine can read. -/
def ofSource? (source : String) : Option Pattern :=
  let parts := Parts.ofSource source.toList
  parts.matcher?.map fun matcher => ⟨source, parts, matcher⟩

def body (pattern : Pattern) : String := String.ofList pattern.parts.body

def flags (pattern : Pattern) : String := String.ofList pattern.parts.flags

def text (pattern : Pattern) : String := String.ofList pattern.parts.text

/-- Whether some part of a text matches. -/
def isMatch (pattern : Pattern) (text : String) : Bool := pattern.matcher.isMatch text.toList

end Pattern

end TypedJson
