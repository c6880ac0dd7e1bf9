import TypedJson.Regex.Footprint
import TypedJson.Regex.Meaning

namespace TypedJson.Regex

/-- The regular expression that a text is read as, unless it is too large. -/
def ofText? (text : List Char) : Option Regex := do
  let expression ← Reader.read? text
  let (regex, _) ← expression.meaning .standard
  if regex.isCompilable then return regex else none

end TypedJson.Regex
