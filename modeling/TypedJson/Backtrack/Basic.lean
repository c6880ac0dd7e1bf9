import TypedJson.Backtrack.Machine
import TypedJson.Backtrack.Reader
import TypedJson.Regex.Reach

namespace TypedJson

/-- A backtracking pattern that is ready to search. One in which nothing needs backtracking is
searched as an ordinary regular expression. -/
inductive Backtrack
  | plain (regex : Regex)
  | program (program : Backtrack.Program)

namespace Backtrack

/-- A search for an expression with that many groups. -/
def ofExpression? (groups : Nat) (expression : Expression) : Option Backtrack :=
  if expression.isHard then (Program.search? groups expression).map .program
  else do
    let regex ← expression.plain?
    if regex.isCompilable then return .plain regex else none

/-- A search for what the text of a pattern is read as. -/
def ofText? (text : List Char) : Option Backtrack := do
  let (expression, groups) ← Reader.read? text
  ofExpression? groups expression

/-- Whether some part of the text matches. -/
def isMatch (pattern : Backtrack) (text : List Char) : Bool :=
  match pattern with
  | plain regex => regex.isMatch text
  | program code => code.isMatch text.toArray

end Backtrack

end TypedJson
