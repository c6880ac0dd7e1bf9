import TypedJson.Regex.Basic

namespace TypedJson.Pattern

/-- A backslash with the character that it takes along, or one character alone. -/
inductive Token
  | pair (escaped : Char)
  | single (char : Char)
deriving DecidableEq

/-- The engine that is to search for the pattern. -/
inductive Engine
  | linear
  | backtracking
deriving DecidableEq

namespace Token

/-- A backslash at the very end stands alone. -/
def readAll : List Char → List Token
  | [] => []
  | '\\' :: escaped :: rest => pair escaped :: readAll rest
  | char :: rest => single char :: readAll rest

def text : Token → List Char
  | pair escaped => ['\\', escaped]
  | single char => [char]

/-- The word characters as the members of a class. -/
def wordMembers : List Char := "A-Za-z0-9_".toList

/-- A position between characters of which exactly one is a word character. -/
def boundary : Engine → List Char
  | .linear => "(?-u:\\b)".toList
  | .backtracking =>
    "(?:(?<=[A-Za-z0-9_])(?![A-Za-z0-9_])|(?<![A-Za-z0-9_])(?=[A-Za-z0-9_]))".toList

/-- A position between characters of which both or none are word characters. -/
def noBoundary : Engine → List Char
  | .linear => "(?-u:\\B)".toList
  | .backtracking =>
    "(?:(?<=[A-Za-z0-9_])(?=[A-Za-z0-9_])|(?<![A-Za-z0-9_])(?![A-Za-z0-9_]))".toList

/-- What an escape pair becomes outside of classes or inside of one. -/
def escapeText (engine : Engine) (inClass : Bool) (escaped : Char) : List Char :=
  match escaped, inClass with
  | 'd', true => "0-9".toList
  | 'd', false => "[0-9]".toList
  | 'D', _ => "[^0-9]".toList
  | 'w', true => wordMembers
  | 'w', false => '[' :: wordMembers ++ [']']
  | 'W', _ => '[' :: '^' :: wordMembers ++ [']']
  | 'b', true => "\\x08".toList
  | 'b', false => boundary engine
  | 'B', false => noBoundary engine
  | other, _ => ['\\', other]

def image (engine : Engine) (inClass : Bool) : Token → List Char
  | pair escaped => escapeText engine inClass escaped
  | single char => [char]

/-- Whether the text after the token is inside a class; classes do not nest. -/
def classAfter (inClass : Bool) : Token → Bool
  | pair _ => inClass
  | single '[' => true
  | single ']' => false
  | single _ => inClass

/-- The images of tokens in a row. -/
def imageAll (engine : Engine) (inClass : Bool) : List Token → List Char
  | [] => []
  | token :: rest => token.image engine inClass ++ imageAll engine (token.classAfter inClass) rest

/-- Whether the token refers back to a group. -/
def refersBack : Token → Bool
  | pair escaped => escaped = 'k' || ('1' ≤ escaped && escaped ≤ '9')
  | single _ => false

end Token

/-- Whether a look-around opens somewhere, be it in a class or after a backslash. -/
def opensLookAround : List Char → Bool
  | [] => false
  | '(' :: '?' :: '=' :: _ => true
  | '(' :: '?' :: '!' :: _ => true
  | '(' :: '?' :: '<' :: '=' :: _ => true
  | '(' :: '?' :: '<' :: '!' :: _ => true
  | _ :: rest => opensLookAround rest

/-- The engine for a body: a look-around or a reference to a group needs backtracking. -/
def engineFor (body : List Char) : Engine :=
  if opensLookAround body || (Token.readAll body).any Token.refersBack then .backtracking
  else .linear

/-- The body with its class and boundary escapes in their ASCII meaning. Everything else is copied
as it is written. -/
def engineText (engine : Engine) (body : List Char) : List Char :=
  Token.imageAll engine false (Token.readAll body)

end TypedJson.Pattern
