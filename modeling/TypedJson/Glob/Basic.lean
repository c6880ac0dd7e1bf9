import TypedJson.Text.Split

namespace TypedJson.Glob

/-- What stands for characters in a name of a glob. -/
inductive Token
  | char (char : Char)
  | anyChar
  | anyText
  /-- One character that is in one of the ranges, or, if negated, in none. -/
  | set (negated : Bool) (ranges : List (Char × Char))
deriving DecidableEq

/-- Why a text is no glob. -/
inductive Fault
  | manyStars
  | starsInName
  | badSet
deriving DecidableEq

def Fault.message : Fault → String
  | manyStars => "wildcards are either regular \x60*\x60 or recursive \x60**\x60"
  | starsInName => "recursive wildcards must form a single path component"
  | badSet => "invalid range pattern"

/-- A fault with the character position at which it is noticed. -/
structure Failure where
  fault : Fault
  position : Nat
deriving DecidableEq

def Failure.message (failure : Failure) : String :=
  "Pattern syntax error near position " ++ toString failure.position ++ ": " ++
    failure.fault.message

/-- The ranges of a set; a character alone is a range, and a hyphen at an end is a character. -/
def readRanges : List Char → List (Char × Char)
  | first :: '-' :: last :: rest => (first, last) :: readRanges rest
  | single :: rest => (single, single) :: readRanges rest
  | [] => []

/-- Splits before the first closing bracket after one character, which may be a bracket. -/
def splitSet : List Char → Option (List Char × List Char)
  | [] => none
  | first :: rest =>
    let inside := rest.takeWhile (· != ']')
    match rest.dropWhile (· != ']') with
    | _ :: after => some (first :: inside, after)
    | [] => none

/-- Reads a set behind its opening bracket. -/
def readSet (text : List Char) : Option (Token × List Char) :=
  match text with
  | '!' :: text => (splitSet text).map fun (inside, rest) => (.set true (readRanges inside), rest)
  | text => (splitSet text).map fun (inside, rest) => (.set false (readRanges inside), rest)

/-- A name of a glob. -/
inductive Part
  | name (text : String)
  /-- Any folders, one below the other. -/
  | folders
  | tokens (list : List Token)
deriving DecidableEq

/-- Checks the stars at a position; two of them need a slash or an end on both sides. -/
def checkStars (previous : Option Char) (position count : Nat) (rest : List Char) :
    Except Failure Unit :=
  if 2 < count then .error ⟨.manyStars, position + 2⟩
  else if count = 2 then
    if previous.any (· != '/') then .error ⟨.starsInName, position - 1⟩
    else if rest.head?.any (· != '/') then .error ⟨.starsInName, position + 2⟩
    else .ok ()
  else .ok ()

/-- Reads tokens, of which each round reads one; two stars count as any text. -/
def readTokens : Nat → Option Char → Nat → List Char → Except Failure (List Token)
  | 0, _, _, _ => .ok []
  | _, _, _, [] => .ok []
  | fuel + 1, previous, position, char :: rest =>
    if char = '*' then
      let count := 1 + (rest.takeWhile (· == '*')).length
      let rest := rest.dropWhile (· == '*')
      match checkStars previous position count rest with
      | .error failure => .error failure
      | .ok () => (readTokens fuel (some '*') (position + count) rest).map (.anyText :: ·)
    else if char = '[' then
      match readSet rest with
      | none => .error ⟨.badSet, position⟩
      | some (set, after) =>
        (readTokens fuel (some ']') (position + 1 + (rest.length - after.length)) after).map
          (set :: ·)
    else
      let token := if char = '?' then .anyChar else .char char
      (readTokens fuel (some char) (position + 1) rest).map (token :: ·)

def tokensOf (text : List Char) : Except Failure (List Token) :=
  readTokens (text.length + 1) none 0 text

/-- The text that only matches itself. -/
def plainText? : List Token → Option (List Char)
  | [] => some []
  | .char char :: rest => (plainText? rest).map (char :: ·)
  | _ => none

def readPart (text : List Char) : Except Failure Part := do
  let tokens ← tokensOf text
  if text = ['*', '*'] then return .folders
  else
    match plainText? tokens with
    | some plain => return .name (String.ofList plain)
    | none => return .tokens tokens

/-- A list of texts without an empty one at the end. -/
def dropEmptyEnd (texts : List (List Char)) : List (List Char) :=
  if texts.getLast? = some [] then texts.dropLast else texts

end Glob

/-- A glob as the parts between its slashes; a slash at the end asks for folders. -/
structure Glob where
  absolute : Bool
  parts : List Glob.Part
  foldersOnly : Bool

namespace Glob

/-- Reads the text as a whole, for its faults, and then part by part. -/
def ofText (text : String) : Except Failure Glob := do
  let chars := text.toList
  let _ ← tokensOf chars
  let absolute := chars.head? == some '/'
  let relative := if absolute then chars.tail else chars
  let parts ← (dropEmptyEnd (splitAt '/' relative)).mapM readPart
  return ⟨absolute, parts, chars.getLast? == some '/'⟩

/-- The text has a character that makes it a glob. -/
def isGlob (text : String) : Bool :=
  text.toList.any fun char => char = '*' || char = '?' || char = '[' || char = '\x7b'

/-- The token stands for a character. -/
def Token.holds (token : Token) (char : Char) : Bool :=
  match token with
  | .char wanted => char == wanted
  | .anyChar => true
  | .anyText => false
  | .set negated ranges =>
    (ranges.any fun range => range.1 ≤ char && char ≤ range.2) != negated

/-- A test holds of the text or of an end of it. -/
def anyEnd (test : List Char → Bool) : List Char → Bool
  | [] => test []
  | char :: rest => test (char :: rest) || anyEnd test rest

/-- The tokens match the whole text. -/
def isMatch : List Token → List Char → Bool
  | [], text => text.isEmpty
  | .anyText :: tokens, text => anyEnd (isMatch tokens) text
  | token :: tokens, text =>
    match text with
    | [] => false
    | char :: rest => token.holds char && isMatch tokens rest

def Part.isMatch (part : Part) (name : String) : Bool :=
  match part with
  | .name text => name == text
  | .folders => true
  | .tokens list => Glob.isMatch list name.toList

end Glob

end TypedJson
