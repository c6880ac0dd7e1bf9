import TypedJson.Regex.CharSet

namespace TypedJson

namespace Regex

/-- Which characters count as parts of words. -/
inductive WordKind
  | ascii
  | unicode
deriving DecidableEq

/-- A condition on the characters on both sides of a position. -/
inductive Look
  | textStart
  | textEnd
  | lineStart
  | lineEnd
  /-- Lines end in a line feed, a carriage return or both. -/
  | anyLineStart
  | anyLineEnd
  | wordBoundary (kind : WordKind)
  | notWordBoundary (kind : WordKind)
  | wordStart (kind : WordKind)
  | wordEnd (kind : WordKind)
  | wordStartHalf (kind : WordKind)
  | wordEndHalf (kind : WordKind)
deriving DecidableEq

end Regex

/-- A regular expression. -/
inductive Regex
  | empty
  | one (set : Regex.CharSet)
  | look (condition : Regex.Look)
  /-- One after the other. -/
  | seq (items : List Regex)
  /-- One of several, the preferred first; of none, no text matches. -/
  | alt (items : List Regex)
  /-- At least `low` rounds and at most `high`, if that is given. -/
  | rounds (body : Regex) (low : Nat) (high : Option Nat) (greedy : Bool)
  /-- A part whose place in a match is kept under a number. -/
  | group (index : Nat) (body : Regex)

namespace Regex

/-- The set of word characters of ASCII. -/
def asciiWord : CharSet := .ranges [(48, 57), (65, 90), (95, 95), (97, 122)]

def literal (char : Char) : Regex := one (.single char)

mutual

/-- The numbers of the groups inside. -/
def groups : Regex → List Nat
  | empty => []
  | one _ => []
  | look _ => []
  | seq items => groupsOfAll items
  | alt items => groupsOfAll items
  | rounds body _ _ _ => body.groups
  | group index body => index :: body.groups

def groupsOfAll : List Regex → List Nat
  | [] => []
  | item :: rest => item.groups ++ groupsOfAll rest

end

mutual

/-- Whether a match may be empty, as far as the form tells. -/
def mayBeEmpty : Regex → Bool
  | empty => true
  | one _ => false
  | look _ => true
  | seq items => allMayBeEmpty items
  | alt items => anyMayBeEmpty items
  | rounds body low _ _ => low == 0 || body.mayBeEmpty
  | group _ body => body.mayBeEmpty

def allMayBeEmpty : List Regex → Bool
  | [] => true
  | item :: rest => item.mayBeEmpty && allMayBeEmpty rest

def anyMayBeEmpty : List Regex → Bool
  | [] => false
  | item :: rest => item.mayBeEmpty || anyMayBeEmpty rest

end

end Regex

end TypedJson
