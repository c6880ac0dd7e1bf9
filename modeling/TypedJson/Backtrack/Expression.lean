import TypedJson.Regex.Meaning

namespace TypedJson.Backtrack

open TypedJson.Regex (CharSet Look)

/-- The expressions of backtracking patterns: regular expressions with look-around, back references,
atomic groups and conditions on groups. -/
inductive Expression
  | empty
  /-- Any character, or any but a line feed. -/
  | anyChar (lineFeed : Bool)
  | condition (look : Look)
  | literal (char : Char) (ignoreCase : Bool)
  /-- One character that an ordinary regular expression describes. -/
  | set (regex : Regex)
  | concat (items : List Expression)
  | alternation (items : List Expression)
  | group (index : Nat) (body : Expression)
  | lookAround (behind negated : Bool) (body : Expression)
  /-- At least `low` rounds and at most `high`, if that is given. -/
  | rounds (body : Expression) (low : Nat) (high : Option Nat) (greedy : Bool)
  | backReference (group : Nat)
  | atomic (body : Expression)
  /-- Forgets where the match started. -/
  | keepOut
  /-- Holds where the search began. -/
  | searchStart
  | groupSet (group : Nat)
  | conditional (test yes no : Expression)

namespace Expression

/-- Whether a repetition may follow. -/
def isRepeatable : Expression → Bool
  | empty => false
  | condition _ => false
  | lookAround _ _ _ => false
  | _ => true

/-- Whether the expression stands for the empty text. -/
def isEmpty : Expression → Bool
  | empty => true
  | _ => false

/-- Expressions in a row; one alone is itself. -/
def ofConcat : List Expression → Expression
  | [] => empty
  | [item] => item
  | items => concat items

mutual

/-- The least number of characters of a match. -/
def minSize : Expression → Nat
  | empty => 0
  | anyChar _ => 1
  | condition _ => 0
  | literal _ _ => 1
  | set _ => 1
  | concat items => sumSizes items
  | alternation items => leastSize items
  | group _ body => body.minSize
  | lookAround _ _ _ => 0
  | rounds body low _ _ => body.minSize * low
  | backReference _ => 0
  | atomic body => body.minSize
  | keepOut => 0
  | searchStart => 0
  | groupSet _ => 0
  | conditional test yes no => test.minSize + min yes.minSize no.minSize

def sumSizes : List Expression → Nat
  | [] => 0
  | item :: rest => item.minSize + sumSizes rest

def leastSize : List Expression → Nat
  | [] => 0
  | [item] => item.minSize
  | item :: rest => min item.minSize (leastSize rest)

end

mutual

/-- Whether all matches have the same number of characters. -/
def isConstSize : Expression → Bool
  | empty => true
  | anyChar _ => true
  | condition _ => true
  | literal _ _ => true
  | set _ => true
  | concat items => allConstSize items
  | alternation items => sameConstSize none items
  | group _ body => body.isConstSize
  | lookAround _ _ _ => true
  | rounds body low high _ => body.isConstSize && high == some low
  | backReference _ => false
  | atomic body => body.isConstSize
  | keepOut => true
  | searchStart => true
  | groupSet _ => true
  | conditional test yes no =>
    test.isConstSize && yes.isConstSize && no.isConstSize &&
      test.minSize + yes.minSize == no.minSize

def allConstSize : List Expression → Bool
  | [] => true
  | item :: rest => item.isConstSize && allConstSize rest

/-- Whether all have one constant size, which is the given one if there is one. -/
def sameConstSize (size : Option Nat) : List Expression → Bool
  | [] => true
  | item :: rest =>
    item.isConstSize && (size.isNone || size == some item.minSize) &&
      sameConstSize (some item.minSize) rest

end

mutual

/-- Whether matching needs backtracking. -/
def isHard : Expression → Bool
  | empty => false
  | anyChar _ => false
  | condition look =>
    match look with
    | .wordBoundary _ => true
    | .notWordBoundary _ => true
    | .wordStart _ => true
    | .wordEnd _ => true
    | _ => false
  | literal _ _ => false
  | set _ => false
  | concat items => anyHard items
  | alternation items => anyHard items
  | group _ body => body.isHard
  | lookAround _ _ _ => true
  | rounds body _ _ _ => body.isHard
  | backReference _ => true
  | atomic _ => true
  | keepOut => true
  | searchStart => true
  | groupSet _ => true
  | conditional _ _ _ => true

def anyHard : List Expression → Bool
  | [] => false
  | item :: rest => item.isHard || anyHard rest

end

/-- The text of literals in a row, if the expression is nothing else. -/
def literalText? : Expression → Option (List Char)
  | literal char false => some [char]
  | concat items => literals items
  | _ => none
where
  literals : List Expression → Option (List Char)
    | [] => some []
    | literal char false :: rest => (literals rest).map (char :: ·)
    | _ => none

/-- The greatest count of a repetition of an ordinary regular expression. -/
def countLimit : Nat := Regex.Reader.countLimit

mutual

/-- The ordinary regular expression for an expression that is not hard. -/
def plain? : Expression → Option Regex
  | empty => some .empty
  | anyChar lineFeed =>
    some (.one (if lineFeed then .all else .complement (.single '\n')))
  | condition look => some (.look look)
  | literal char ignoreCase =>
    some (.one (if ignoreCase then .caseClosure (.single char) else .single char))
  | set regex => some regex
  | concat items => (plainAll? items).map .seq
  | alternation items => (plainAll? items).map .alt
  | group index body => body.plain?.map (.group index)
  | rounds body low high greedy =>
    if countLimit < low || high.any fun high => high < low || countLimit < high then none
    else body.plain?.map fun regex => .rounds regex low high greedy
  | _ => none

def plainAll? : List Expression → Option (List Regex)
  | [] => some []
  | item :: rest => do
    let regex ← item.plain?
    let regexes ← plainAll? rest
    return regex :: regexes

end

end Expression

end TypedJson.Backtrack
