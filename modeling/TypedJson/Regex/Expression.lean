import TypedJson.Regex.Basic
import TypedJson.Unicode.Property

namespace TypedJson.Regex

inductive FlagName
  | caseInsensitive
  | multiLine
  | dotMatchesNewLine
  | swapGreed
  | unicode
  | anyLineEnding
  | extended
deriving DecidableEq

/-- Flags in the order in which they are written, each with whether it is set. -/
abbrev FlagList := List (FlagName × Bool)

namespace AsciiClass

/-- The characters of a class such as `alpha` of `[[:alpha:]]`. -/
def named? (name : List Char) : Option (List (Nat × Nat)) :=
  match String.ofList name with
  | "alnum" => some [(48, 57), (65, 90), (97, 122)]
  | "alpha" => some [(65, 90), (97, 122)]
  | "ascii" => some [(0, 127)]
  | "blank" => some [(9, 9), (32, 32)]
  | "cntrl" => some [(0, 31), (127, 127)]
  | "digit" => some [(48, 57)]
  | "graph" => some [(33, 126)]
  | "lower" => some [(97, 122)]
  | "print" => some [(32, 126)]
  | "punct" => some [(33, 47), (58, 64), (91, 96), (123, 126)]
  | "space" => some [(9, 13), (32, 32)]
  | "upper" => some [(65, 90)]
  | "word" => some [(48, 57), (65, 90), (95, 95), (97, 122)]
  | "xdigit" => some [(48, 57), (65, 70), (97, 102)]
  | _ => none

end AsciiClass

/-- What `\d`, `\s` and `\w` stand for. -/
inductive CommonClass
  | digit
  | space
  | word
deriving DecidableEq

/-- How a class is combined from two. -/
inductive ClassOperator
  | intersection
  | difference
  | symmetricDifference
deriving DecidableEq

/-- A class as it is written. -/
inductive ClassExpression
  | empty
  /-- A character, with whether it was written as a two-digit code. -/
  | literal (char : Char) (byCode : Bool)
  | range (first : Char) (firstByCode : Bool) (last : Char) (lastByCode : Bool)
  | ascii (negated : Bool) (ranges : List (Nat × Nat))
  | common (negated : Bool) (kind : CommonClass)
  | property (negated : Bool) (ranges : List (Nat × Nat))
  | union (items : List ClassExpression)
  | combined (operator : ClassOperator) (left right : ClassExpression)
  | bracketed (negated : Bool) (set : ClassExpression)

inductive Anchor
  | lineStart
  | lineEnd
  | textStart
  | textEnd
  | wordBoundary
  | notWordBoundary
  | wordStart
  | wordEnd
  | wordStartHalf
  | wordEndHalf
deriving DecidableEq

/-- A regular expression as it is written, with flags that change the meaning of what follows
them. -/
inductive Expression
  | empty
  | flags (list : FlagList)
  | literal (char : Char) (byCode : Bool)
  | dot
  | anchor (kind : Anchor)
  | set (members : ClassExpression)
  | repetition (body : Expression) (low : Nat) (high : Option Nat) (greedy : Bool)
  | group (flags : FlagList) (body : Expression)
  | capture (index : Nat) (body : Expression)
  | concat (items : List Expression)
  | alternation (items : List Expression)

namespace ClassExpression

mutual

/-- How deep brackets, unions and operators nest. -/
def depth : ClassExpression → Nat
  | union items => depthItems items + 1
  | combined _ left right => max left.depth right.depth + 1
  | bracketed _ set => set.depth + 1
  | _ => 0

def depthItems : List ClassExpression → Nat
  | [] => 0
  | item :: rest => max item.depth (depthItems rest)

end

/-- Several items of a class as one. -/
def ofItems : List ClassExpression → ClassExpression
  | [] => empty
  | [item] => item
  | items => union items

end ClassExpression

namespace Expression

mutual

/-- How deep the expression nests; only compound parts count. -/
def depth : Expression → Nat
  | set members => members.depth
  | repetition body _ _ _ => body.depth + 1
  | group _ body => body.depth + 1
  | capture _ body => body.depth + 1
  | concat items => depthItems items + 1
  | alternation items => depthItems items + 1
  | _ => 0

def depthItems : List Expression → Nat
  | [] => 0
  | item :: rest => max item.depth (depthItems rest)

end

def ofConcat : List Expression → Expression
  | [] => empty
  | [item] => item
  | items => concat items

def ofAlternation : List Expression → Expression
  | [] => empty
  | [item] => item
  | items => alternation items

/-- Whether a repetition may follow. -/
def isRepeatable : Expression → Bool
  | empty => false
  | flags _ => false
  | _ => true

end Expression

end TypedJson.Regex
