import TypedJson.Regex.Basic

namespace TypedJson.Regex

/-- The form in which an expression is compiled: characters in a row are one text, alternatives of
one character each are one set, and what can only be empty is not repeated. -/
inductive Shape
  | empty
  | text (chars : List Char)
  /-- Characters as ranges in normal form; never a single one. -/
  | set (ranges : Unicode.Ranges)
  | look (condition : Look)
  | rounds (body : Shape) (low : Nat) (high : Option Nat) (greedy : Bool)
  | group (index : Nat) (body : Shape)
  | seq (items : List Shape)
  | alt (items : List Shape)

namespace Shape

mutual

/-- Whether two shapes are the same. -/
def same : Shape → Shape → Bool
  | empty, empty => true
  | text left, text right => left == right
  | set left, set right => left == right
  | look left, look right => left == right
  | rounds left low high greedy, rounds right low' high' greedy' =>
    same left right && low == low' && high == high' && greedy == greedy'
  | group index left, group index' right => index == index' && same left right
  | seq left, seq right => allSame left right
  | alt left, alt right => allSame left right
  | _, _ => false

def allSame : List Shape → List Shape → Bool
  | [], [] => true
  | left :: lefts, right :: rights => same left right && allSame lefts rights
  | _, _ => false

end

mutual

/-- Whether all matches are empty. -/
def isZeroWidth : Shape → Bool
  | empty => true
  | text chars => chars.isEmpty
  | set _ => false
  | look _ => true
  | rounds body _ high _ => body.isZeroWidth && high.isSome
  | group _ body => body.isZeroWidth
  | seq items => allZeroWidth items
  | alt items => allZeroWidth items

def allZeroWidth : List Shape → Bool
  | [] => true
  | item :: rest => item.isZeroWidth && allZeroWidth rest

end

mutual

/-- Whether all matches take a character; false also if nothing can match. -/
def takesText : Shape → Bool
  | empty => false
  | text chars => !chars.isEmpty
  | set ranges => !ranges.isEmpty
  | look _ => false
  | rounds body low _ _ => low != 0 && body.takesText
  | group _ body => body.takesText
  | seq items => !anyFails items && anyTakesText items
  | alt items => allTakeText items

def anyTakesText : List Shape → Bool
  | [] => false
  | item :: rest => item.takesText || anyTakesText rest

def allTakeText : List Shape → Bool
  | [] => true
  | item :: rest => item.takesText && allTakeText rest

/-- Whether some part is the empty set, so that nothing can match. -/
def fails : Shape → Bool
  | set ranges => ranges.isEmpty
  | rounds body _ _ _ => body.fails
  | group _ body => body.fails
  | seq items => anyFails items
  | alt items => anyFails items
  | _ => false

def anyFails : List Shape → Bool
  | [] => false
  | item :: rest => item.fails || anyFails rest

end

/-- A set; one character alone is a text. -/
def ofRanges (ranges : Unicode.Ranges) : Shape :=
  match ranges with
  | [(first, last)] => if first = last then text [Char.ofNat first] else set ranges
  | _ => set ranges

/-- Puts an item before others; texts side by side become one. -/
def consItem (item : Shape) (rest : List Shape) : List Shape :=
  match item, rest with
  | text left, text right :: others => text (left ++ right) :: others
  | item, rest => item :: rest

/-- The items of a row, without rows in the row and without empty items. -/
def rowItems : Shape → List Shape
  | seq items => items
  | empty => []
  | item => [item]

def ofRow (items : List Shape) : Shape :=
  match (items.flatMap rowItems).foldr consItem [] with
  | [] => empty
  | [item] => item
  | items => seq items

def ofRounds (body : Shape) (low : Nat) (high : Option Nat) (greedy : Bool) : Shape :=
  let (low, high) :=
    if body.isZeroWidth then (min low 1, some (min (high.getD 1) 1)) else (low, high)
  if high = some 0 then empty
  else if low = 1 ∧ high = some 1 then body
  else rounds body low high greedy

/-- The ranges of a text of one character. -/
def singleRange? : Shape → Option Unicode.Ranges
  | text [char] => some [(char.toNat, char.toNat)]
  | _ => none

def setRanges? : Shape → Option Unicode.Ranges
  | set ranges => some ranges
  | _ => none

/-- The alternatives of a choice, without choices in the choice. -/
def choiceItems : Shape → List Shape
  | alt items => items
  | item => [item]

/-- A choice; single characters, and sets, become one set. -/
def ofChoice (items : List Shape) : Shape :=
  match items.flatMap choiceItems with
  | [] => set []
  | [item] => item
  | items =>
    match (items.mapM singleRange?).orElse fun _ => items.mapM setRanges? with
    | some ranges => ofRanges (Unicode.normalize ranges.flatten)
    | none => alt items

/-- How many items two rows have in common at their starts. -/
def commonLength : List Shape → List Shape → Nat
  | left :: lefts, right :: rights => if left.same right then commonLength lefts rights + 1 else 0
  | _, _ => 0

def seqItems? : Shape → Option (List Shape)
  | seq items => some items
  | _ => none

/-- A choice of several; what all alternatives have in common at their starts is taken out. -/
def ofAlternatives (items : List Shape) : Shape :=
  match ofChoice items with
  | alt items =>
    match items.mapM seqItems? with
    | some (row :: rows) =>
      let count := rows.foldl (fun count other => min count (commonLength row other)) row.length
      if count = 0 then alt items
      else
        ofRow (row.take count ++
          [ofChoice ((row :: rows).map fun row => ofRow (row.drop count))])
    | _ => alt items
  | shape => shape

mutual

/-- Whether a match can only start at the start of the text. -/
def startsAtStart : Shape → Bool
  | look condition => condition == .textStart
  | rounds body low _ _ => low != 0 && body.startsAtStart
  | group _ body => body.startsAtStart
  | seq items => rowStartsAtStart items
  | alt items => allStartAtStart items
  | _ => false

def rowStartsAtStart : List Shape → Bool
  | [] => false
  | item :: rest => item.startsAtStart || (item.isZeroWidth && rowStartsAtStart rest)

def allStartAtStart : List Shape → Bool
  | [] => true
  | item :: rest => item.startsAtStart && allStartAtStart rest

end

mutual

/-- Whether a match can only end at the end of the text. -/
def endsAtEnd : Shape → Bool
  | look condition => condition == .textEnd
  | rounds body low _ _ => low != 0 && body.endsAtEnd
  | group _ body => body.endsAtEnd
  | seq items => rowEndsAtEnd items
  | alt items => allEndAtEnd items
  | _ => false

def rowEndsAtEnd : List Shape → Bool
  | [] => false
  | item :: rest => rowEndsAtEnd rest || (allZeroWidth rest && item.endsAtEnd)

def allEndAtEnd : List Shape → Bool
  | [] => true
  | item :: rest => item.endsAtEnd && allEndAtEnd rest

end

end Shape

mutual

/-- The form in which an expression is compiled. -/
def shape : Regex → Shape
  | empty => .empty
  | one set => .ofRanges set.charRanges
  | look condition => .look condition
  | seq items => .ofRow (shapes items)
  | alt items => .ofAlternatives (shapes items)
  | rounds body low high greedy => .ofRounds body.shape low high greedy
  | group index body => .group index body.shape

def shapes : List Regex → List Shape
  | [] => []
  | item :: rest => item.shape :: shapes rest

end

end TypedJson.Regex
