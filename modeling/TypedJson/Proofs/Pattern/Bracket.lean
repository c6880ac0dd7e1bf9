import TypedJson.Proofs.Pattern.ClassText
import TypedJson.Proofs.Pattern.Image

/-
This file holds the bracket expressions of ECMAScript as lists of items, with the characters that
they stand for. A bracket goes to the engines nearly as it is written, so it keeps its meaning only
where no two items make up something else there.
-/

namespace TypedJson.Pattern

open TypedJson.Regex (CharSet ClassExpression CommonClass)

/-- The classes of ASCII that an escape names. -/
inductive AsciiKind
  | digit
  | word
deriving DecidableEq

namespace AsciiKind

def contains : AsciiKind → Char → Bool
  | digit, char => char.isDigit
  | word, char => char.isAlphanum || char == '_'

def common : AsciiKind → CommonClass
  | digit => .digit
  | word => .word

end AsciiKind

/-- One of the escapes for a class of ASCII or for all other characters. -/
structure ClassEscape where
  negated : Bool
  kind : AsciiKind
deriving DecidableEq

namespace ClassEscape

def letter (escape : ClassEscape) : Char := kindLetter escape.negated escape.kind.common

def text (escape : ClassEscape) : List Char := ['\\', escape.letter]

def contains (escape : ClassEscape) (char : Char) : Bool :=
  escape.kind.contains char != escape.negated

end ClassEscape

/-- The characters that stand for themselves in a bracket. -/
def isBracketLiteral (char : Char) : Bool := !"]\\-".toList.contains char

/-- The characters that stand for themselves in a bracket after a backslash. -/
def isBracketQuotable (char : Char) : Bool := "][-^.\\".toList.contains char

/-- What stands in a bracket. A hyphen that makes no range stands for itself. -/
inductive BracketItem
  | literal (char : Char) (allowed : isBracketLiteral char = true)
  | range (first last : Char) (firstAllowed : isBracketLiteral first = true)
      (lastAllowed : isBracketLiteral last = true) (ordered : first ≤ last)
  | shorthand (escape : ClassEscape)
  | backspace
  | quoted (char : Char) (allowed : isBracketQuotable char = true)
  | hyphen

namespace BracketItem

def text : BracketItem → List Char
  | literal char _ => [char]
  | range first last _ _ _ => [first, '-', last]
  | shorthand escape => escape.text
  | backspace => ['\\', 'b']
  | quoted char _ => ['\\', char]
  | hyphen => ['-']

/-- Whether a character is one of those that the item stands for. -/
def contains (char : Char) : BracketItem → Bool
  | literal other _ => char == other
  | range first last _ _ _ => first ≤ char && char ≤ last
  | shorthand escape => escape.contains char
  | backspace => char == '\x08'
  | quoted other _ => char == other
  | hyphen => char == '-'

def isHyphen : BracketItem → Bool
  | hyphen => true
  | _ => false

/-- The text of an item as the class reader gets it; a backspace may be written by its code. -/
def image (byCode : Bool) : BracketItem → List Char
  | literal char _ => [char]
  | range first last _ _ _ => [first, '-', last]
  | shorthand escape => Token.escapeText .linear true escape.letter
  | backspace => if byCode then Token.escapeText .linear true 'b' else ['\x08']
  | quoted char _ => ['\\', char]
  | hyphen => ['-']

/-- Whether the text for an engine ends in a single character, which a hyphen makes a range. -/
def endsBare : BracketItem → Bool
  | literal _ _ => true
  | range _ _ _ _ _ => false
  | shorthand escape => escape == ⟨false, .word⟩
  | backspace => true
  | quoted _ _ => true
  | hyphen => false

/-- Whether a text starts with the character that makes an operator of a literal. -/
def doubles (text : List Char) : BracketItem → Bool
  | literal char _ => (char == '&' || char == '~') && text.head? == some char
  | hyphen => text.head? == some '-'
  | _ => false

/-- Whether an item keeps its meaning before some others. -/
def standsBefore (item : BracketItem) (others : List BracketItem) : Bool :=
  item.text.head? != some '[' && !item.doubles (others.flatMap text) &&
    match others with
    | hyphen :: _ :: _ => !item.endsBare
    | _ => true

/-- Whether each item keeps its meaning before those after it. -/
def readApart : List BracketItem → Bool
  | [] => true
  | item :: others => item.standsBefore others && readApart others

end BracketItem

/-- A bracket expression. A caret at its start negates it. -/
structure Bracket where
  negated : Bool
  items : List BracketItem
  filled : items ≠ []
  caret : negated = false → (items.flatMap BracketItem.text).head? ≠ some '^'

namespace Bracket

def text (bracket : Bracket) : List Char :=
  '[' :: negation bracket.negated ++ bracket.items.flatMap BracketItem.text ++ [']']

def contains (bracket : Bracket) (char : Char) : Bool :=
  bracket.items.any (BracketItem.contains char) != bracket.negated

/-- The text of a bracket as the class reader gets it. -/
def image (byCode : Bool) (bracket : Bracket) : List Char :=
  '[' :: negation bracket.negated ++ bracket.items.flatMap (BracketItem.image byCode) ++ [']']

/-- Whether all items keep their meaning; hyphens at the start always do. -/
def readsApart (bracket : Bracket) : Bool :=
  BracketItem.readApart (bracket.items.dropWhile BracketItem.isHyphen)

end Bracket

/-! ### Texts for engines -/

variable {engine : Engine} {rest : List Char}

/-- A literal in a bracket is translated to itself. -/
theorem translated_bracketLiteral {char : Char} (allowed : isBracketLiteral char = true) :
    translated engine true (char :: rest) = char :: translated engine true rest :=
  translated_inside (ne_of_test allowed (by decide)) (ne_of_test allowed (by decide))

/-- An escaped sign stays escaped. -/
theorem escapeText_quotable {inClass : Bool} {char : Char}
    (allowed : isBracketQuotable char = true) :
    Token.escapeText engine inClass char = ['\\', char] :=
  escapeText_escapable (of_contains Regex.Reader.isEscapable (by decide) allowed)

/-- An item is translated to its image. -/
theorem BracketItem.translated_text (item : BracketItem) :
    translated engine true (item.text ++ rest) = item.image true ++ translated engine true rest := by
  cases item with
  | literal char allowed => exact translated_bracketLiteral allowed
  | range first last firstAllowed lastAllowed ordered =>
      show translated engine true (first :: '-' :: last :: rest) = _
      have hyphen : translated engine true ('-' :: last :: rest) =
          '-' :: translated engine true (last :: rest) := translated_cons (by decide)
      rw [translated_bracketLiteral firstAllowed, hyphen, translated_bracketLiteral lastAllowed]
      rfl
  | shorthand escape =>
      show translated engine true ('\\' :: escape.letter :: rest) = _
      rw [translated_pair, ClassEscape.letter, escapeText_common]
      rfl
  | backspace => rfl
  | quoted char allowed =>
      show translated engine true ('\\' :: char :: rest) = _
      rw [translated_pair, escapeText_quotable allowed]
      rfl
  | hyphen => exact translated_cons (by decide)

/-- Items are translated one by one. -/
theorem BracketItem.translated_texts (items : List BracketItem) :
    translated engine true (items.flatMap text ++ rest) =
      items.flatMap (image true) ++ translated engine true rest := by
  induction items with
  | nil => rfl
  | cons item others ih =>
      rw [List.flatMap_cons, List.append_assoc, translated_text, ih, List.flatMap_cons,
        List.append_assoc]

/-- A bracket is translated to its image. -/
theorem Bracket.translated_text (bracket : Bracket) :
    translated engine false (bracket.text ++ rest) =
      bracket.image true ++ translated engine false rest := by
  have opening : translated engine false (bracket.text ++ rest) =
      '[' :: translated engine true (negation bracket.negated ++
        (bracket.items.flatMap BracketItem.text ++ ']' :: rest)) := by
    rw [text, List.append_assoc, List.append_assoc, List.cons_append]
    exact translated_cons (by decide)
  have caret : ∀ input, translated engine true (negation bracket.negated ++ input) =
      negation bracket.negated ++ translated engine true input := by
    intro input
    cases bracket.negated with
    | false => rfl
    | true => exact translated_cons (by decide)
  have closing : translated engine true (']' :: rest) = ']' :: translated engine false rest :=
    translated_cons (by decide)
  rw [opening, caret, BracketItem.translated_texts, closing, image]
  simp

end TypedJson.Pattern
