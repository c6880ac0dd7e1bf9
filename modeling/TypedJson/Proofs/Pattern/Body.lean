import TypedJson.Pattern.Basic
import TypedJson.Proofs.Regex.Matches

/-
This file holds the bodies of patterns as trees: the ECMAScript syntax without look-around, back
references and named groups. It gives the text of a body, what becomes of the text for an engine,
and the matches that a body is to have when some characters count as word characters.
-/

namespace TypedJson.Pattern

open TypedJson.Regex (CharSet CommonClass Rounds WithinRounds asciiWord)

/-- The characters that stand for themselves outside of classes. -/
def isPlain (char : Char) : Bool := !"\\.+*?()|[\x7b^$".toList.contains char

/-- The characters that stand for themselves inside of classes. -/
def isMember (char : Char) : Bool := !"\\[]^-&~".toList.contains char

/-- A character is one of some that all pass a test. -/
theorem of_contains (test : Char → Bool) {marks : List Char} (all : marks.all test = true)
    {char : Char} (inside : marks.contains char = true) : test char = true := by
  have known : char ∈ marks := by simpa using inside
  exact List.all_eq_true.mp all char known

/-- Characters that a test tells apart are different ones. -/
theorem ne_of_test {test : Char → Bool} {value : Bool} {char other : Char}
    (given : test char = value) (apart : test other ≠ value) : char ≠ other := by
  rintro rfl
  exact apart given

/-- A character is none of those that a test tells from it. -/
theorem contains_eq_false {test : Char → Bool} {value : Bool} {marks : List Char}
    (others : marks.all (fun mark => test mark != value) = true) {char : Char}
    (given : test char = value) : marks.contains char = false := by
  cases found : marks.contains char with
  | false => rfl
  | true =>
      have other := of_contains (fun mark => test mark != value) others found
      rw [given] at other
      exact absurd other (by simp)

/-- The control characters with an escape of their own. -/
inductive Control
  | tab
  | lineFeed
  | verticalTab
  | formFeed
  | carriageReturn

namespace Control

def letter : Control → Char
  | tab => 't'
  | lineFeed => 'n'
  | verticalTab => 'v'
  | formFeed => 'f'
  | carriageReturn => 'r'

def char : Control → Char
  | tab => '\t'
  | lineFeed => '\n'
  | verticalTab => '\x0b'
  | formFeed => '\x0c'
  | carriageReturn => '\r'

end Control

/-- One character, where some characters may stand for themselves. -/
inductive Literal (isBare : Char → Bool)
  | bare (char : Char) (allowed : isBare char = true)
  | quoted (char : Char) (allowed : Regex.Reader.isEscapable char = true)
  | control (kind : Control)

namespace Literal

variable {isBare : Char → Bool}

def char : Literal isBare → Char
  | bare char _ => char
  | quoted char _ => char
  | control kind => kind.char

def text : Literal isBare → List Char
  | bare char _ => [char]
  | quoted char _ => ['\\', char]
  | control kind => ['\\', kind.letter]

end Literal

/-- The letter of a class escape. -/
def kindLetter (negated : Bool) : CommonClass → Char
  | .digit => if negated then 'D' else 'd'
  | .space => if negated then 'S' else 's'
  | .word => if negated then 'W' else 'w'

/-- What stands in a class. -/
inductive Member
  | one (literal : Literal isMember)
  | range (first last : Char) (firstAllowed : isMember first = true)
      (lastAllowed : isMember last = true) (ordered : first ≤ last)
  | common (negated : Bool) (kind : CommonClass)
  | backspace

namespace Member

def text : Member → List Char
  | one literal => literal.text
  | range first last _ _ _ => [first, '-', last]
  | common negated kind => ['\\', kindLetter negated kind]
  | backspace => ['\\', 'b']

/-- The text that engines read for a member; it is the same for both. -/
def image : Member → List Char
  | one literal => literal.text
  | range first last _ _ _ => [first, '-', last]
  | common negated kind => Token.escapeText .linear true (kindLetter negated kind)
  | backspace => Token.escapeText .linear true 'b'

end Member

/-- What stands for one character or for a condition on a position. -/
inductive Leaf
  | one (literal : Literal isPlain)
  | dot
  | start
  | stop
  | common (negated : Bool) (kind : CommonClass)
  | boundary (negated : Bool)
  | set (negated : Bool) (first : Member) (others : List Member)

namespace Leaf

/-- The text of a class with the texts of its members. -/
def setText (negated : Bool) (members : List (List Char)) : List Char :=
  '[' :: (if negated then ['^'] else []) ++ members.flatten ++ [']']

def text : Leaf → List Char
  | one literal => literal.text
  | dot => ['.']
  | start => ['^']
  | stop => ['$']
  | common negated kind => ['\\', kindLetter negated kind]
  | boundary negated => ['\\', if negated then 'B' else 'b']
  | set negated first others => setText negated ((first :: others).map Member.text)

/-- The text that an engine reads for a leaf. -/
def image (engine : Engine) : Leaf → List Char
  | one literal => literal.text
  | dot => ['.']
  | start => ['^']
  | stop => ['$']
  | common negated kind => Token.escapeText engine false (kindLetter negated kind)
  | boundary negated => Token.escapeText engine false (if negated then 'B' else 'b')
  | set negated first others => setText negated ((first :: others).map Member.image)

end Leaf

/-- How often something is to stand; no engine counts further than the limit. -/
inductive Times
  | optional
  | star
  | plus
  | exactly (count : Nat) (small : count ≤ Regex.Reader.countLimit)
  | atLeast (low : Nat) (small : low ≤ Regex.Reader.countLimit)
  | between (low high : Nat) (ordered : low ≤ high) (small : high ≤ Regex.Reader.countLimit)

namespace Times

def text : Times → List Char
  | optional => ['?']
  | star => ['*']
  | plus => ['+']
  | exactly count _ => '{' :: Nat.toDigits 10 count ++ ['}']
  | atLeast low _ => '{' :: Nat.toDigits 10 low ++ [',', '}']
  | between low high _ _ => '{' :: Nat.toDigits 10 low ++ ',' :: Nat.toDigits 10 high ++ ['}']

def low : Times → Nat
  | optional => 0
  | star => 0
  | plus => 1
  | exactly count _ => count
  | atLeast low _ => low
  | between low _ _ _ => low

def high : Times → Option Nat
  | optional => some 1
  | star => none
  | plus => none
  | exactly count _ => some count
  | atLeast _ _ => none
  | between _ high _ _ => some high

/-- The bounds of a repetition are in order. -/
theorem low_le_high (times : Times) {bound : Nat} (given : times.high = some bound) :
    times.low ≤ bound := by
  cases times with
  | optional => exact Nat.zero_le bound
  | star => simp [high] at given
  | plus => simp [high] at given
  | exactly count small =>
      have same : count = bound := Option.some.inj given
      exact Nat.le_of_eq same
  | atLeast low small => simp [high] at given
  | between low most ordered small =>
      have same : most = bound := Option.some.inj given
      exact same ▸ ordered

end Times

/-- A repetition, which may prefer few rounds. -/
structure Count where
  times : Times
  lazy : Bool

def Count.text (count : Count) : List Char := count.times.text ++ if count.lazy then ['?'] else []

/-- The text of a repetition, if there is one. -/
def countText (count : Option Count) : List Char := (count.map Count.text).getD []

/-- What a group or a whole pattern still has from some place on. -/
inductive Body
  | done
  /-- Another alternative. -/
  | or (rest : Body)
  | item (leaf : Leaf) (count : Option Count) (rest : Body)
  | group (captures : Bool) (inner : Body) (count : Option Count) (rest : Body)

/-- How a group opens. -/
def openText (captures : Bool) : List Char := if captures then ['('] else ['(', '?', ':']

namespace Body

def text : Body → List Char
  | done => []
  | or rest => '|' :: rest.text
  | item leaf count rest => leaf.text ++ countText count ++ rest.text
  | group captures inner count rest =>
    openText captures ++ inner.text ++ [')'] ++ countText count ++ rest.text

/-- The text that an engine reads for a body. -/
def image (engine : Engine) : Body → List Char
  | done => []
  | or rest => '|' :: rest.image engine
  | item leaf count rest => leaf.image engine ++ countText count ++ rest.image engine
  | group captures inner count rest =>
    openText captures ++ inner.image engine ++ [')'] ++ countText count ++ rest.image engine

/-- What follows the first alternative. -/
def others : Body → Option Body
  | done => none
  | or rest => some rest
  | item _ _ rest => rest.others
  | group _ _ _ rest => rest.others

end Body

/-- The flags that change what a body matches. -/
structure Rules where
  ignoreCase : Bool
  multiLine : Bool

namespace Rules

/-- The set closed under case if case is ignored. -/
def fold (rules : Rules) (set : CharSet) : CharSet :=
  if rules.ignoreCase then .caseClosure set else set

/-- The set of a class escape that stands alone. -/
def kindSet (rules : Rules) : CommonClass → CharSet
  | .digit => rules.fold (.ranges [(48, 57)])
  | .space => .blank
  | .word => rules.fold asciiWord

end Rules

/-- The rules that the flags of a pattern set. -/
def Parts.rules (parts : Parts) : Rules := ⟨parts.flags.contains 'i', parts.flags.contains 'm'⟩

/-- Whether a pattern is tied to the start of the text. -/
def Parts.sticky (parts : Parts) : Bool := parts.flags.contains 'y'

/-- The set or its complement. -/
def negateIf (negated : Bool) (set : CharSet) : CharSet := if negated then .complement set else set

/-- The set of a member. The case of a class is ignored for all of its members together. -/
def Member.set (rules : Rules) : Member → CharSet
  | one literal => .single literal.char
  | range first last _ _ _ => .between first last
  | common negated kind =>
    if negated then .complement (rules.kindSet kind) else Rules.kindSet ⟨false, false⟩ kind
  | backspace => .single '\x08'

/-- Whether a position is, or is not, between a word character and another or none. -/
def BoundaryAt (word : Char → Bool) (negated : Bool) (text : List Char) (index : Nat) : Prop :=
  ((Regex.charBefore text.toArray index).any word != text[index]?.any word) = !negated

/-- The part of a text between two positions matches a leaf. -/
def Leaf.Matches (rules : Rules) (word : Char → Bool) (text : List Char) (leaf : Leaf)
    (first last : Nat) : Prop :=
  match leaf with
  | one literal => Regex.Matches text (.one (rules.fold (.single literal.char))) first last
  | dot => Regex.Matches text (.one (.complement (.single '\n'))) first last
  | start =>
    Regex.Matches text (.look (if rules.multiLine then .lineStart else .textStart)) first last
  | stop => Regex.Matches text (.look (if rules.multiLine then .lineEnd else .textEnd)) first last
  | common negated kind =>
    Regex.Matches text (.one (negateIf negated (rules.kindSet kind))) first last
  | boundary negated => BoundaryAt word negated text first ∧ first = last
  | set negated member others =>
    Regex.Matches text (.one (negateIf negated
      (rules.fold (.unionAll ((member :: others).map (Member.set rules)))))) first last

/-- Several moves in a row, as many as a repetition allows, or just one. -/
def Repeated (count : Option Count) (move : Nat → Nat → Prop) (first last : Nat) : Prop :=
  match count with
  | none => move first last
  | some count =>
    ∃ rounds, WithinRounds count.times.low count.times.high rounds ∧ Rounds move rounds first last

namespace Body

variable (rules : Rules) (word : Char → Bool) (text : List Char)

mutual

/-- The part of a text between two positions matches the first alternative. -/
def MatchesRow : Body → Nat → Nat → Prop
  | done, first, last => first = last
  | or _, first, last => first = last
  | item leaf count rest, first, last =>
    ∃ middle, Repeated count (leaf.Matches rules word text) first middle ∧
      MatchesRow rest middle last
  | group _ inner count rest, first, last =>
    ∃ middle, Repeated count (fun start stop => MatchesRow inner start stop ∨
      MatchesOthers inner start stop) first middle ∧ MatchesRow rest middle last

/-- The part of a text between two positions matches a later alternative. -/
def MatchesOthers : Body → Nat → Nat → Prop
  | done, _, _ => False
  | or rest, first, last => MatchesRow rest first last ∨ MatchesOthers rest first last
  | item _ _ rest, first, last => MatchesOthers rest first last
  | group _ _ _ rest, first, last => MatchesOthers rest first last

end

/-- The part of a text between two positions matches one of the alternatives. -/
def Matches (body : Body) (first last : Nat) : Prop :=
  MatchesRow rules word text body first last ∨ MatchesOthers rules word text body first last

/-- A match starts somewhere in a text, or at the start of the text if it is tied to it. -/
def Finds (sticky : Bool) (body : Body) : Prop :=
  ∃ first last, first ≤ text.length ∧ (sticky = true → first = 0) ∧
    Matches rules word text body first last

/-- The other alternatives match what the body of them matches. -/
theorem matchesOthers_iff (body : Body) (first last : Nat) :
    MatchesOthers rules word text body first last ↔
      ∃ rest, body.others = some rest ∧ Matches rules word text rest first last := by
  induction body with
  | done => simp [MatchesOthers, others]
  | or rest ih => simp [MatchesOthers, others, Matches]
  | item leaf count rest ih => rw [MatchesOthers, others, ih]
  | group captures inner count rest innerIh ih => rw [MatchesOthers, others, ih]

end Body

end TypedJson.Pattern
