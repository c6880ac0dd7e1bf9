import TypedJson.Unicode.Blank
import TypedJson.Unicode.Folding

namespace TypedJson.Regex

/-- A set of characters as an expression, so that membership follows the way in which the set was
written. -/
inductive CharSet
  | ranges (list : List (Nat × Nat))
  | union (left right : CharSet)
  | intersection (left right : CharSet)
  | difference (left right : CharSet)
  | symmetricDifference (left right : CharSet)
  | complement (set : CharSet)
  /-- All characters that differ from a member in case only. -/
  | caseClosure (set : CharSet)
  /-- The same for the letters of ASCII. -/
  | asciiCaseClosure (set : CharSet)
deriving DecidableEq

namespace CharSet

/-- The other case of an ASCII letter, and any other code point itself. -/
def asciiOtherCase (code : Nat) : Nat :=
  if 65 ≤ code ∧ code ≤ 90 then code + 32
  else if 97 ≤ code ∧ code ≤ 122 then code - 32
  else code

def containsCode : CharSet → Nat → Bool
  | ranges list, code => Unicode.inRanges list code
  | union left right, code => left.containsCode code || right.containsCode code
  | intersection left right, code => left.containsCode code && right.containsCode code
  | difference left right, code => left.containsCode code && !right.containsCode code
  | symmetricDifference left right, code => left.containsCode code != right.containsCode code
  | complement set, code => !set.containsCode code
  | caseClosure set, code => (Unicode.caseOrbit code).any set.containsCode
  | asciiCaseClosure set, code =>
    set.containsCode code || set.containsCode (asciiOtherCase code)

def contains (set : CharSet) (char : Char) : Bool := set.containsCode char.toNat

def empty : CharSet := ranges []

def all : CharSet := ranges [(0, 0x10FFFF)]

def single (char : Char) : CharSet := ranges [(char.toNat, char.toNat)]

def between (first last : Char) : CharSet := ranges [(first.toNat, last.toNat)]

def blank : CharSet := ranges Unicode.blankRanges

/-- The union of several sets. -/
def unionAll : List CharSet → CharSet
  | [] => empty
  | [set] => set
  | set :: rest => union set (unionAll rest)

/-- The letters of ASCII that differ from a member in case only, and the members. -/
def closeUnderAsciiCase (ranges : Unicode.Ranges) : Unicode.Ranges :=
  Unicode.normalize (ranges ++ (List.range 26).flatMap fun index =>
    if Unicode.inRanges ranges (65 + index) || Unicode.inRanges ranges (97 + index) then
      [(65 + index, 65 + index), (97 + index, 97 + index)]
    else [])

/-- The code points of a set in normal form. -/
def codeRanges : CharSet → Unicode.Ranges
  | ranges list => Unicode.normalize list
  | union left right => Unicode.union left.codeRanges right.codeRanges
  | intersection left right => Unicode.intersection left.codeRanges right.codeRanges
  | difference left right => Unicode.difference left.codeRanges right.codeRanges
  | symmetricDifference left right =>
    Unicode.symmetricDifference left.codeRanges right.codeRanges
  | complement set => Unicode.complement set.codeRanges
  | caseClosure set => Unicode.closeUnderCase set.codeRanges
  | asciiCaseClosure set => closeUnderAsciiCase set.codeRanges

/-- The characters of a set in normal form: no code that stands for half a character. -/
def charRanges (set : CharSet) : Unicode.Ranges :=
  Unicode.difference set.codeRanges [(0xD800, 0xDFFF)]

/-- A union has the members of both sets. -/
theorem contains_union (left right : CharSet) (char : Char) :
    (union left right).contains char = (left.contains char || right.contains char) := rfl

/-- A complement has what the set lacks. -/
theorem contains_complement (set : CharSet) (char : Char) :
    (complement set).contains char = !set.contains char := rfl

end CharSet

end TypedJson.Regex
