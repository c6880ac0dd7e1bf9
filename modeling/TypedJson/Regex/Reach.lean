import TypedJson.Regex.Look

namespace TypedJson.Regex

/-- A set of positions of a text, one bit for each. -/
structure Positions where
  bits : Nat
deriving DecidableEq

namespace Positions

def contains (positions : Positions) (index : Nat) : Bool := positions.bits.testBit index

def none : Positions := ⟨0⟩

/-- All positions up to and including the last. -/
def upTo (last : Nat) : Positions := ⟨(1 <<< (last + 1)) - 1⟩

def union (left right : Positions) : Positions := ⟨left.bits ||| right.bits⟩

def intersection (left right : Positions) : Positions := ⟨left.bits &&& right.bits⟩

/-- Each position moved on by one. -/
def next (positions : Positions) : Positions := ⟨positions.bits <<< 1⟩

def isEmpty (positions : Positions) : Bool := positions.bits == 0

end Positions

/-- The positions at which a character of the set stands. -/
def positionsOf (set : CharSet) : List Char → Positions
  | [] => .none
  | char :: rest => ⟨2 * (positionsOf set rest).bits + (set.contains char).toNat⟩

/-- The positions at which a condition holds, given the character before the text. -/
def positionsWhere (look : Look) (before : Option Char) : List Char → Positions
  | [] => ⟨(look.holds before none).toNat⟩
  | char :: rest =>
    ⟨2 * (positionsWhere look (some char) rest).bits + (look.holds before (some char)).toNat⟩

/-- Takes a step some number of times, or until it changes nothing. -/
def repeatStep (step : Positions → Positions) : Nat → Positions → Positions
  | 0, positions => positions
  | count + 1, positions =>
    let moved := step positions
    if moved = positions then positions else repeatStep step count moved

/-- Collects what at most some number of steps reach, or stops when nothing is new. -/
def collectSteps (step : Positions → Positions) : Nat → Positions → Positions
  | 0, positions => positions
  | count + 1, positions =>
    let more := positions.union (step positions)
    if more = positions then positions else collectSteps step count more

mutual

/-- Where matches end that start in one of the given positions. -/
def reach (text : List Char) : Regex → Positions → Positions
  | empty, starts => starts
  | one set, starts => (starts.intersection (positionsOf set text)).next
  | look condition, starts => starts.intersection (positionsWhere condition none text)
  | seq items, starts => reachAll text items starts
  | alt items, starts => reachAny text items starts
  | rounds body low high _, starts =>
    let started := repeatStep (reach text body) low starts
    match high with
    | none => collectSteps (reach text body) (text.length + 1) started
    | some high => collectSteps (reach text body) (high - low) started
  | group _ body, starts => reach text body starts

def reachAll (text : List Char) : List Regex → Positions → Positions
  | [], starts => starts
  | item :: rest, starts => reachAll text rest (reach text item starts)

def reachAny (text : List Char) : List Regex → Positions → Positions
  | [], _ => .none
  | item :: rest, starts => (reach text item starts).union (reachAny text rest starts)

end

/-- Whether some part of the text matches. -/
def isMatch (regex : Regex) (text : List Char) : Bool :=
  !(reach text regex (.upTo text.length)).isEmpty

end TypedJson.Regex
