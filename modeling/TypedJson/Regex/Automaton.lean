import Std.Data.HashSet
import TypedJson.Regex.Look

/-
This file lays out regular expressions as automata and finds the preferred match at a position:
earlier alternatives first, greedy rounds before the end and lazy rounds after it. A choice is
made at most once at each position, so a search ends, and a way that was given up is not tried
again.
-/

namespace TypedJson.Regex

/-- A state of an automaton. -/
inductive State
  | accept
  | one (set : CharSet) (next : Nat)
  | check (condition : Look) (next : Nat)
  /-- Goes on at the first state, and later at the second. -/
  | split (first second : Nat)
  /-- Keeps the position in a slot. -/
  | mark (slot next : Nat)

structure Automaton where
  start : Nat
  states : Array State

/-- States built so far, and the state from which they start. -/
abbrev Built := Nat × Array State

/-- What builds a part that leads to a given state. -/
abbrev Build := Nat → Array State → Built

namespace Automaton

def add (state : State) (states : Array State) : Built := (states.size, states.push state)

/-- A choice whose preferred side is the first one for greedy rounds. -/
def choice (greedy : Bool) (round done : Nat) : State :=
  if greedy then .split round done else .split done round

/-- Some copies of a part in a row. -/
def buildCopies (build : Build) : Nat → Build
  | 0, next, states => (next, states)
  | count + 1, next, states =>
    let (start, states) := build next states
    buildCopies build count start states

/-- At most some rounds of a part, each with a way to the end. -/
def buildOptional (greedy : Bool) (build : Build) (done : Nat) : Nat → Build
  | 0, next, states => (next, states)
  | count + 1, next, states =>
    let (round, states) := build next states
    let (start, states) := add (choice greedy round done) states
    buildOptional greedy build done count start states

/-- Any number of rounds: the start of a round, the choice after a round, and the states. -/
def buildLoop (greedy : Bool) (build : Build) (next : Nat) (states : Array State) :
    Nat × Nat × Array State :=
  let loop := states.size
  let (round, states) := build loop (states.push .accept)
  (round, loop, states.setIfInBounds loop (choice greedy round next))

/-- A repetition; a round that may be empty is entered by a choice of its own. -/
def buildRounds (mayBeEmpty : Bool) (low : Nat) (high : Option Nat) (greedy : Bool)
    (build : Build) (next : Nat) (states : Array State) : Built :=
  match high with
  | some high =>
    let (start, states) := buildOptional greedy build next (high - low) next states
    buildCopies build low start states
  | none =>
    let (round, loop, states) := buildLoop greedy build next states
    if low = 0 then
      if mayBeEmpty then add (choice greedy round next) states else (loop, states)
    else buildCopies build (low - 1) round states

mutual

/-- The states of an expression that lead to a given state. -/
def build : Regex → Build
  | empty, next, states => (next, states)
  | one set, next, states => add (.one set next) states
  | look condition, next, states => add (.check condition next) states
  | seq items, next, states => buildAll items next states
  | alt items, next, states => buildAny items next states
  | rounds body low high greedy, next, states =>
    buildRounds body.mayBeEmpty low high greedy (build body) next states
  | group index body, next, states =>
    let (close, states) := add (.mark (2 * index + 1) next) states
    let (start, states) := build body close states
    add (.mark (2 * index) start) states

def buildAll : List Regex → Build
  | [], next, states => (next, states)
  | item :: rest, next, states =>
    let (start, states) := buildAll rest next states
    build item start states

def buildAny : List Regex → Build
  | [], next, states => add (.one .empty next) states
  | [item], next, states => build item next states
  | item :: rest, next, states =>
    let (later, states) := buildAny rest next states
    let (first, states) := build item next states
    add (.split first later) states

end

/-- The automaton of an expression. -/
def ofRegex (regex : Regex) : Automaton :=
  let (start, states) := build regex 0 #[.accept]
  ⟨start, states⟩

end Automaton

/-- Where one way through an automaton stands, and the positions that it has kept. -/
structure Way where
  state : Nat
  position : Nat
  /-- Slots with positions, the latest first. -/
  marks : List (Nat × Nat)

namespace Way

def slot? (way : Way) (slot : Nat) : Option Nat := way.marks.lookup slot

end Way

/-- The character before a position. -/
def charBefore (text : Array Char) (index : Nat) : Option Char :=
  if index = 0 then none else text[index - 1]?

namespace Automaton

/--
The first way that reaches the end. The fuel counts steps; the choices made so far are numbers of
a state and a position.
-/
def search (automaton : Automaton) (text : Array Char) :
    Nat → Std.HashSet Nat → List Way → Option Way
  | 0, _, _ => none
  | _ + 1, _, [] => none
  | fuel + 1, chosen, way :: later =>
    match automaton.states[way.state]? with
    | none => none
    | some .accept => some way
    | some (.one set next) =>
      if text[way.position]?.any set.contains then
        search automaton text fuel chosen ({ way with state := next, position := way.position + 1 }
          :: later)
      else search automaton text fuel chosen later
    | some (.check condition next) =>
      if condition.holds (charBefore text way.position) text[way.position]? then
        search automaton text fuel chosen ({ way with state := next } :: later)
      else search automaton text fuel chosen later
    | some (.split first second) =>
      let choice := way.state * (text.size + 1) + way.position
      if chosen.contains choice then search automaton text fuel chosen later
      else
        search automaton text fuel (chosen.insert choice)
          ({ way with state := first } :: { way with state := second } :: later)
    | some (.mark slot next) =>
      search automaton text fuel chosen
        ({ way with state := next, marks := (slot, way.position) :: way.marks } :: later)

/-- The preferred match at a position. Between two choices no state is passed twice. -/
def match? (automaton : Automaton) (text : Array Char) (start : Nat) : Option Way :=
  let states := automaton.states.size + 1
  automaton.search text (2 * states * states * (text.size + 2)) ∅ [⟨automaton.start, start, []⟩]

end Automaton

end TypedJson.Regex
