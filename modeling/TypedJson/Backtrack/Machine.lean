import TypedJson.Backtrack.Program

namespace TypedJson.Backtrack

/-- Where a search stands. -/
structure State where
  address : Nat
  position : Nat
  /-- What the slots hold: positions and counts. -/
  slots : Array (Option Nat)
  /-- How much was set aside when each open atomic group began. -/
  atomics : List Nat

namespace State

def jumpTo (state : State) (address : Nat) : State := { state with address }

/-- On to the next instruction. -/
def next (state : State) : State := { state with address := state.address + 1 }

def nextFrom (state : State) (position : Nat) : State :=
  { state with address := state.address + 1, position }

def slot (state : State) (index : Nat) : Option Nat := (state.slots[index]?).join

def count (state : State) (index : Nat) : Nat := (state.slot index).getD 0

def keep (state : State) (index value : Nat) : State :=
  { state with slots := state.slots.setIfInBounds index (some value) }

/-- The groups as a way has set them; those that it did not enter are unset. -/
def takeGroups (state : State) (way : Regex.Way) (groups : List Nat) : State :=
  { state with
    slots := groups.foldl (fun slots group =>
      (slots.setIfInBounds (2 * group) (way.slot? (2 * group))).setIfInBounds (2 * group + 1)
        (way.slot? (2 * group + 1))) state.slots }

end State

/-- What an instruction leads to. -/
inductive Step
  | accept
  | fail
  | goOn (state : State)
  /-- Goes on, with another state to try later. -/
  | branch (state later : State)
  /-- Goes on, with only the oldest states left to try. -/
  | cut (state : State) (count : Nat)
  /-- Fails, together with all states set aside since one at the address. -/
  | failSince (address : Nat)

/-- Whether a part of the text stands at a position. -/
def standsAt (text : Array Char) (position : Nat) : List Char → Bool
  | [] => true
  | char :: rest => text[position]? == some char && standsAt text (position + 1) rest

/-- A new round now and the end later, or the other way round. -/
def roundOrEnd (greedy : Bool) (round done : State) : Step :=
  if greedy then .branch round done else .branch done round

def Instruction.step (text : Array Char) (pending : Nat) (state : State) : Instruction → Step
  | finish => .accept
  | anyChar lineFeed =>
    match text[state.position]? with
    | some char =>
      if lineFeed || char != '\n' then .goOn (state.nextFrom (state.position + 1)) else .fail
    | none => .fail
  | check look =>
    if look.holds (Regex.charBefore text state.position) text[state.position]? then
      .goOn state.next
    else .fail
  | Instruction.text chars =>
    if standsAt text state.position chars then
      .goOn (state.nextFrom (state.position + chars.length))
    else .fail
  | plain automaton groups =>
    match automaton.match? text state.position with
    | some way => .goOn ((state.takeGroups way groups).nextFrom way.position)
    | none => .fail
  | split first second => .branch (state.jumpTo first) (state.jumpTo second)
  | jump target => .goOn (state.jumpTo target)
  | save slot => .goOn (state.keep slot state.position).next
  | startCount slot => .goOn (state.keep slot 0).next
  | restore slot =>
    match state.slot slot with
    | some position => .goOn (state.nextFrom position)
    | none => .fail
  | countRound low high next slot greedy =>
    let count := state.count slot
    if high = some count then .goOn (state.jumpTo next)
    else
      let state := state.keep slot (count + 1)
      if low ≤ count then roundOrEnd greedy state.next (state.jumpTo next) else .goOn state.next
  | movingRound low next slot start greedy =>
    let count := state.count slot
    if low < count ∧ state.slot start = some state.position then .fail
    else
      let state := state.keep slot (count + 1)
      if low ≤ count then
        let state := state.keep start state.position
        roundOrEnd greedy state.next (state.jumpTo next)
      else .goOn state.next
  | failLookAround => .failSince (state.address + 1)
  | goBack count =>
    if count ≤ state.position then .goOn (state.nextFrom (state.position - count)) else .fail
  | reference slot =>
    match state.slot slot, state.slot (slot + 1) with
    | some first, some last =>
      let chars := (text.extract first last).toList
      if standsAt text state.position chars then
        .goOn (state.nextFrom (state.position + chars.length))
      else .fail
    | _, _ => .fail
  | groupSet slot => if (state.slot slot).isSome then .goOn state.next else .fail
  | beginAtomic => .goOn { state.next with atomics := pending :: state.atomics }
  | endAtomic =>
    match state.atomics with
    | count :: atomics => .cut { state.next with atomics } count
    | [] => .fail
  | searchStart => if state.position = 0 then .goOn state.next else .fail

/-- The limits of a search. -/
structure Limits where
  steps : Nat
  failures : Nat
  pending : Nat

namespace Limits

def standard : Limits := ⟨1000000000000, 1000000, 1000000⟩

end Limits

/-- The states to try later without those set aside since one at the address, and it. -/
def dropSince (address : Nat) : List State → List State
  | [] => []
  | state :: rest => if state.address = address then rest else dropSince address rest

namespace Program

/-- What the instruction at the address of a state leads to, with that many states set aside. -/
def step (program : Program) (text : Array Char) (pending : Nat) (state : State) : Step :=
  match program.code[state.address]? with
  | some instruction => instruction.step text pending state
  | none => .fail

/--
Whether the search ends in a match; nothing if it is given up. The arguments count the steps and
failures that are left; the states set aside stand in a list, and their number beside it.
-/
def run (program : Program) (text : Array Char) (limit : Nat) :
    Nat → Nat → Nat → List State → State → Option Bool
  | 0, _, _, _, _ => none
  | steps + 1, failures, pending, later, state =>
    let retry (pending : Nat) (later : List State) : Option Bool :=
      match later, failures with
      | [], _ => some false
      | state :: later, failures + 1 =>
        run program text limit steps failures (pending - 1) later state
      | _, _ => none
    match program.step text pending state with
    | .accept => some true
    | .fail => retry pending later
    | .goOn state => run program text limit steps failures pending later state
    | .branch state other =>
      if pending < limit then
        run program text limit steps failures (pending + 1) (other :: later) state
      else none
    | .cut state count =>
      run program text limit steps failures (min count pending) (later.drop (pending - count)) state
    | .failSince address =>
      let later := dropSince address later
      retry later.length later

/-- Where every search starts. -/
def start (program : Program) : State := ⟨0, 0, Array.replicate program.slots none, []⟩

/-- Whether some part of the text matches; nothing if the search is given up. -/
def outcome (program : Program) (text : Array Char) : Option Bool :=
  let limits := Limits.standard
  program.run text limits.pending limits.steps limits.failures 0 [] program.start

/-- Whether some part of the text matches. A search that fails too often or sets too much aside is
given up, and then nothing matches. -/
def isMatch (program : Program) (text : Array Char) : Bool := (program.outcome text).getD false

end Program

end TypedJson.Backtrack
