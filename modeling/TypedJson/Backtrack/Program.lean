import TypedJson.Backtrack.Expression
import TypedJson.Regex.Automaton
import TypedJson.Regex.Footprint

namespace TypedJson.Backtrack

open TypedJson.Regex (Look)

/-- An instruction of a search. What needs no backtracking is left whole to an ordinary regular
expression, which finds one end and never another. -/
inductive Instruction
  | finish
  | anyChar (lineFeed : Bool)
  | check (look : Look)
  | text (chars : List Char)
  /-- Moves to the end of the preferred match and sets the groups as it does, or unsets them. -/
  | plain (automaton : Regex.Automaton) (groups : List Nat)
  /-- Goes on at the first address, and later at the second. -/
  | split (first second : Nat)
  | jump (target : Nat)
  /-- Keeps the position in a slot. -/
  | save (slot : Nat)
  /-- Starts a count in a slot. -/
  | startCount (slot : Nat)
  /-- Moves to the position in a slot. -/
  | restore (slot : Nat)
  /-- One more round, unless the count in the slot is the highest. -/
  | countRound (low : Nat) (high : Option Nat) (next slot : Nat) (greedy : Bool)
  /-- One more round, if the last one moved from the position in the second slot. -/
  | movingRound (low next slot start : Nat) (greedy : Bool)
  /-- Fails, together with what was left to try since the address that follows was set aside. -/
  | failLookAround
  | goBack (count : Nat)
  | reference (slot : Nat)
  | groupSet (slot : Nat)
  | beginAtomic
  | endAtomic
  | searchStart

/-- Instructions in a row, and the first slot that is free after them. -/
structure Layout where
  code : List Instruction
  slots : Nat

namespace Layout

def nothing (slots : Nat) : Layout := ⟨[], slots⟩

def single (instruction : Instruction) (slots : Nat) : Layout := ⟨[instruction], slots⟩

end Layout

namespace Expression

/-- One ordinary regular expression for expressions in a row. -/
def plainRun? (items : List Expression) : Option (List Instruction) :=
  match items with
  | [] => some []
  | items =>
    match (concat items).literalText? with
    | some chars => some [.text chars]
    | none => do
      let regex ← (concat items).plain?
      if regex.isCompilable then return [.plain (.ofRegex regex) regex.groups] else none

/-- Whether an item may stand in the run before the first hard one. -/
def leads (item : Expression) : Bool :=
  item.isConstSize && !item.isHard

/-- Whether an item may stand in the run after the last hard one. -/
def trails (hard : Bool) (item : Expression) : Bool :=
  (!hard || item.isConstSize) && !item.isHard

/-- The lengths of the run before the first hard item and of the part that follows it. -/
def runs (hard : Bool) (items : List Expression) : Nat × Nat :=
  let first := (items.takeWhile leads).length
  let rest := items.drop first
  (first, rest.length - (rest.reverse.takeWhile (trails hard)).length)

/-- The moves to the start of a look-behind. -/
def startBehind (behind : Bool) (body : Expression) : Option (List Instruction) :=
  if behind then
    if body.isConstSize then some [.goBack body.minSize] else none
  else some []

/-- The layout of a repetition, given that of one round from some address and slot. -/
def roundsLayout? (minSize low : Nat) (high : Option Nat) (greedy : Bool) (start slots : Nat)
    (body : Nat → Nat → Option Layout) : Option Layout := do
  let split (one other : Nat) := if greedy then Instruction.split one other
    else Instruction.split other one
  if low = 0 ∧ high = some 1 then
    let round ← body (start + 1) slots
    let next := start + 1 + round.code.length
    return ⟨split (start + 1) next :: round.code, round.slots⟩
  else if high = none ∧ minSize = 0 then
    let round ← body (start + 2) (slots + 2)
    let next := start + 3 + round.code.length
    return ⟨.startCount slots :: .movingRound low next slots (slots + 1) greedy ::
      round.code ++ [.jump (start + 1)], round.slots⟩
  else if low = 0 ∧ high = none then
    let round ← body (start + 1) slots
    let next := start + 2 + round.code.length
    return ⟨split (start + 1) next :: round.code ++ [.jump start], round.slots⟩
  else if low = 1 ∧ high = none then
    let round ← body start slots
    let next := start + round.code.length + 1
    return ⟨round.code ++ [split start next], round.slots⟩
  else
    let round ← body (start + 2) (slots + 1)
    let next := start + 3 + round.code.length
    return ⟨.startCount slots :: .countRound low high next slots greedy ::
      round.code ++ [.jump (start + 1)], round.slots⟩

/-- The layout of one look-around, given that of its body from some address and slot. -/
def aroundLayout? (behind negated : Bool) (expression : Expression) (start slots : Nat)
    (body : Nat → Nat → Option Layout) : Option Layout := do
  let back ← startBehind behind expression
  let first := start + 1 + back.length
  if negated then
    let inner ← body first slots
    let next := first + inner.code.length + 1
    return ⟨.split (start + 1) next :: back ++ inner.code ++ [.failLookAround], inner.slots⟩
  else
    let inner ← body first (slots + 1)
    return ⟨.save slots :: back ++ inner.code ++ [.restore slots], inner.slots⟩

mutual

/--
The instructions of an expression, from an address and a first free slot. An expression that is
not hard is laid out in full only inside of a hard one.
-/
def layout? (hard : Bool) (start slots : Nat) (expression : Expression) :
    Option Layout :=
  if !hard && !expression.isHard then
    (plainRun? [expression]).map fun code => ⟨code, slots⟩
  else
    match expression with
    | empty => some (.nothing slots)
    | anyChar lineFeed => some (.single (.anyChar lineFeed) slots)
    | condition look => some (.single (.check look) slots)
    | literal char ignoreCase => (plainRun? [literal char ignoreCase]).map fun code => ⟨code, slots⟩
    | set regex => (plainRun? [set regex]).map fun code => ⟨code, slots⟩
    | concat items => do
      let (first, middle) := runs hard items
      let before ← plainRun? (items.take first)
      let inside ← rowLayout? (start + before.length) slots first middle items
      let after ← plainRun? (items.drop (first + middle))
      return ⟨before ++ inside.code ++ after, inside.slots⟩
    | alternation items => choiceLayout? hard start slots items
    | group index body => do
      let inner ← layout? hard (start + 1) slots body
      return ⟨.save (2 * index) :: inner.code ++ [.save (2 * index + 1)], inner.slots⟩
    | lookAround behind negated (alternation items) =>
      if behind && !(alternation items).isConstSize then
        if negated then behindAll? start slots items
        else behindAny? start slots items
      else
        aroundLayout? behind negated (alternation items) start slots fun start slots =>
          layout? false start slots (alternation items)
    | lookAround behind negated body =>
      aroundLayout? behind negated body start slots fun start slots =>
        layout? false start slots body
    | rounds body low high greedy =>
      let hard := hard || (!(low = 0 && high == some 1) && body.isHard)
      roundsLayout? body.minSize low high greedy start slots fun start slots =>
        layout? hard start slots body
    | backReference index => some (.single (.reference (2 * index)) slots)
    | atomic body => do
      let inner ← layout? false (start + 1) slots body
      return ⟨.beginAtomic :: inner.code ++ [.endAtomic], inner.slots⟩
    | keepOut => some (.single (.save 0) slots)
    | searchStart => some (.single .searchStart slots)
    | groupSet index => some (.single (.groupSet (2 * index)) slots)
    | conditional test yes no => do
      let test ← layout? hard (start + 2) slots test
      let yesStart := start + 3 + test.code.length
      let yes ← layout? hard yesStart test.slots yes
      let noStart := yesStart + yes.code.length + 1
      let no ← layout? hard noStart yes.slots no
      return ⟨.beginAtomic :: .split (start + 2) noStart :: test.code ++ [.endAtomic] ++
        yes.code ++ [.jump (noStart + no.code.length)] ++ no.code, no.slots⟩

/-- The items of a row after the first ones, as many as are given. -/
def rowLayout? (start slots first count : Nat) :
    List Expression → Option Layout
  | [] => some (.nothing slots)
  | item :: rest =>
    if first ≠ 0 then rowLayout? start slots (first - 1) count rest
    else if count = 0 then some (.nothing slots)
    else do
      let item ← layout? true start slots item
      let rest ← rowLayout? (start + item.code.length) item.slots 0 (count - 1) rest
      return ⟨item.code ++ rest.code, rest.slots⟩

/-- One of several, in their order. -/
def choiceLayout? (hard : Bool) (start slots : Nat) :
    List Expression → Option Layout
  | [] => some (.nothing slots)
  | [item] => layout? hard start slots item
  | item :: rest => do
    let item ← layout? hard (start + 1) slots item
    let next := start + 2 + item.code.length
    let rest ← choiceLayout? hard next item.slots rest
    return ⟨.split (start + 1) next :: item.code ++ .jump (next + rest.code.length) :: rest.code,
      rest.slots⟩

/-- A look-behind of one of several. -/
def behindAny? (start slots : Nat) : List Expression → Option Layout
  | [] => some (.nothing slots)
  | [item] =>
    aroundLayout? true false item start slots fun start slots =>
      layout? false start slots item
  | item :: rest => do
    let item ← aroundLayout? true false item (start + 1) slots fun start slots =>
      layout? false start slots item
    let next := start + 2 + item.code.length
    let rest ← behindAny? next item.slots rest
    return ⟨.split (start + 1) next :: item.code ++ .jump (next + rest.code.length) :: rest.code,
      rest.slots⟩

/-- A negated look-behind of each of several. -/
def behindAll? (start slots : Nat) : List Expression → Option Layout
  | [] => some (.nothing slots)
  | item :: rest => do
    let item ← aroundLayout? true true item start slots fun start slots =>
      layout? false start slots item
    let rest ← behindAll? (start + item.code.length) item.slots rest
    return ⟨item.code ++ rest.code, rest.slots⟩

end

/-- A part that is not hard is laid out as one run where its surroundings are not hard. -/
theorem layout?_easy {body : Expression} (easy : body.isHard = false) (start slots : Nat) :
    layout? false start slots body = (plainRun? [body]).map fun code => ⟨code, slots⟩ := by
  rw [layout?.eq_def, if_pos (by simp [easy])]

/-- A look-around of what is not hard and can be stepped back over is laid out around one run. -/
theorem layout?_lookAround {behind negated : Bool} {body : Expression}
    (easy : body.isHard = false) (sized : behind = true → body.isConstSize = true)
    (start slots : Nat) :
    layout? true start slots (.lookAround behind negated body) =
      aroundLayout? behind negated body start slots fun _ slots =>
        (plainRun? [body]).map fun code => ⟨code, slots⟩ := by
  have inner : (fun start slots => layout? false start slots body) = fun _ slots =>
      (plainRun? [body]).map fun code => (⟨code, slots⟩ : Layout) := by
    funext start slots
    exact layout?_easy easy start slots
  rw [← inner]
  cases body with
  | alternation items =>
      have fixed : ¬(behind && !(alternation items).isConstSize) = true := by
        simpa using sized
      simp [layout?, fixed]
  | _ => simp [layout?]

end Expression

/-- The instructions of a whole search, and how many slots they use. -/
structure Program where
  code : Array Instruction
  slots : Nat

namespace Program

/-- A search for an expression from each position, the earliest first. -/
def search? (groups : Nat) (expression : Expression) : Option Program := do
  let body ← expression.layout? true 4 (2 * (groups + 1))
  let code : List Instruction :=
    .split 3 1 :: .anyChar true :: .jump 0 :: .save 0 :: body.code ++ [.save 1, .finish]
  return ⟨code.toArray, body.slots⟩

end Program

end TypedJson.Backtrack
