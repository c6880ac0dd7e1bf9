import Std.Data.TreeMap
import TypedJson.Regex.Shape
import TypedJson.Unicode.ByteRow

/-
This file counts the memory of a compiled search, which works on bytes. A search is compiled for
both directions, and each of the two must stay below a limit. Sets of characters share states
through small caches that forget an entry when another one takes its place, so the count depends
on the numbers of the states.
-/

namespace TypedJson.Regex

/-- The states of a compiled search, and the bytes that they take besides their own size. -/
structure Footprint where
  states : Nat
  extra : Nat

/-- What adds to a footprint, unless it becomes too large. -/
abbrev Growth := Footprint → Option Footprint

namespace Footprint

/-- How many bytes a compiled search may take. -/
def limit : Nat := 10485760

def bytes (footprint : Footprint) : Nat := 32 * footprint.states + footprint.extra

def bounded (footprint : Footprint) : Option Footprint :=
  if footprint.bytes ≤ limit then some footprint else none

/-- One more state with some bytes besides. -/
def state (extra : Nat) : Growth := fun footprint =>
  bounded ⟨footprint.states + 1, footprint.extra + extra⟩

/-- A state with byte ranges that each lead to another state. -/
def branches (count : Nat) : Growth := state (8 * count)

/-- Ways from states of choice to other states. -/
def links (count : Nat) : Growth := fun footprint =>
  bounded { footprint with extra := footprint.extra + 4 * count }

/-- The same growth several times, or until the limit is passed. -/
def times (growth : Growth) : Nat → Growth
  | 0, footprint => some footprint
  | count + 1, footprint =>
    match growth footprint with
    | some footprint => times growth count footprint
    | none => none

/-- A place in a cache that depends on all values. -/
def cachePlace (size : Nat) (values : List Nat) : Nat :=
  let mixed := values.foldl (fun hash value => (hash ^^^ value.toUInt64) * 1099511628211)
    (14695981039346656037 : UInt64)
  mixed.toNat % size

/-- States by their places in a cache, each with what it was made of. -/
abbrev Cache := Std.TreeMap Nat (List Nat × Nat)

/-- The state made of some values, from the cache or a new one. -/
def shared (size extra : Nat) (values : List Nat) (cache : Cache) (footprint : Footprint) :
    Option (Nat × Cache × Footprint) :=
  let place := cachePlace size values
  match (cache[place]?).filter fun entry => entry.1 == values with
  | some (_, index) => some (index, cache, footprint)
  | none => do
    let grown ← state extra footprint
    return (footprint.states, cache.insert place (values, footprint.states), grown)

/-- Byte ranges that lead on, each with the state that follows, as values of a cache. -/
def branchValues (ways : List ((Nat × Nat) × Nat)) : List Nat :=
  ways.flatMap fun way => [way.1.1, way.1.2, way.2]

/-- Rows that share their first byte range, as that range and what follows it. -/
def splitByHead (rows : List Unicode.Ranges) : List ((Nat × Nat) × List Unicode.Ranges) :=
  (rows.splitBy fun left right => left.head? == right.head?).filterMap fun group =>
    (group.head?.bind List.head?).map fun head => (head, group.map List.tail)

/--
The states that read the rest of some rows; all rows end in one state. The fuel bounds the length
of rows.
-/
def forwardRows (last : Nat) : Nat → List Unicode.Ranges → Cache → Footprint →
    Option (Nat × Cache × Footprint)
  | 0, _, cache, footprint => some (last, cache, footprint)
  | fuel + 1, rows, cache, footprint =>
    if rows.all List.isEmpty then some (last, cache, footprint)
    else do
      let (ways, cache, footprint) ← (splitByHead rows).foldlM
        (fun (ways, cache, footprint) (head, tails) => do
          let (next, cache, footprint) ← forwardRows last fuel tails cache footprint
          return ((head, next) :: ways, cache, footprint))
        (([] : List ((Nat × Nat) × Nat)), cache, footprint)
      shared 10000 (8 * ways.length) (branchValues ways.reverse) cache footprint

/-- The states that read rows from their ends; all rows start in one state. -/
def backwardRow (last : Nat) (cache : Cache) (footprint : Footprint) (row : Unicode.Ranges) :
    Option (Cache × Footprint) := do
  let (_, cache, footprint) ← row.foldlM
    (fun (next, cache, footprint) range =>
      shared 1000 0 [next, range.1, range.2] cache footprint)
    (last, cache, footprint)
  return (cache, ← links 1 footprint)

/-- A set of characters. -/
def set (backward : Bool) (ranges : Unicode.Ranges) : Growth := fun footprint =>
  if ranges.all fun range => range.2 < 0x80 then do
    let footprint ← state 0 footprint
    branches ranges.length footprint
  else
    let rows := Unicode.rowsOf ranges
    if backward then do
      let footprint ← state 0 footprint
      let last := footprint.states
      let footprint ← state 0 footprint
      let (_, footprint) ← rows.foldlM
        (fun (cache, footprint) row => backwardRow last cache footprint row)
        ((∅ : Cache), footprint)
      return footprint
    else do
      let last := footprint.states
      let footprint ← state 0 footprint
      let (_, _, footprint) ← forwardRows last 4 rows ∅ footprint
      return footprint

/-- Words between those that are empty; of empty words at the start only one counts. -/
def parts (words : List (List Nat)) : List (List (List Nat)) :=
  let later := words.dropWhile List.isEmpty
  let found := collect later
  if later.length < words.length then [] :: found else found
where
  collect : List (List Nat) → List (List (List Nat))
    | [] => [[]]
    | word :: rest =>
      match word, collect rest with
      | [], found => [] :: found
      | word, part :: found => (word :: part) :: found
      | word, [] => [[word]]

/-- The first bytes of words, each with the rests of its words in order. -/
def byFirst (words : List (List Nat)) : List (Nat × List (List Nat)) :=
  words.foldl (fun found word =>
    match word with
    | [] => found
    | first :: rest =>
      if found.any (·.1 == first) then
        found.map fun entry => if entry.1 == first then (first, entry.2 ++ [rest]) else entry
      else found ++ [(first, [rest])]) []

/-- The states of a tree of words. The fuel bounds the length of words. -/
def wordTree : Nat → List (List Nat) → Growth
  | 0, _, footprint => some footprint
  | fuel + 1, words, footprint =>
    if words.all List.isEmpty then some footprint
    else do
      let parts := (parts words).map byFirst
      let footprint ← parts.foldlM (fun footprint part => do
        let footprint ← part.foldlM (fun footprint entry => wordTree fuel entry.2 footprint)
          footprint
        match part.length with
        | 0 => return footprint
        | 1 => state 0 footprint
        | count => branches count footprint) footprint
      let ways := (parts.filter fun part => !part.isEmpty).length + (parts.length - 1)
      let footprint ← state 0 footprint
      links ways footprint

/-- Alternatives that are all texts. -/
def words (backward : Bool) (texts : List (List Char)) : Growth := fun footprint => do
  let words := texts.map fun chars => chars.flatMap fun char => Unicode.bytesOf char.toNat
  let words := if backward then words.map List.reverse else words
  let footprint ← state 0 footprint
  wordTree (words.foldl (fun longest word => max longest word.length) 0 + 1) words footprint

/-- The states around a repetition, given the growth of one round. -/
def rounds (takesText : Bool) (low : Nat) (high : Option Nat) (round : Growth) : Growth :=
  fun footprint =>
    match low, high with
    | 0, none =>
      if takesText then do
        let footprint ← state 0 footprint
        let footprint ← round footprint
        links 2 footprint
      else do
        let footprint ← round footprint
        let footprint ← times (state 0) 3 footprint
        links 4 footprint
    | low, none => do
      let footprint ← times round low footprint
      let footprint ← state 0 footprint
      links 2 footprint
    | 0, some 1 => do
      let footprint ← state 0 footprint
      let footprint ← round footprint
      let footprint ← state 0 footprint
      links 2 footprint
    | low, some high => do
      let footprint ← if low = 0 then state 0 footprint else times round low footprint
      if high ≤ low then return footprint
      else
        let footprint ← state 0 footprint
        times (fun footprint => do
          let footprint ← state 0 footprint
          let footprint ← round footprint
          links 2 footprint) (high - low) footprint

end Footprint

namespace Shape

def chars? : Shape → Option (List Char)
  | text chars => some chars
  | _ => none

mutual

/-- What a part adds to a search that reads forward or backward. Only the former keeps groups. -/
def grow (backward : Bool) : Shape → Growth
  | empty, footprint => Footprint.state 0 footprint
  | text chars, footprint =>
    Footprint.times (Footprint.state 0) (String.ofList chars).utf8ByteSize footprint
  | set ranges, footprint => Footprint.set backward ranges footprint
  | look _, footprint => Footprint.state 0 footprint
  | rounds body low high _, footprint =>
    Footprint.rounds body.takesText low high (grow backward body) footprint
  | group _ body, footprint =>
    if backward then grow backward body footprint
    else do
      let footprint ← Footprint.state 0 footprint
      let footprint ← grow backward body footprint
      Footprint.state 0 footprint
  | seq items, footprint => growRow backward items footprint
  | alt items, footprint =>
    match items.mapM chars? with
    | some texts => Footprint.words backward texts footprint
    | none => growChoice backward 0 items footprint

def growRow (backward : Bool) : List Shape → Growth
  | [], footprint => some footprint
  | item :: rest, footprint =>
    if backward then do
      let footprint ← growRow backward rest footprint
      grow backward item footprint
    else do
      let footprint ← grow backward item footprint
      growRow backward rest footprint

/-- Alternatives after some; the state of the choice is made after the second one. -/
def growChoice (backward : Bool) (before : Nat) : List Shape → Growth
  | [], footprint => some footprint
  | item :: rest, footprint => do
    let footprint ← grow backward item footprint
    let footprint ←
      match before with
      | 0 => some footprint
      | 1 => do
        let footprint ← Footprint.times (Footprint.state 0) 2 footprint
        Footprint.links 2 footprint
      | _ => Footprint.links 1 footprint
    growChoice backward (before + 1) rest footprint

end

/-- The footprint of a whole search; it may start anywhere, unless it is tied to an end. -/
def footprint? (backward : Bool) (shape : Shape) : Option Footprint := do
  let tied := if backward then shape.endsAtEnd else shape.startsAtStart
  let footprint ← Footprint.state 0 ⟨0, 0⟩
  let footprint ←
    if tied then some footprint
    else do
      let footprint ← Footprint.state 0 footprint
      let footprint ← Footprint.branches 1 footprint
      Footprint.links 2 footprint
  let footprint ← grow backward (.group 0 shape) footprint
  Footprint.state 0 footprint

end Shape

/-- Whether the search for an expression is small enough to be compiled. -/
def isCompilable (regex : Regex) : Bool :=
  let shape := regex.shape
  (shape.footprint? false).isSome && (shape.footprint? true).isSome

end TypedJson.Regex
