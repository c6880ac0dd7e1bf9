import TypedJson.Regex.Automaton

namespace TypedJson.Regex

/-- Expressions are finite trees, so a property of all parts that passes to the whole holds. -/
@[elab_as_elim]
theorem induction {motive : Regex → Prop} (empty : motive .empty)
    (one : ∀ set, motive (.one set)) (look : ∀ condition, motive (.look condition))
    (seq : ∀ items, (∀ item ∈ items, motive item) → motive (.seq items))
    (alt : ∀ items, (∀ item ∈ items, motive item) → motive (.alt items))
    (rounds : ∀ body low high greedy, motive body → motive (.rounds body low high greedy))
    (group : ∀ index body, motive body → motive (.group index body)) : ∀ regex, motive regex
  | .empty => empty
  | .one set => one set
  | .look condition => look condition
  | .seq items => seq items fun item _ => induction empty one look seq alt rounds group item
  | .alt items => alt items fun item _ => induction empty one look seq alt rounds group item
  | .rounds body low high greedy =>
      rounds body low high greedy (induction empty one look seq alt rounds group body)
  | .group index body => group index body (induction empty one look seq alt rounds group body)

/-- A condition holds at a position of a text if it holds between the characters around it. -/
def Look.HoldsAt (look : Look) (text : List Char) (index : Nat) : Prop :=
  look.holds (charBefore text.toArray index) text[index]? = true

/-- The start of the text is the position zero. -/
theorem Look.holdsAt_textStart {text : List Char} {index : Nat} (inside : index ≤ text.length) :
    textStart.HoldsAt text index ↔ index = 0 := by
  cases index with
  | zero => simp [HoldsAt, holds, charBefore]
  | succ index =>
      have there : text[index]? = some text[index] := List.getElem?_eq_getElem inside
      simp [HoldsAt, holds, charBefore, there]

/-- The end of the text is where no character is left. -/
theorem Look.holdsAt_textEnd {text : List Char} {index : Nat} :
    textEnd.HoldsAt text index ↔ text.length ≤ index := by
  simp [HoldsAt, holds]

/-- A number of rounds leads from one position to another. -/
def Rounds (round : Nat → Nat → Prop) : Nat → Nat → Nat → Prop
  | 0, first, last => first = last
  | count + 1, first, last => ∃ middle, round first middle ∧ Rounds round count middle last

/-- A number of rounds lies within bounds; a bound below the least number counts as that number. -/
def WithinRounds (low : Nat) (high : Option Nat) (count : Nat) : Prop :=
  low ≤ count ∧ ∀ bound, high = some bound → count ≤ max low bound

mutual

/-- The part of a text between two positions matches. -/
def Matches (text : List Char) : Regex → Nat → Nat → Prop
  | empty, first, last => first = last
  | one set, first, last =>
    (∃ char, text[first]? = some char ∧ set.contains char = true) ∧ last = first + 1
  | look condition, first, last => condition.HoldsAt text first ∧ first = last
  | seq items, first, last => MatchesRow text items first last
  | alt items, first, last => MatchesChoice text items first last
  | rounds body low high _, first, last =>
    ∃ count, WithinRounds low high count ∧ Rounds (Matches text body) count first last
  | group _ body, first, last => Matches text body first last

def MatchesRow (text : List Char) : List Regex → Nat → Nat → Prop
  | [], first, last => first = last
  | item :: rest, first, last =>
    ∃ middle, Matches text item first middle ∧ MatchesRow text rest middle last

def MatchesChoice (text : List Char) : List Regex → Nat → Nat → Prop
  | [], _, _ => False
  | item :: rest, first, last => Matches text item first last ∨ MatchesChoice text rest first last

end

/-- A choice matches what one of its items matches. -/
theorem matchesChoice_iff {text : List Char} {items : List Regex} {first last : Nat} :
    MatchesChoice text items first last ↔ ∃ item ∈ items, Matches text item first last := by
  induction items with
  | nil => simp [MatchesChoice]
  | cons item rest ih => simp [MatchesChoice, ih]

/-- Two rows after one another match what is split between them. -/
theorem matchesRow_append {text : List Char} {items others : List Regex} {first last : Nat} :
    MatchesRow text (items ++ others) first last ↔
      ∃ middle, MatchesRow text items first middle ∧ MatchesRow text others middle last := by
  induction items generalizing first with
  | nil => simp [MatchesRow]
  | cons item rest ih =>
      simp only [List.cons_append, MatchesRow, ih]
      constructor
      · rintro ⟨between, here, middle, more, after⟩
        exact ⟨middle, ⟨between, here, more⟩, after⟩
      · rintro ⟨middle, ⟨between, here, more⟩, after⟩
        exact ⟨between, here, middle, more, after⟩

/-- A step that stays inside of a text and never goes back. -/
def Forward (size : Nat) (step : Nat → Nat → Prop) : Prop :=
  ∀ first last, step first last → first ≤ last ∧ (first ≤ size → last ≤ size)

/-- Rounds of what goes forward go forward. -/
theorem Forward.rounds {size : Nat} {round : Nat → Nat → Prop} (forward : Forward size round)
    (count : Nat) : Forward size (Rounds round count) := by
  induction count with
  | zero =>
      rintro first _ rfl
      exact ⟨Nat.le_refl _, id⟩
  | succ count ih =>
      rintro first last ⟨middle, here, rest⟩
      have one := forward first middle here
      have others := ih middle last rest
      exact ⟨Nat.le_trans one.1 others.1, fun inside => others.2 (one.2 inside)⟩

/-- A row of what goes forward goes forward. -/
theorem Forward.row {text : List Char} {items : List Regex}
    (forward : ∀ item ∈ items, Forward text.length (Matches text item)) :
    Forward text.length (MatchesRow text items) := by
  induction items with
  | nil =>
      rintro first _ rfl
      exact ⟨Nat.le_refl _, id⟩
  | cons item rest ih =>
      rintro first last ⟨middle, here, others⟩
      rw [List.forall_mem_cons] at forward
      have one := forward.1 first middle here
      have more := ih forward.2 middle last others
      exact ⟨Nat.le_trans one.1 more.1, fun inside => more.2 (one.2 inside)⟩

/-- Matches run forward and end inside of the text. -/
theorem forward_matches (text : List Char) (regex : Regex) :
    Forward text.length (Matches text regex) := by
  induction regex using induction with
  | empty =>
      rintro first _ rfl
      exact ⟨Nat.le_refl _, id⟩
  | one set =>
      rintro first _ ⟨⟨char, here, -⟩, rfl⟩
      have inside := (List.getElem?_eq_some_iff.mp here).1
      exact ⟨Nat.le_succ first, fun _ => inside⟩
  | look condition =>
      rintro first _ ⟨-, rfl⟩
      exact ⟨Nat.le_refl _, id⟩
  | seq items ih => exact Forward.row ih
  | alt items ih =>
      intro first last found
      obtain ⟨item, inside, here⟩ := matchesChoice_iff.mp found
      exact ih item inside first last here
  | rounds body low high greedy ih =>
      rintro first last ⟨count, -, through⟩
      exact ih.rounds count first last through
  | group index body ih => exact ih

theorem Rounds.append {round : Nat → Nat → Prop} {count more : Nat} {first middle last : Nat}
    (before : Rounds round count first middle) (after : Rounds round more middle last) :
    Rounds round (count + more) first last := by
  induction count generalizing first with
  | zero =>
      obtain rfl := before
      rwa [Nat.zero_add]
  | succ count ih =>
      obtain ⟨next, here, rest⟩ := before
      rw [Nat.succ_add]
      exact ⟨next, here, ih rest⟩

/-- A number of rounds can be split at any point. -/
theorem Rounds.split {round : Nat → Nat → Prop} {count more : Nat} {first last : Nat}
    (through : Rounds round (count + more) first last) :
    ∃ middle, Rounds round count first middle ∧ Rounds round more middle last := by
  induction count generalizing first with
  | zero => exact ⟨first, rfl, by rwa [Nat.zero_add] at through⟩
  | succ count ih =>
      rw [Nat.succ_add] at through
      obtain ⟨next, here, rest⟩ := through
      obtain ⟨middle, before, after⟩ := ih rest
      exact ⟨middle, ⟨next, here, before⟩, after⟩

/-- Rounds that do not move can be left out, so no more are needed than positions are passed. -/
theorem Rounds.shorten {size : Nat} {round : Nat → Nat → Prop} (forward : Forward size round)
    {count first last : Nat} (through : Rounds round count first last) :
    ∃ fewer ≤ last - first, Rounds (fun here next => round here next ∧ here < next)
      fewer first last := by
  induction count generalizing first with
  | zero =>
      obtain rfl := through
      exact ⟨0, Nat.zero_le _, rfl⟩
  | succ count ih =>
      obtain ⟨middle, here, rest⟩ := through
      obtain ⟨fewer, bound, short⟩ := ih rest
      have moved := (forward first middle here).1
      have moves := ((forward.rounds count) middle last rest).1
      obtain rfl | further := Nat.eq_or_lt_of_le moved
      · exact ⟨fewer, bound, short⟩
      · exact ⟨fewer + 1, by omega, middle, ⟨here, further⟩, short⟩

theorem Rounds.imp {round round' : Nat → Nat → Prop} {count first last : Nat}
    (weaker : ∀ here next, round here next → round' here next)
    (through : Rounds round count first last) : Rounds round' count first last := by
  induction count generalizing first with
  | zero => exact through
  | succ count ih =>
      obtain ⟨middle, here, rest⟩ := through
      exact ⟨middle, weaker _ _ here, ih rest⟩

theorem rounds_congr {round round' : Nat → Nat → Prop}
    (same : ∀ here next, round here next ↔ round' here next) {count first last : Nat} :
    Rounds round count first last ↔ Rounds round' count first last :=
  ⟨Rounds.imp fun here next => (same here next).mp,
    Rounds.imp fun here next => (same here next).mpr⟩

/-- The set of one character contains that character only. -/
theorem CharSet.contains_single (char other : Char) :
    (CharSet.single char).contains other = true ↔ other = char := by
  simp only [single, contains, containsCode, Unicode.inRanges, List.any_cons, List.any_nil,
    Bool.or_false, Bool.and_eq_true, decide_eq_true_eq]
  constructor
  · intro bounds
    exact Char.toNat_inj.mp (Nat.le_antisymm bounds.2 bounds.1)
  · rintro rfl
    exact ⟨Nat.le_refl _, Nat.le_refl _⟩

/-- The full set contains every character. -/
theorem CharSet.contains_all (char : Char) : CharSet.all.contains char = true := by
  have valid : char.toNat ≤ 0x10FFFF := by
    obtain low | ⟨-, high⟩ := char.valid
    · exact Nat.le_of_lt (Nat.lt_trans low (by decide))
    · exact Nat.le_of_lt_succ high
  simp [all, contains, containsCode, Unicode.inRanges, valid]

end TypedJson.Regex
