import TypedJson.Proofs.Pattern.Body

namespace TypedJson.Regex

open TypedJson.Pattern (BoundaryAt)

/-! ### Conditions -/

namespace Look

/-- Whether a condition excludes boundaries, if it is one on the boundaries of words. -/
def boundary? : Look → Option Bool
  | wordBoundary .ascii => some false
  | notWordBoundary .ascii => some true
  | _ => none

/-- A condition holds at a position if words are made of the given characters. -/
def HoldsUnder (word : Char → Bool) (text : List Char) (look : Look) (index : Nat) : Prop :=
  match look.boundary? with
  | some negated => BoundaryAt word negated text index
  | none => look.HoldsAt text index

/-- The boundaries are those of ASCII words. -/
theorem boundary?_eq_some {look : Look} {negated : Bool} (found : look.boundary? = some negated) :
    look = if negated then .notWordBoundary .ascii else .wordBoundary .ascii := by
  unfold boundary? at found
  split at found
  · obtain rfl := Option.some.inj found
    rfl
  · obtain rfl := Option.some.inj found
    rfl
  · exact absurd found (by simp)

variable {text : List Char}

/-- The boundaries that a search looks for are those of words of ASCII. -/
theorem holdsUnder_ascii (look : Look) (index : Nat) :
    look.HoldsUnder WordKind.ascii.contains text index ↔ look.HoldsAt text index := by
  unfold HoldsUnder
  split
  · next negated found =>
      rw [boundary?_eq_some found]
      cases negated with
      | false => exact Iff.rfl
      | true => simp [HoldsAt, BoundaryAt, holds, WordKind.holdsAt]
  · exact Iff.rfl

/-- A boundary depends only on which characters of the text are word characters. -/
theorem boundaryAt_congr {word other : Char → Bool} (same : ∀ char ∈ text, word char = other char)
    (negated : Bool) (index : Nat) :
    BoundaryAt word negated text index ↔ BoundaryAt other negated text index := by
  have after (place : Nat) : text[place]?.any word = text[place]?.any other := by
    cases here : text[place]? with
    | none => rfl
    | some char => exact same char (List.mem_of_getElem? here)
  have before : (charBefore text.toArray index).any word =
      (charBefore text.toArray index).any other := by
    rw [charBefore]
    split
    · rfl
    · rw [List.getElem?_toArray]
      exact after (index - 1)
  rw [BoundaryAt, BoundaryAt, before, after]

theorem holdsUnder_congr {word other : Char → Bool} (same : ∀ char ∈ text, word char = other char)
    (look : Look) (index : Nat) :
    look.HoldsUnder word text index ↔ look.HoldsUnder other text index := by
  unfold HoldsUnder
  split
  · exact boundaryAt_congr same _ index
  · exact Iff.rfl

end Look

/-! ### Matches -/

section

variable (holds : Look → Nat → Prop) (text : List Char)

mutual

/-- The part of a text between two positions matches if conditions hold as given. -/
def MatchesBy : Regex → Nat → Nat → Prop
  | empty, first, last => first = last
  | one set, first, last => Matches text (one set) first last
  | look condition, first, last => holds condition first ∧ first = last
  | seq items, first, last => MatchesRowBy items first last
  | alt items, first, last => MatchesChoiceBy items first last
  | rounds body low high _, first, last =>
    ∃ count, WithinRounds low high count ∧ Rounds (MatchesBy body) count first last
  | group _ body, first, last => MatchesBy body first last

def MatchesRowBy : List Regex → Nat → Nat → Prop
  | [], first, last => first = last
  | item :: rest, first, last => ∃ middle, MatchesBy item first middle ∧ MatchesRowBy rest middle last

def MatchesChoiceBy : List Regex → Nat → Nat → Prop
  | [], _, _ => False
  | item :: rest, first, last => MatchesBy item first last ∨ MatchesChoiceBy rest first last

end

end

variable {holds : Look → Nat → Prop} {text : List Char}

/-- Two rows match one after the other. -/
theorem matchesRowBy_append {items others : List Regex} {first last : Nat} :
    MatchesRowBy holds text (items ++ others) first last ↔ ∃ middle,
      MatchesRowBy holds text items first middle ∧ MatchesRowBy holds text others middle last := by
  induction items generalizing first with
  | nil => simp [MatchesRowBy]
  | cons item rest ih =>
      simp only [List.cons_append, MatchesRowBy, ih]
      constructor
      · rintro ⟨between, here, middle, more, after⟩
        exact ⟨middle, ⟨between, here, more⟩, after⟩
      · rintro ⟨middle, ⟨between, here, more⟩, after⟩
        exact ⟨between, here, middle, more, after⟩

/-- With the conditions of a search these are the matches that it looks for. -/
theorem matchesBy_holdsAt (regex : Regex) :
    MatchesBy (fun look index => look.HoldsAt text index) text regex = Matches text regex := by
  induction regex using induction with
  | empty => rfl
  | one set => rfl
  | look condition => rfl
  | seq items ih =>
      funext first last
      exact row ih first last
  | alt items ih =>
      funext first last
      exact choice ih first last
  | rounds body low high greedy ih =>
      funext first last
      rw [MatchesBy, ih, Matches]
  | group index body ih => exact ih
where
  row {items : List Regex}
      (same : ∀ item ∈ items,
        MatchesBy (fun look index => look.HoldsAt text index) text item = Matches text item)
      (first last : Nat) :
      MatchesRowBy (fun look index => look.HoldsAt text index) text items first last =
        MatchesRow text items first last := by
    induction items generalizing first with
    | nil => rfl
    | cons item rest ih =>
        rw [List.forall_mem_cons] at same
        simp only [MatchesRowBy, MatchesRow, same.1, ih same.2]
  choice {items : List Regex}
      (same : ∀ item ∈ items,
        MatchesBy (fun look index => look.HoldsAt text index) text item = Matches text item)
      (first last : Nat) :
      MatchesChoiceBy (fun look index => look.HoldsAt text index) text items first last =
        MatchesChoice text items first last := by
    induction items with
    | nil => rfl
    | cons item rest ih =>
        rw [List.forall_mem_cons] at same
        simp only [MatchesChoiceBy, MatchesChoice, same.1, ih same.2]

/-- Some part of a text matches if words are made of the given characters. -/
def FindsUnder (word : Char → Bool) (text : List Char) (regex : Regex) : Prop :=
  ∃ first last, first ≤ text.length ∧ MatchesBy (Look.HoldsUnder word text) text regex first last

/-- What words are made of does not matter for conditions that are not on their boundaries. -/
theorem matchesBy_look {word : Char → Bool} {condition : Look}
    (free : condition.boundary? = none) :
    MatchesBy (Look.HoldsUnder word text) text (look condition) =
      Matches text (look condition) := by
  funext first last
  rw [MatchesBy, Look.HoldsUnder, free, Matches]

/-- With the words of ASCII the matches are those that a search looks for. -/
theorem matchesBy_ascii (regex : Regex) :
    MatchesBy (Look.HoldsUnder WordKind.ascii.contains text) text regex = Matches text regex := by
  have same : Look.HoldsUnder WordKind.ascii.contains text =
      fun look index => look.HoldsAt text index := by
    funext look index
    rw [Look.holdsUnder_ascii]
  rw [same, matchesBy_holdsAt]

/-- With the word characters of ASCII a row has its own matches. -/
theorem matchesRowBy_ascii (items : List Regex) :
    MatchesRowBy (Look.HoldsUnder WordKind.ascii.contains text) text items =
      MatchesRow text items :=
  matchesBy_ascii (.seq items)

/-- With the word characters of ASCII an expression finds its own matches. -/
theorem findsUnder_ascii (regex : Regex) :
    regex.FindsUnder WordKind.ascii.contains text ↔
      ∃ first last, first ≤ text.length ∧ Matches text regex first last := by
  rw [FindsUnder, matchesBy_ascii]

/-- Which characters are word characters matters only for those of the text. -/
theorem findsUnder_congr {word other : Char → Bool} (same : ∀ char ∈ text, word char = other char)
    (regex : Regex) : regex.FindsUnder word text ↔ regex.FindsUnder other text := by
  have holds : Look.HoldsUnder word text = Look.HoldsUnder other text := by
    funext look index
    rw [Look.holdsUnder_congr same]
  rw [FindsUnder, holds, FindsUnder]

end TypedJson.Regex
