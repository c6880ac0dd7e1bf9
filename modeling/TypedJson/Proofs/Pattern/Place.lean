import Mathlib.Tactic.IntervalCases
import TypedJson.Proofs.Pattern.Image

namespace TypedJson.Pattern

/-- A text is made of escape pairs and other characters, and perhaps a lone backslash at the end. -/
@[elab_as_elim]
theorem tokenInduction {motive : List Char → Prop} (nil : motive []) (lone : motive ['\\'])
    (pair : ∀ escaped rest, motive rest → motive ('\\' :: escaped :: rest))
    (single : ∀ char rest, char ≠ '\\' → motive rest → motive (char :: rest)) (text : List Char) :
    motive text := by
  induction text using Token.readAll.induct with
  | case1 => exact nil
  | case2 escaped rest ih => exact pair escaped rest ih
  | case3 char rest unpaired ih =>
      by_cases backslash : char = '\\'
      · subst backslash
        cases rest with
        | nil => exact lone
        | cons escaped others => exact absurd rfl (unpaired escaped others rfl)
      · exact single char rest backslash ih

/-- Where a reader of a body stands. -/
structure Place where
  inClass : Bool
  /-- Whether a backslash waits for its character. -/
  escaped : Bool
deriving DecidableEq

namespace Place

def outside : Place := ⟨false, false⟩

/-- The place behind one more character. -/
def next (place : Place) (char : Char) : Place :=
  if place.escaped then ⟨place.inClass, false⟩
  else if char = '\\' then ⟨place.inClass, true⟩
  else if char = '[' then ⟨true, false⟩
  else if char = ']' then ⟨false, false⟩
  else place

/-- The place behind a text. -/
def after (place : Place) (text : List Char) : Place := text.foldl next place

@[simp] theorem after_nil (place : Place) : place.after [] = place := rfl

@[simp] theorem after_cons (place : Place) (char : Char) (rest : List Char) :
    place.after (char :: rest) = (place.next char).after rest := rfl

@[simp] theorem next_escaped (inClass : Bool) (char : Char) :
    next ⟨inClass, true⟩ char = ⟨inClass, false⟩ := rfl

@[simp] theorem next_backslash (inClass : Bool) :
    next ⟨inClass, false⟩ '\\' = ⟨inClass, true⟩ := rfl

/-- Another character than a backslash leads into a class or out of it. -/
theorem next_single {char : Char} (single : char ≠ '\\') (inClass : Bool) :
    next ⟨inClass, false⟩ char = ⟨(Token.single char).classAfter inClass, false⟩ := by
  unfold next Token.classAfter
  grind

end Place

/-- Some mark of a list begins at an allowed place of a text. -/
def Marked (marks : List (List Char)) (allowed : Place → Bool) (start : Place)
    (text : List Char) : Prop :=
  ∃ index < text.length, allowed (start.after (text.take index)) = true ∧
    ∃ mark ∈ marks, mark <+: text.drop index

instance (marks : List (List Char)) (allowed : Place → Bool) (start : Place) (text : List Char) :
    Decidable (Marked marks allowed start text) :=
  inferInstanceAs (Decidable (∃ index < text.length, _))

section

variable {marks more : List (List Char)} {allowed others : Place → Bool} {start : Place}
  {text rest : List Char} {char : Char}

/-- In nothing there is no mark. -/
theorem not_marked_nil : ¬Marked marks allowed start [] := by
  rintro ⟨index, inside, -⟩
  exact Nat.not_lt_zero index inside

/-- A text is marked at its first character or behind it. -/
theorem marked_cons :
    Marked marks allowed start (char :: rest) ↔
      (allowed start = true ∧ ∃ mark ∈ marks, mark <+: char :: rest) ∨
        Marked marks allowed (start.next char) rest := by
  constructor
  · rintro ⟨index, inside, place, mark⟩
    cases index with
    | zero => exact .inl ⟨place, mark⟩
    | succ index => exact .inr ⟨index, Nat.lt_of_succ_lt_succ inside, place, mark⟩
  · rintro (⟨place, mark⟩ | ⟨index, inside, place, mark⟩)
    · exact ⟨0, Nat.zero_lt_succ _, place, mark⟩
    · exact ⟨index + 1, Nat.succ_lt_succ inside, place, mark⟩

/-- A text is marked by one of two lists if it is by the one or the other. -/
theorem marked_append :
    Marked (marks ++ more) allowed start text ↔
      Marked marks allowed start text ∨ Marked more allowed start text := by
  simp only [Marked, List.mem_append, or_and_right, exists_or, and_or_left]

/-- A text is marked in one of two kinds of places if it is in the one or the other. -/
theorem marked_or :
    Marked marks (fun place => allowed place || others place) start text ↔
      Marked marks allowed start text ∨ Marked marks others start text := by
  simp only [Marked, Bool.or_eq_true, or_and_right, exists_or, and_or_left]

end

/-- The starts of groups that look ahead or behind. -/
def lookArounds : List (List Char) :=
  ["(?=", "(?!", "(?<=", "(?<!"].map String.toList

/-- The escapes that refer to a group by its number or name. -/
def references : List (List Char) :=
  ['1', '2', '3', '4', '5', '6', '7', '8', '9', 'k'].map fun char => ['\\', char]

/-- A look-around is opened at the first character or behind it. -/
theorem opensLookAround_cons (char : Char) (rest : List Char) :
    opensLookAround (char :: rest) = true ↔
      (∃ mark ∈ lookArounds, mark <+: char :: rest) ∨ opensLookAround rest = true := by
  constructor
  · intro opens
    unfold opensLookAround at opens
    split at opens
    · rename_i nothing
      exact absurd nothing (List.cons_ne_nil char rest)
    · rename_i same
      exact .inl ⟨"(?=".toList, by decide, _, same.symm⟩
    · rename_i same
      exact .inl ⟨"(?!".toList, by decide, _, same.symm⟩
    · rename_i same
      exact .inl ⟨"(?<=".toList, by decide, _, same.symm⟩
    · rename_i same
      exact .inl ⟨"(?<!".toList, by decide, _, same.symm⟩
    · rename_i same
      obtain ⟨-, rfl⟩ := List.cons.inj same
      exact .inr opens
  · rintro (⟨mark, member, tail, same⟩ | later)
    · rw [← same]
      simp only [lookArounds, List.map_cons, List.map_nil, List.mem_cons, List.not_mem_nil,
        or_false] at member
      rcases member with rfl | rfl | rfl | rfl <;> rfl
    · unfold opensLookAround
      split <;> first | rfl | simp_all

/-- A look-around is seen at every mark of one, whatever the place. -/
theorem opensLookAround_iff (start : Place) (text : List Char) :
    opensLookAround text = true ↔ Marked lookArounds (fun _ => true) start text := by
  induction text generalizing start with
  | nil => simp [opensLookAround, not_marked_nil]
  | cons char rest ih => rw [opensLookAround_cons, marked_cons, ih (start.next char)]; simp

/-- A pair refers back by a digit or by a name. -/
theorem refersBack_pair_iff (escaped : Char) :
    (Token.pair escaped).refersBack = true ↔
      escaped ∈ ['1', '2', '3', '4', '5', '6', '7', '8', '9', 'k'] := by
  constructor
  · intro refers
    simp only [Token.refersBack, Bool.or_eq_true, Bool.and_eq_true, decide_eq_true_eq,
      Char.le_def, UInt32.le_iff_toNat_le] at refers
    rcases refers with rfl | ⟨low, high⟩
    · decide
    · have code : escaped = Char.ofNat escaped.val.toNat := (Char.ofNat_toNat escaped).symm
      generalize escaped.val.toNat = number at code low high
      subst code
      change 49 ≤ number at low
      change number ≤ 57 at high
      interval_cases number <;> decide
  · intro member
    simp only [List.mem_cons, List.not_mem_nil, or_false] at member
    rcases member with rfl | rfl | rfl | rfl | rfl | rfl | rfl | rfl | rfl | rfl <;> decide

/-- The mark of a reference is a pair that refers back. -/
theorem prefix_reference_iff (char : Char) (rest : List Char) :
    (∃ mark ∈ references, mark <+: char :: rest) ↔
      char = '\\' ∧ ∃ escaped ∈ rest.head?, (Token.pair escaped).refersBack = true := by
  simp only [references, List.mem_map, refersBack_pair_iff]
  constructor
  · rintro ⟨_, ⟨escaped, member, rfl⟩, tail, same⟩
    obtain ⟨rfl, rfl⟩ := List.cons.inj same
    exact ⟨rfl, escaped, rfl, member⟩
  · rintro ⟨rfl, escaped, first, member⟩
    obtain ⟨tail, rfl⟩ := List.head?_eq_some_iff.mp first
    exact ⟨_, ⟨escaped, member, rfl⟩, tail, rfl⟩

/-- A reference is seen at every mark of one that is not behind a backslash. -/
theorem refersBack_iff (inClass : Bool) (text : List Char) :
    (Token.readAll text).any Token.refersBack = true ↔
      Marked references (fun place => !place.escaped) ⟨inClass, false⟩ text := by
  induction text using tokenInduction generalizing inClass with
  | nil => simp [Token.readAll, not_marked_nil]
  | lone =>
      simp [marked_cons, not_marked_nil, prefix_reference_iff, Token.readAll, Token.refersBack]
  | pair escaped rest ih =>
      rw [Token.readAll, List.any_cons, Bool.or_eq_true, marked_cons, marked_cons,
        prefix_reference_iff, Place.next_backslash, Place.next_escaped, ih inClass]
      simp
  | single char rest single ih =>
      rw [readAll_cons single, List.any_cons, Bool.or_eq_true, marked_cons,
        prefix_reference_iff, Place.next_single single, ← ih]
      simp [single, Token.refersBack]

/-- A look-around or a reference stands outside of classes and of escapes. -/
def NeedsBacktracking (body : List Char) : Prop :=
  Marked (lookArounds ++ references) (· == .outside) .outside body

/--
The characters of a look-around stand in a class or have an escaped parenthesis, or those of a
reference stand in a class.
-/
def SpellsBacktracking (body : List Char) : Prop :=
  Marked lookArounds (· != .outside) .outside body ∨
    Marked references (· == ⟨true, false⟩) .outside body

instance (body : List Char) : Decidable (NeedsBacktracking body) :=
  inferInstanceAs (Decidable (Marked _ _ _ _))

instance (body : List Char) : Decidable (SpellsBacktracking body) :=
  inferInstanceAs (Decidable (_ ∨ _))

/--
The engine that backtracks searches for each body that needs it, and besides for the bodies that
only have the characters of what would need it.
-/
theorem engineFor_eq_backtracking_iff (body : List Char) :
    engineFor body = .backtracking ↔ NeedsBacktracking body ∨ SpellsBacktracking body := by
  have chosen : engineFor body = .backtracking ↔
      opensLookAround body = true ∨ (Token.readAll body).any Token.refersBack = true := by
    rw [engineFor, ← Bool.or_eq_true]
    split <;> simp_all
  have anywhere : (fun _ : Place => true) =
      fun place => place == .outside || place != .outside := by
    funext place
    simp [bne]
  have unescaped : (fun place : Place => !place.escaped) =
      fun place => place == .outside || place == ⟨true, false⟩ := by
    funext place
    rcases place with ⟨_ | _, _ | _⟩ <;> rfl
  rw [chosen, opensLookAround_iff .outside, refersBack_iff false, anywhere, unescaped, marked_or,
    marked_or, NeedsBacktracking, SpellsBacktracking, marked_append]
  exact or_or_or_comm

/--
A class with the characters of a look-ahead, and an empty group that may be left out. The body needs
no backtracking and the other engine reads it, but the pattern is refused.
-/
theorem ofSource?_lookAheadMembers :
    let body := "[(?=](?:)?".toList
    ¬NeedsBacktracking body ∧ engineFor body = .backtracking ∧
      (ofSource? "[(?=](?:)?").isNone = true ∧
      (Regex.ofText? (engineText .linear body)).isSome = true :=
  ⟨by decide +kernel, by decide +kernel, by decide +kernel, by decide +kernel⟩

end TypedJson.Pattern
