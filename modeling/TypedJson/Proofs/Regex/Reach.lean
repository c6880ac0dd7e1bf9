import Mathlib.Logic.Function.Iterate
import TypedJson.Proofs.Regex.Matches
import TypedJson.Regex.Reach

namespace TypedJson.Regex

namespace Positions

@[simp] theorem contains_none (index : Nat) : none.contains index = false := Nat.zero_testBit index

@[simp] theorem contains_union (left right : Positions) (index : Nat) :
    (left.union right).contains index = (left.contains index || right.contains index) :=
  Nat.testBit_or left.bits right.bits index

@[simp] theorem contains_intersection (left right : Positions) (index : Nat) :
    (left.intersection right).contains index = (left.contains index && right.contains index) :=
  Nat.testBit_and left.bits right.bits index

@[simp] theorem contains_next (positions : Positions) (index : Nat) :
    positions.next.contains index = (decide (1 ≤ index) && positions.contains (index - 1)) :=
  Nat.testBit_shiftLeft positions.bits

@[simp] theorem contains_upTo (last index : Nat) :
    (upTo last).contains index = decide (index ≤ last) := by
  rw [upTo, contains, Nat.one_shiftLeft, Nat.testBit_two_pow_sub_one]
  exact decide_eq_decide.mpr Nat.lt_succ_iff

/-- A set that is not empty contains some position. -/
theorem isEmpty_eq_false_iff (positions : Positions) :
    positions.isEmpty = false ↔ ∃ index, positions.contains index = true := by
  rw [isEmpty, beq_eq_false_iff_ne]
  constructor
  · exact Nat.exists_testBit_of_ne_zero
  · rintro ⟨index, found⟩ zero
    rw [contains, zero, Nat.zero_testBit] at found
    exact Bool.false_ne_true found

end Positions

/-- The lowest bit is the one put in. -/
theorem testBit_cons_zero (rest : Nat) (first : Bool) :
    (2 * rest + first.toNat).testBit 0 = first := by
  cases first <;> simp

/-- The bits above the lowest are those of the rest. -/
theorem testBit_cons_succ (rest : Nat) (first : Bool) (index : Nat) :
    (2 * rest + first.toNat).testBit (index + 1) = rest.testBit index := by
  rw [Nat.testBit_add_one]
  congr 1
  cases first
  · simp
  · simp
    omega

/-- The positions of a set of characters are those whose character is in it. -/
theorem contains_positionsOf (set : CharSet) (text : List Char) (index : Nat) :
    (positionsOf set text).contains index = text[index]?.any set.contains := by
  induction text generalizing index with
  | nil => simp [positionsOf]
  | cons char rest ih =>
      cases index with
      | zero =>
          rw [positionsOf, Positions.contains, testBit_cons_zero]
          simp
      | succ index =>
          rw [positionsOf, Positions.contains, testBit_cons_succ]
          simpa [Positions.contains] using ih index

/-- The positions of an assertion are those of the text at which it holds. -/
theorem contains_positionsWhere (look : Look) (before : Option Char) (text : List Char)
    (index : Nat) :
    (positionsWhere look before text).contains index = true ↔
      index ≤ text.length ∧
        look.holds (if index = 0 then before else text[index - 1]?) text[index]? = true := by
  induction text generalizing before index with
  | nil =>
      cases index with
      | zero =>
          cases holds : look.holds before none <;> simp [positionsWhere, Positions.contains, holds]
      | succ index =>
          cases holds : look.holds before none <;>
            simp [positionsWhere, Positions.contains, holds, Nat.testBit_add_one]
  | cons char rest ih =>
      cases index with
      | zero =>
          rw [positionsWhere, Positions.contains, testBit_cons_zero]
          simp
      | succ index =>
          rw [positionsWhere, Positions.contains, testBit_cons_succ]
          refine (ih (some char) index).trans ?_
          cases index <;> simp

/-- A step on sets of positions that leads where a relation on positions leads. -/
def Leads (size : Nat) (step : Positions → Positions) (relation : Nat → Nat → Prop) : Prop :=
  ∀ starts : Positions, (∀ index, starts.contains index = true → index ≤ size) →
    ∀ last, (step starts).contains last = true ↔
      ∃ first, starts.contains first = true ∧ relation first last

/-- Going forward does not leave the text. -/
theorem Leads.within {size : Nat} {step : Positions → Positions} {relation : Nat → Nat → Prop}
    (leads : Leads size step relation) (forward : Forward size relation) {starts : Positions}
    (within : ∀ index, starts.contains index = true → index ≤ size) :
    ∀ index, (step starts).contains index = true → index ≤ size := by
  intro last found
  obtain ⟨first, start, here⟩ := (leads starts within last).mp found
  exact (forward first last here).2 (within first start)

/-- Repeating a step is iterating it. -/
theorem repeatStep_eq_iterate (step : Positions → Positions) (count : Nat)
    (positions : Positions) : repeatStep step count positions = step^[count] positions := by
  induction count generalizing positions with
  | zero => rfl
  | succ count ih =>
      rw [repeatStep, Function.iterate_succ_apply]
      split
      · rename_i same
        rw [same, Function.iterate_fixed same]
      · exact ih (step positions)

/-- Collecting the positions on the way is iterating a step that keeps them. -/
theorem collectSteps_eq_iterate (step : Positions → Positions) (count : Nat)
    (positions : Positions) :
    collectSteps step count positions =
      (fun positions => positions.union (step positions))^[count] positions := by
  induction count generalizing positions with
  | zero => rfl
  | succ count ih =>
      rw [collectSteps, Function.iterate_succ_apply]
      split
      · rename_i same
        rw [same, Function.iterate_fixed same]
      · exact ih (positions.union (step positions))

/-- Repeating a step leads where as many rounds lead. -/
theorem Leads.iterate {size : Nat} {step : Positions → Positions} {relation : Nat → Nat → Prop}
    (leads : Leads size step relation) (forward : Forward size relation) (count : Nat) :
    Leads size step^[count] (Rounds relation count) := by
  induction count with
  | zero =>
      intro starts within last
      simp [Rounds]
  | succ count ih =>
      intro starts within last
      rw [Function.iterate_succ_apply, ih (step starts) (leads.within forward within)]
      constructor
      · rintro ⟨middle, found, rest⟩
        obtain ⟨first, start, here⟩ := (leads starts within middle).mp found
        exact ⟨first, start, middle, here, rest⟩
      · rintro ⟨first, start, middle, here, rest⟩
        exact ⟨middle, (leads starts within middle).mpr ⟨first, start, here⟩, rest⟩

/-- Staying or taking one round, some times over, is taking at most that many rounds. -/
theorem rounds_stay_iff {relation : Nat → Nat → Prop} {count first last : Nat} :
    Rounds (fun here next => here = next ∨ relation here next) count first last ↔
      ∃ fewer ≤ count, Rounds relation fewer first last := by
  induction count generalizing first with
  | zero => simp [Rounds]
  | succ count ih =>
      constructor
      · rintro ⟨middle, rfl | here, rest⟩
        · obtain ⟨fewer, bound, short⟩ := ih.mp rest
          exact ⟨fewer, Nat.le_succ_of_le bound, short⟩
        · obtain ⟨fewer, bound, short⟩ := ih.mp rest
          exact ⟨fewer + 1, Nat.succ_le_succ bound, middle, here, short⟩
      · rintro ⟨fewer, bound, short⟩
        cases fewer with
        | zero => exact ⟨first, .inl rfl, ih.mpr ⟨0, Nat.zero_le _, short⟩⟩
        | succ fewer =>
            obtain ⟨middle, here, rest⟩ := short
            exact ⟨middle, .inr here, ih.mpr ⟨fewer, Nat.le_of_succ_le_succ bound, rest⟩⟩

/-- Collecting on the way leads where up to as many rounds lead. -/
theorem Leads.collectSteps {size : Nat} {step : Positions → Positions}
    {relation : Nat → Nat → Prop} (leads : Leads size step relation)
    (forward : Forward size relation) (count : Nat) :
    Leads size (collectSteps step count) fun first last =>
      ∃ fewer ≤ count, Rounds relation fewer first last := by
  have stays : Leads size (fun positions => positions.union (step positions))
      fun first last => first = last ∨ relation first last := by
    intro starts within last
    rw [Positions.contains_union, Bool.or_eq_true, leads starts within]
    constructor
    · rintro (here | ⟨first, start, here⟩)
      · exact ⟨last, here, .inl rfl⟩
      · exact ⟨first, start, .inr here⟩
    · rintro ⟨first, start, rfl | here⟩
      · exact .inl start
      · exact .inr ⟨first, start, here⟩
  have staysForward : Forward size fun first last => first = last ∨ relation first last := by
    rintro first last (rfl | here)
    · exact ⟨Nat.le_refl _, id⟩
    · exact forward first last here
  intro starts within last
  rw [collectSteps_eq_iterate, stays.iterate staysForward count starts within]
  simp only [rounds_stay_iff]

/-- The rounds of a repetition are the required ones and then as many more as are allowed. -/
theorem leads_rounds {text : List Char} {step : Positions → Positions}
    {relation : Nat → Nat → Prop} (leads : Leads text.length step relation)
    (forward : Forward text.length relation) (low : Nat) (high : Option Nat) :
    Leads text.length
      (fun starts =>
        let started := Regex.repeatStep step low starts
        match high with
        | none => Regex.collectSteps step (text.length + 1) started
        | some high => Regex.collectSteps step (high - low) started)
      fun first last =>
        ∃ count, WithinRounds low high count ∧ Rounds relation count first last := by
  intro starts within last
  have required := leads.iterate forward low
  have requiredWithin := required.within (forward.rounds low) within
  cases high with
  | none =>
      dsimp only
      rw [repeatStep_eq_iterate, leads.collectSteps forward _ _ requiredWithin]
      constructor
      · rintro ⟨middle, found, fewer, -, more⟩
        obtain ⟨first, start, here⟩ := (required starts within middle).mp found
        exact ⟨first, start, low + fewer, ⟨Nat.le_add_right _ _, by simp⟩, here.append more⟩
      · rintro ⟨first, start, count, ⟨least, -⟩, through⟩
        obtain ⟨extra, rfl⟩ := Nat.exists_eq_add_of_le least
        obtain ⟨middle, here, more⟩ := through.split
        obtain ⟨fewer, bound, short⟩ := more.shorten forward
        have inside := (forward.rounds _ middle last more).2
          ((forward.rounds _ first middle here).2 (within first start))
        exact ⟨middle, (required starts within middle).mpr ⟨first, start, here⟩, fewer, by omega,
          short.imp fun _ _ step => step.1⟩
  | some high =>
      dsimp only
      rw [repeatStep_eq_iterate, leads.collectSteps forward _ _ requiredWithin]
      constructor
      · rintro ⟨middle, found, fewer, bound, more⟩
        obtain ⟨first, start, here⟩ := (required starts within middle).mp found
        refine ⟨first, start, low + fewer, ⟨Nat.le_add_right _ _, ?_⟩, here.append more⟩
        intro _ same
        obtain rfl := Option.some.inj same
        omega
      · rintro ⟨first, start, count, ⟨least, most⟩, through⟩
        obtain ⟨extra, rfl⟩ := Nat.exists_eq_add_of_le least
        obtain ⟨middle, here, more⟩ := through.split
        have bound := most high rfl
        exact ⟨middle, (required starts within middle).mpr ⟨first, start, here⟩, extra, by omega,
          more⟩

/-- A row leads where its items lead one after another. -/
theorem leads_reachAll {text : List Char} {items : List Regex}
    (leads : ∀ item ∈ items, Leads text.length (reach text item) (Matches text item)) :
    Leads text.length (reachAll text items) (MatchesRow text items) := by
  induction items with
  | nil =>
      intro starts within last
      simp [reachAll, MatchesRow]
  | cons item rest ih =>
      rw [List.forall_mem_cons] at leads
      intro starts within last
      have after := leads.1.within (forward_matches text item) within
      rw [reachAll, ih leads.2 _ after]
      constructor
      · rintro ⟨middle, found, others⟩
        obtain ⟨first, start, here⟩ := (leads.1 starts within middle).mp found
        exact ⟨first, start, middle, here, others⟩
      · rintro ⟨first, start, middle, here, others⟩
        exact ⟨middle, (leads.1 starts within middle).mpr ⟨first, start, here⟩, others⟩

/-- A choice leads where one of its items leads. -/
theorem leads_reachAny {text : List Char} {items : List Regex}
    (leads : ∀ item ∈ items, Leads text.length (reach text item) (Matches text item)) :
    Leads text.length (reachAny text items) (MatchesChoice text items) := by
  induction items with
  | nil =>
      intro starts within last
      simp [reachAny, MatchesChoice]
  | cons item rest ih =>
      rw [List.forall_mem_cons] at leads
      intro starts within last
      rw [reachAny, Positions.contains_union, Bool.or_eq_true, leads.1 starts within,
        ih leads.2 starts within]
      simp only [MatchesChoice, and_or_left, exists_or]

/-- The ends found from a set of starts are the ends of the matches that begin in it. -/
theorem leads_reach (text : List Char) (regex : Regex) :
    Leads text.length (reach text regex) (Matches text regex) := by
  induction regex using induction with
  | empty =>
      intro starts within last
      simp [reach, Matches]
  | one set =>
      intro starts within last
      rw [reach, Positions.contains_next, Positions.contains_intersection, contains_positionsOf]
      simp only [Bool.and_eq_true, decide_eq_true_eq, Option.any_eq_true, Matches]
      constructor
      · rintro ⟨positive, start, char, here, member⟩
        exact ⟨last - 1, start, ⟨char, here, member⟩, by omega⟩
      · rintro ⟨first, start, ⟨char, here, member⟩, rfl⟩
        exact ⟨Nat.le_add_left _ _, start, char, here, member⟩
  | look condition =>
      intro starts within last
      rw [reach, Positions.contains_intersection, Bool.and_eq_true, contains_positionsWhere]
      simp only [Matches, Look.HoldsAt, charBefore, List.getElem?_toArray]
      constructor
      · rintro ⟨start, -, holds⟩
        exact ⟨last, start, holds, rfl⟩
      · rintro ⟨first, start, holds, rfl⟩
        exact ⟨start, within first start, holds⟩
  | seq items ih => exact leads_reachAll ih
  | alt items ih => exact leads_reachAny ih
  | rounds body low high greedy ih =>
      intro starts within last
      have rounds := leads_rounds ih (forward_matches text body) low high starts within last
      cases high <;> simpa only [reach, Matches] using rounds
  | group index body ih =>
      intro starts within last
      rw [reach]
      exact ih starts within last

/-- A text is matched somewhere if and only if some part of it matches. -/
theorem isMatch_iff_matches (regex : Regex) (text : List Char) :
    regex.isMatch text = true ↔
      ∃ first last, first ≤ text.length ∧ Matches text regex first last := by
  have within (index : Nat) (found : (Positions.upTo text.length).contains index = true) :
      index ≤ text.length := by simpa using found
  rw [isMatch, Bool.not_eq_true', Positions.isEmpty_eq_false_iff]
  simp only [leads_reach text regex _ within, Positions.contains_upTo, decide_eq_true_eq]
  exact exists_comm.trans (by simp)

/-- A row between the marks of both ends matches somewhere if and only if it matches the whole text. -/
theorem isMatch_wholeText_iff (parts : List Regex) (text : List Char) :
    (seq (.look .textStart :: parts ++ [.look .textEnd])).isMatch text = true ↔
      MatchesRow text parts 0 text.length := by
  rw [isMatch_iff_matches]
  simp only [Matches, List.cons_append, MatchesRow, matchesRow_append, Look.holdsAt_textEnd]
  constructor
  · rintro ⟨first, last, inside, _, ⟨start, rfl⟩, last, row, _, ⟨ends, rfl⟩, rfl⟩
    obtain rfl := (Look.holdsAt_textStart inside).mp start
    have within := Forward.row (fun part _ => forward_matches text part) 0 last row
    obtain rfl := Nat.le_antisymm (within.2 inside) ends
    exact row
  · intro row
    have start := (Look.holdsAt_textStart (Nat.zero_le text.length)).mpr rfl
    exact ⟨0, text.length, Nat.zero_le _, 0, ⟨start, rfl⟩, text.length, row, text.length,
      ⟨Nat.le_refl _, rfl⟩, rfl⟩

end TypedJson.Regex
