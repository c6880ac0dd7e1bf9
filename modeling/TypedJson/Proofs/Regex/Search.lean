import Mathlib.Tactic.Linarith
import TypedJson.Proofs.Regex.Automaton

namespace TypedJson.Regex.Automaton

/-- All states lead to states that are there, and only choices lead upward. -/
def WellFormed (states : Array State) : Prop :=
  ∀ (index : Nat) (state : State), states[index]? = some state →
    state.FollowedBelow index states.size

/-- The automaton of an expression goes to its own states only. -/
theorem ofRegex_wellFormed (regex : Regex) :
    WellFormed (ofRegex regex).states ∧ (ofRegex regex).start < (ofRegex regex).states.size := by
  obtain ⟨adds, -⟩ := builds_matches [] regex 0 #[.accept] (by simp)
  refine ⟨fun index state found => ?_, adds.inside⟩
  by_cases low : index < 1
  · have accept : (ofRegex regex).states[index]? = some .accept := by
      rw [ofRegex, adds.keeps index low]
      simp [Nat.lt_one_iff.mp low]
    obtain rfl := Option.some.inj (found.symm.trans accept)
    trivial
  · exact adds.follow index state (Nat.le_of_not_lt low) found

/-- The ways through an automaton that is built from an expression end where its matches end. -/
theorem ofRegex_ends_iff (text : List Char) (regex : Regex) (first last : Nat) :
    (∃ steps, Ends (ofRegex regex).states text steps (ofRegex regex).start first last) ↔
      Matches text regex first last := by
  obtain ⟨adds, passes⟩ := builds_matches text regex 0 #[.accept] (by simp)
  have passes := passes (ofRegex regex).states fun _ _ _ => rfl
  have accept : (ofRegex regex).states[0]? = some .accept := by
    rw [ofRegex, adds.keeps 0 (by simp)]
    simp
  constructor
  · rintro ⟨steps, way⟩
    obtain ⟨fewer, -, middle, found, rest⟩ := passes.sound steps first last way
    cases rest with
    | accept => exact found
    | _ => simp_all
  · intro found
    exact passes.complete 0 first last last found (.accept accept)

variable {automaton : Automaton} {text : List Char}

/-- The ways that go on from a way by one state. -/
def followers (states : Array State) (text : List Char) (way : Way) : List Way :=
  match states[way.state]? with
  | some (.one set next) =>
    if text[way.position]?.any set.contains then
      [{ way with state := next, position := way.position + 1 }]
    else []
  | some (.check condition next) =>
    if condition.holds (charBefore text.toArray way.position) text[way.position]? then
      [{ way with state := next }]
    else []
  | some (.split first second) => [{ way with state := first }, { way with state := second }]
  | some (.mark slot next) =>
    [{ way with state := next, marks := (slot, way.position) :: way.marks }]
  | _ => []

/-- A way that has not ended yet ends after one of its followers does. -/
theorem ends_iff (way : Way) (steps last : Nat) :
    Ends automaton.states text steps way.state way.position last ↔
      (steps = 0 ∧ automaton.states[way.state]? = some .accept ∧ way.position = last) ∨
        ∃ fewer, steps = fewer + 1 ∧ ∃ other ∈ followers automaton.states text way,
          Ends automaton.states text fewer other.state other.position last := by
  unfold followers
  constructor
  · intro ends
    cases ends with
    | accept here => exact .inl ⟨rfl, here, rfl⟩
    | one here found member rest =>
        rw [here]
        exact .inr ⟨_, rfl, { way with state := _, position := way.position + 1 },
          by simp [found, member], rest⟩
    | check here holds rest =>
        rw [here]
        exact .inr ⟨_, rfl, { way with state := _ }, by simp [show _ = true from holds], rest⟩
    | first here rest =>
        rw [here]
        exact .inr ⟨_, rfl, { way with state := _ }, by simp, rest⟩
    | second here rest =>
        rw [here]
        exact .inr ⟨_, rfl, { way with state := _ }, by simp, rest⟩
    | mark here rest =>
        rw [here]
        exact .inr ⟨_, rfl, _, List.mem_singleton_self _, rest⟩
  · rintro (⟨rfl, here, rfl⟩ | ⟨fewer, rfl, other, inside, ends⟩)
    · exact .accept here
    · split at inside
      · rename_i set next here
        split at inside
        · rename_i member
          obtain ⟨char, found, member⟩ := (Option.any_eq_true _ _).mp member
          obtain rfl := List.mem_singleton.mp inside
          exact .one here found member ends
        · simp at inside
      · rename_i condition next here
        split at inside
        · rename_i holds
          obtain rfl := List.mem_singleton.mp inside
          exact .check here holds ends
        · simp at inside
      · rename_i first second here
        rw [List.mem_pair] at inside
        obtain rfl | rfl := inside
        · exact .first here ends
        · exact .second here ends
      · rename_i slot next here
        obtain rfl := List.mem_singleton.mp inside
        exact .mark here ends
      · simp at inside

/-- The number under which a choice at a position is remembered. -/
def choiceNumber (text : List Char) (state position : Nat) : Nat :=
  state * (text.length + 1) + position

/-- What the search does with the first of the ways that it has still to follow. -/
theorem search_cons (fuel : Nat) (chosen : Std.HashSet Nat) (way : Way) (later : List Way)
    (inside : way.state < automaton.states.size) :
    let number := choiceNumber text way.state way.position
    let onward := followers automaton.states text way ++ later
    (automaton.states[way.state]? = some .accept ∧
        automaton.search text.toArray (fuel + 1) chosen (way :: later) = some way) ∨
      (∃ first second, automaton.states[way.state]? = some (.split first second) ∧
        (number ∈ chosen ∧ automaton.search text.toArray (fuel + 1) chosen (way :: later) =
            automaton.search text.toArray fuel chosen later ∨
          number ∉ chosen ∧ automaton.search text.toArray (fuel + 1) chosen (way :: later) =
            automaton.search text.toArray fuel (chosen.insert number) onward)) ∨
      (automaton.states[way.state]? ≠ some .accept ∧
        (∀ first second, automaton.states[way.state]? ≠ some (.split first second)) ∧
        automaton.search text.toArray (fuel + 1) chosen (way :: later) =
          automaton.search text.toArray fuel chosen onward) := by
  dsimp only
  obtain ⟨state, here⟩ : ∃ state, automaton.states[way.state]? = some state :=
    ⟨_, Array.getElem?_eq_getElem inside⟩
  cases state with
  | accept => exact .inl ⟨here, by simp only [search, here]⟩
  | one set next =>
      refine .inr (.inr ⟨by simp [here], by simp [here], ?_⟩)
      simp only [search, followers, here, List.getElem?_toArray]
      split <;> rfl
  | check condition next =>
      refine .inr (.inr ⟨by simp [here], by simp [here], ?_⟩)
      simp only [search, followers, here, List.getElem?_toArray]
      split <;> rfl
  | split first second =>
      refine .inr (.inl ⟨first, second, here, ?_⟩)
      simp only [search, followers, here, List.size_toArray, ← Std.HashSet.mem_iff_contains,
        choiceNumber]
      split
      · rename_i done
        exact .inl ⟨done, rfl⟩
      · rename_i new
        exact .inr ⟨new, rfl⟩
  | mark slot next =>
      refine .inr (.inr ⟨by simp [here], by simp [here], ?_⟩)
      simp only [search, followers, here]
      rfl

/-- The ways that follow are in states of the automaton. -/
theorem followers_inside (wellFormed : WellFormed automaton.states) {way other : Way}
    (follows : other ∈ followers automaton.states text way) :
    other.state < automaton.states.size := by
  unfold followers at follows
  split at follows
  · rename_i set next here
    have below : next < way.state := wellFormed _ _ here
    have size := (Array.getElem?_eq_some_iff.mp here).1
    split at follows
    · obtain rfl := List.mem_singleton.mp follows
      exact below.trans size
    · simp at follows
  · rename_i condition next here
    have below : next < way.state := wellFormed _ _ here
    have size := (Array.getElem?_eq_some_iff.mp here).1
    split at follows
    · obtain rfl := List.mem_singleton.mp follows
      exact below.trans size
    · simp at follows
  · rename_i first second here
    obtain ⟨one, two⟩ : first < automaton.states.size ∧ second < automaton.states.size :=
      wellFormed _ _ here
    rw [List.mem_pair] at follows
    obtain rfl | rfl := follows
    · exact one
    · exact two
  · rename_i slot next here
    have below : next < way.state := wellFormed _ _ here
    have size := (Array.getElem?_eq_some_iff.mp here).1
    obtain rfl := List.mem_singleton.mp follows
    exact below.trans size
  · simp at follows

/-- A way that the search gives goes on from one of those that it was given. -/
theorem search_sound (wellFormed : WellFormed automaton.states) {fuel : Nat}
    {chosen : Std.HashSet Nat} {ways : List Way} {found : Way}
    (inside : ∀ way ∈ ways, way.state < automaton.states.size)
    (result : automaton.search text.toArray fuel chosen ways = some found) :
    ∃ way ∈ ways, ∃ steps,
      Ends automaton.states text steps way.state way.position found.position := by
  induction fuel generalizing chosen ways with
  | zero => simp [search] at result
  | succ fuel ih =>
      cases ways with
      | nil => simp [search] at result
      | cons way later =>
          rw [List.forall_mem_cons] at inside
          have onward : ∀ chosen, automaton.search text.toArray fuel chosen
              (followers automaton.states text way ++ later) = some found →
              ∃ other ∈ way :: later, ∃ steps,
                Ends automaton.states text steps other.state other.position found.position := by
            intro chosen result
            have allInside : ∀ other ∈ followers automaton.states text way ++ later,
                other.state < automaton.states.size := by
              rw [List.forall_mem_append]
              exact ⟨fun other follows => followers_inside wellFormed follows, inside.2⟩
            obtain ⟨other, member, steps, ends⟩ := ih allInside result
            obtain follows | member := List.mem_append.mp member
            · exact ⟨way, List.mem_cons_self, steps + 1,
                (ends_iff way _ _).mpr (.inr ⟨steps, rfl, other, follows, ends⟩)⟩
            · exact ⟨other, List.mem_cons_of_mem _ member, steps, ends⟩
          obtain ⟨accept, done⟩ | ⟨_, _, _, ⟨_, skipped⟩ | ⟨_, went⟩⟩ | ⟨_, _, went⟩ :=
            search_cons fuel chosen way later inside.1
          · obtain rfl := Option.some.inj (done.symm.trans result)
            exact ⟨way, List.mem_cons_self, 0, .accept accept⟩
          · obtain ⟨other, member, ends⟩ := ih inside.2 (skipped.symm.trans result)
            exact ⟨other, List.mem_cons_of_mem _ member, ends⟩
          · exact onward _ (went.symm.trans result)
          · exact onward _ (went.symm.trans result)

/-- How many choices may still be made. -/
def choicesLeft (bound : Nat) (chosen : Std.HashSet Nat) : Nat :=
  ((Finset.range bound).filter (· ∉ chosen)).card

/-- What is left to do: the choices, and for each way the states below it. -/
def workLeft (states : Array State) (text : List Char) (chosen : Std.HashSet Nat)
    (ways : List Way) : Nat :=
  2 * states.size * choicesLeft (states.size * (text.length + 1)) chosen +
    (ways.map fun way => way.state + 1).sum

/-- Each new choice leaves one fewer. -/
theorem choicesLeft_insert {bound number : Nat} {chosen : Std.HashSet Nat}
    (inside : number < bound) (new : number ∉ chosen) :
    choicesLeft bound (chosen.insert number) + 1 = choicesLeft bound chosen := by
  have member : number ∈ (Finset.range bound).filter (· ∉ chosen) := by simp [inside, new]
  have erase : (Finset.range bound).filter (· ∉ chosen.insert number) =
      ((Finset.range bound).filter (· ∉ chosen)).erase number := by
    ext other
    simp only [Finset.mem_filter, Finset.mem_erase, Finset.mem_range, Std.HashSet.mem_insert,
      beq_iff_eq, not_or]
    tauto
  rw [choicesLeft, choicesLeft, erase, Finset.card_erase_add_one member]

/-- The numbers of choices are bounded by the states and the positions. -/
theorem choiceNumber_lt {states : Array State} {state position : Nat}
    (stateInside : state < states.size) (inside : position ≤ text.length) :
    choiceNumber text state position < states.size * (text.length + 1) := by
  have rows := Nat.mul_le_mul_right (text.length + 1) (Nat.succ_le_of_lt stateInside)
  rw [Nat.succ_mul] at rows
  rw [choiceNumber]
  omega

/-- Different choices have different numbers. -/
theorem choiceNumber_inj {state state' position position' : Nat} (inside : position ≤ text.length)
    (inside' : position' ≤ text.length)
    (same : choiceNumber text state position = choiceNumber text state' position') :
    state = state' ∧ position = position' := by
  have row (state position : Nat) (inside : position ≤ text.length) :
      choiceNumber text state position / (text.length + 1) = state := by
    rw [choiceNumber, Nat.mul_comm, Nat.mul_add_div (Nat.succ_pos _),
      Nat.div_eq_of_lt (Nat.lt_succ_of_le inside), Nat.add_zero]
  have first : state = state' := by
    rw [← row state position inside, same, row state' position' inside']
  subst first
  exact ⟨rfl, Nat.add_left_cancel same⟩

/-- The ways that follow stay in the text. -/
theorem followers_position {way other : Way} (inside : way.position ≤ text.length)
    (follows : other ∈ followers automaton.states text way) : other.position ≤ text.length := by
  unfold followers at follows
  split at follows
  · split at follows
    · rename_i member
      obtain ⟨char, found, -⟩ := (Option.any_eq_true _ _).mp member
      have more := (List.getElem?_eq_some_iff.mp found).1
      obtain rfl := List.mem_singleton.mp follows
      exact more
    · simp at follows
  · split at follows
    · obtain rfl := List.mem_singleton.mp follows
      exact inside
    · simp at follows
  · rw [List.mem_pair] at follows
    obtain rfl | rfl := follows <;> exact inside
  · obtain rfl := List.mem_singleton.mp follows
    exact inside
  · simp at follows

/-- Without a choice, a way goes on below its own state. -/
theorem followers_lower (text : List Char) (wellFormed : WellFormed automaton.states) {way : Way}
    (noChoice : ∀ first second, automaton.states[way.state]? ≠ some (.split first second)) :
    ((followers automaton.states text way).map fun way => way.state + 1).sum < way.state + 1 := by
  unfold followers
  split
  · rename_i set next here
    have below : next < way.state := wellFormed _ _ here
    split <;> simp [below]
  · rename_i condition next here
    have below : next < way.state := wellFormed _ _ here
    split <;> simp [below]
  · rename_i first second here
    exact absurd here (noChoice first second)
  · rename_i slot next here
    have below : next < way.state := wellFormed _ _ here
    simp [below]
  · simp

/-- The ways of a choice, which are not below its state, weigh less than a choice that is left. -/
theorem followers_choice (text : List Char) (wellFormed : WellFormed automaton.states) {way : Way}
    {first second : Nat} (here : automaton.states[way.state]? = some (.split first second)) :
    ((followers automaton.states text way).map fun way => way.state + 1).sum ≤
      2 * automaton.states.size := by
  obtain ⟨one, two⟩ : first < automaton.states.size ∧ second < automaton.states.size :=
    wellFormed _ _ here
  simp only [followers, here, List.map_cons, List.map_nil, List.sum_cons, List.sum_nil]
  omega

/--
The search finds a way if one of the given ways ends, as long as every choice that was made
before ends later than some way that is still to be followed.
-/
theorem search_complete (wellFormed : WellFormed automaton.states) {fuel : Nat}
    {chosen : Std.HashSet Nat} {ways : List Way}
    (inside : ∀ way ∈ ways, way.state < automaton.states.size ∧ way.position ≤ text.length)
    (enough : workLeft automaton.states text chosen ways ≤ fuel)
    (remembered : ∀ state position, position ≤ text.length →
      choiceNumber text state position ∈ chosen →
      ∀ steps last, Ends automaton.states text steps state position last →
        ∃ way ∈ ways, ∃ fewer < steps, ∃ last,
          Ends automaton.states text fewer way.state way.position last)
    (ends : ∃ way ∈ ways, ∃ steps last,
      Ends automaton.states text steps way.state way.position last) :
    ∃ found, automaton.search text.toArray fuel chosen ways = some found := by
  induction fuel generalizing chosen ways with
  | zero =>
      cases ways with
      | nil => simp at ends
      | cons way later =>
          rw [workLeft, List.map_cons, List.sum_cons] at enough
          omega
  | succ fuel ih =>
      cases ways with
      | nil => simp at ends
      | cons way later =>
          have here := inside way List.mem_cons_self
          have rest := fun other member => inside other (List.mem_cons_of_mem way member)
          have onwardInside : ∀ other ∈ followers automaton.states text way ++ later,
              other.state < automaton.states.size ∧ other.position ≤ text.length := by
            rw [List.forall_mem_append]
            exact ⟨fun other follows => ⟨followers_inside wellFormed follows,
              followers_position here.2 follows⟩, rest⟩
          have passOn (going : automaton.states[way.state]? ≠ some .accept) {other : Way}
              (member : other ∈ way :: later) {steps last : Nat}
              (way' : Ends automaton.states text steps other.state other.position last) :
              ∃ next ∈ followers automaton.states text way ++ later, ∃ fewer ≤ steps,
                Ends automaton.states text fewer next.state next.position last := by
            obtain rfl | member := List.mem_cons.mp member
            · obtain ⟨-, accept, -⟩ | ⟨fewer, rfl, next, follows, rest⟩ :=
                (ends_iff other steps last).mp way'
              · exact absurd accept going
              · exact ⟨next, List.mem_append_left _ follows, fewer, Nat.le_succ fewer, rest⟩
            · exact ⟨other, List.mem_append_right _ member, steps, Nat.le_refl _, way'⟩
          have endsOnward (going : automaton.states[way.state]? ≠ some .accept) :
              ∃ next ∈ followers automaton.states text way ++ later, ∃ steps last,
                Ends automaton.states text steps next.state next.position last := by
            obtain ⟨other, member, steps, last, way'⟩ := ends
            obtain ⟨next, inside, fewer, -, rest⟩ := passOn going member way'
            exact ⟨next, inside, fewer, last, rest⟩
          have rememberedOnward (going : automaton.states[way.state]? ≠ some .accept)
              (state position : Nat) (bound : position ≤ text.length)
              (old : choiceNumber text state position ∈ chosen) (steps last : Nat)
              (way' : Ends automaton.states text steps state position last) :
              ∃ next ∈ followers automaton.states text way ++ later, ∃ fewer < steps, ∃ last,
                Ends automaton.states text fewer next.state next.position last := by
            obtain ⟨other, member, fewer, less, last', rest⟩ :=
              remembered state position bound old steps last way'
            obtain ⟨next, inside, fewest, least, rest⟩ := passOn going member rest
            exact ⟨next, inside, fewest, by omega, last', rest⟩
          rw [workLeft, List.map_cons, List.sum_cons] at enough
          obtain ⟨-, done⟩ | ⟨first, second, split, ⟨old, skipped⟩ | ⟨new, went⟩⟩ |
            ⟨going, noChoice, went⟩ := search_cons fuel chosen way later here.1
          · exact ⟨way, done⟩
          · -- A way that waits for the same choice cannot be the only one that still ends.
            have elsewhere (steps last : Nat)
                (way' : Ends automaton.states text steps way.state way.position last) :
                ∃ other ∈ later, ∃ fewer < steps, ∃ last,
                  Ends automaton.states text fewer other.state other.position last := by
              induction steps using Nat.strong_induction_on generalizing last with
              | _ steps shorter =>
                  obtain ⟨other, member, fewer, less, last', rest⟩ :=
                    remembered way.state way.position here.2 old steps last way'
                  obtain rfl | member := List.mem_cons.mp member
                  · obtain ⟨next, member, fewest, least, rest⟩ := shorter fewer less last' rest
                    exact ⟨next, member, fewest, least.trans less, rest⟩
                  · exact ⟨other, member, fewer, less, last', rest⟩
            rw [skipped]
            refine ih rest (by rw [workLeft]; omega) ?_ ?_
            · intro state position bound old steps last way'
              obtain ⟨other, member, fewer, less, last', rest⟩ :=
                remembered state position bound old steps last way'
              obtain rfl | member := List.mem_cons.mp member
              · obtain ⟨next, member, fewest, least, rest⟩ := elsewhere fewer last' rest
                exact ⟨next, member, fewest, least.trans less, rest⟩
              · exact ⟨other, member, fewer, less, last', rest⟩
            · obtain ⟨other, member, steps, last, way'⟩ := ends
              obtain rfl | member := List.mem_cons.mp member
              · obtain ⟨next, member, fewer, -, rest⟩ := elsewhere steps last way'
                exact ⟨next, member, fewer, rest⟩
              · exact ⟨other, member, steps, last, way'⟩
          · have going : automaton.states[way.state]? ≠ some .accept := by simp [split]
            have weight := followers_choice text wellFormed split
            have left := choicesLeft_insert (choiceNumber_lt here.1 here.2) new
            rw [went]
            refine ih onwardInside ?_ ?_ (endsOnward going)
            · rw [workLeft, List.map_append, List.sum_append]
              rw [← left, Nat.mul_succ] at enough
              omega
            · intro state position bound old steps last way'
              obtain same | old := Std.HashSet.mem_insert.mp old
              · obtain ⟨rfl, rfl⟩ := choiceNumber_inj here.2 bound (beq_iff_eq.mp same)
                obtain ⟨-, accept, -⟩ | ⟨fewer, rfl, next, follows, rest⟩ :=
                  (ends_iff way steps last).mp way'
                · exact absurd accept going
                · exact ⟨next, List.mem_append_left _ follows, fewer, Nat.lt_succ_self fewer, last,
                    rest⟩
              · exact rememberedOnward going state position bound old steps last way'
          · have weight := followers_lower text wellFormed noChoice
            rw [went]
            refine ih onwardInside ?_ (rememberedOnward going) (endsOnward going)
            rw [workLeft, List.map_append, List.sum_append]
            omega

/-- The fuel of a search is enough for one way and no choice made before. -/
theorem workLeft_start {states : Array State} {state : Nat} (inside : state < states.size)
    (position : Nat) :
    workLeft states text ∅ [⟨state, position, []⟩] ≤
      2 * (states.size + 1) * (states.size + 1) * (text.toArray.size + 2) := by
  have choices : choicesLeft (states.size * (text.length + 1)) ∅ ≤
      states.size * (text.length + 1) :=
    (Finset.card_filter_le _ _).trans (Finset.card_range _).le
  have all := Nat.mul_le_mul_left (2 * states.size) choices
  simp only [workLeft, List.map_cons, List.map_nil, List.sum_cons, List.sum_nil, List.size_toArray]
  nlinarith

/-- The preferred match at a position is a match, and there is one if anything matches there. -/
theorem match?_ofRegex (text : List Char) (regex : Regex) {start : Nat}
    (inside : start ≤ text.length) :
    (∀ way, (ofRegex regex).match? text.toArray start = some way →
      Matches text regex start way.position) ∧
    ∀ last, Matches text regex start last →
      ∃ way, (ofRegex regex).match? text.toArray start = some way := by
  obtain ⟨wellFormed, startInside⟩ := ofRegex_wellFormed regex
  constructor
  · intro way result
    obtain ⟨other, member, steps, ends⟩ := search_sound wellFormed (by simpa) result
    obtain rfl := List.mem_singleton.mp member
    exact (ofRegex_ends_iff text regex start way.position).mp ⟨steps, ends⟩
  · intro last found
    obtain ⟨steps, ends⟩ := (ofRegex_ends_iff text regex start last).mpr found
    refine search_complete wellFormed (by simpa using ⟨startInside, inside⟩) ?_ (by simp)
      ⟨_, List.mem_singleton_self _, steps, last, ends⟩
    exact workLeft_start startInside start

end TypedJson.Regex.Automaton
