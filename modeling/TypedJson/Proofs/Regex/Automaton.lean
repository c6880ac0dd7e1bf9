import Mathlib.Data.Finset.Card
import Mathlib.Logic.Function.Iterate
import TypedJson.Proofs.Regex.Matches

namespace TypedJson.Regex

namespace Automaton

/-- A way of some number of steps from a state at a position to acceptance at the last one. -/
inductive Ends (states : Array State) (text : List Char) : Nat → Nat → Nat → Nat → Prop
  | accept {state position : Nat} (here : states[state]? = some .accept) :
      Ends states text 0 state position position
  | one {state next position steps last : Nat} {set : CharSet} {char : Char}
      (here : states[state]? = some (.one set next)) (found : text[position]? = some char)
      (member : set.contains char = true)
      (rest : Ends states text steps next (position + 1) last) :
      Ends states text (steps + 1) state position last
  | check {state next position steps last : Nat} {condition : Look}
      (here : states[state]? = some (.check condition next))
      (holds : condition.HoldsAt text position) (rest : Ends states text steps next position last) :
      Ends states text (steps + 1) state position last
  | first {state first second position steps last : Nat}
      (here : states[state]? = some (.split first second))
      (rest : Ends states text steps first position last) :
      Ends states text (steps + 1) state position last
  | second {state first second position steps last : Nat}
      (here : states[state]? = some (.split first second))
      (rest : Ends states text steps second position last) :
      Ends states text (steps + 1) state position last
  | mark {state slot next position steps last : Nat}
      (here : states[state]? = some (.mark slot next))
      (rest : Ends states text steps next position last) :
      Ends states text (steps + 1) state position last

/-- From one state, a way to acceptance first makes a move of a relation and then leaves another. -/
structure Passes (states : Array State) (text : List Char) (relation : Nat → Nat → Prop)
    (start next : Nat) : Prop where
  sound : ∀ steps first last, Ends states text steps start first last →
    ∃ fewer ≤ steps, ∃ middle, relation first middle ∧ Ends states text fewer next middle last
  complete : ∀ steps first middle last, relation first middle →
    Ends states text steps next middle last → ∃ more, Ends states text more start first last

namespace Passes

variable {states : Array State} {text : List Char} {relation relation' : Nat → Nat → Prop}
  {start middle next : Nat}

/-- A state passes to itself. -/
theorem stay (state : Nat) : Passes states text (fun first last => first = last) state state where
  sound steps first last way := ⟨steps, Nat.le_refl _, first, rfl, way⟩
  complete := by
    rintro steps first _ last rfl way
    exact ⟨steps, way⟩

/-- What states pass through may be said in other words. -/
theorem congr (passes : Passes states text relation start next)
    (same : ∀ first last, relation first last ↔ relation' first last) :
    Passes states text relation' start next where
  sound steps first last way := by
    simpa only [same] using passes.sound steps first last way
  complete steps first middle last step := passes.complete steps first middle last
    ((same first middle).mpr step)

theorem trans (before : Passes states text relation start middle)
    (after : Passes states text relation' middle next) :
    Passes states text (fun first last => ∃ between, relation first between ∧
      relation' between last) start next where
  sound steps first last way := by
    obtain ⟨fewer, bound, between, here, rest⟩ := before.sound steps first last way
    obtain ⟨fewest, bound', position, there, others⟩ := after.sound fewer between last rest
    exact ⟨fewest, bound'.trans bound, position, ⟨between, here, there⟩, others⟩
  complete := by
    rintro steps first position last ⟨between, here, there⟩ way
    obtain ⟨more, rest⟩ := after.complete steps between position last there way
    exact before.complete more first between last here rest

/-- A state for a set passes over one of its members. -/
theorem one {set : CharSet} (here : states[start]? = some (.one set next)) :
    Passes states text (Matches text (.one set)) start next where
  sound steps first last way := by
    cases way with
    | one here' found member rest =>
        obtain ⟨rfl, rfl⟩ : _ = set ∧ _ = next := by simpa [here'] using here
        exact ⟨_, Nat.le_succ _, first + 1, ⟨⟨_, found, member⟩, rfl⟩, rest⟩
    | _ => simp_all
  complete := by
    rintro steps first _ last ⟨⟨char, found, member⟩, rfl⟩ way
    exact ⟨steps + 1, .one here found member way⟩

/-- A state for a condition passes where it holds. -/
theorem look {condition : Look} (here : states[start]? = some (.check condition next)) :
    Passes states text (Matches text (.look condition)) start next where
  sound steps first last way := by
    cases way with
    | check here' holds rest =>
        obtain ⟨rfl, rfl⟩ : _ = condition ∧ _ = next := by simpa [here'] using here
        exact ⟨_, Nat.le_succ _, first, ⟨holds, rfl⟩, rest⟩
    | _ => simp_all
  complete := by
    rintro steps first _ last ⟨holds, rfl⟩ way
    exact ⟨steps + 1, .check here holds way⟩

/-- A state that keeps a place passes everywhere. -/
theorem mark {slot : Nat} (here : states[start]? = some (.mark slot next)) :
    Passes states text (fun first last => first = last) start next where
  sound steps first last way := by
    cases way with
    | mark here' rest =>
        obtain ⟨-, rfl⟩ : _ = slot ∧ _ = next := by simpa [here'] using here
        exact ⟨_, Nat.le_succ _, first, rfl, rest⟩
    | _ => simp_all
  complete := by
    rintro steps first _ last rfl way
    exact ⟨steps + 1, .mark here way⟩

/-- A split passes on to both of its states. -/
theorem split {first second : Nat} (here : states[start]? = some (.split first second))
    (one : Passes states text relation first next)
    (other : Passes states text relation' second next) :
    Passes states text (fun first last => relation first last ∨ relation' first last) start next
    where
  sound steps position last way := by
    cases way with
    | first here' rest =>
        obtain ⟨rfl, rfl⟩ : _ = first ∧ _ = second := by simpa [here'] using here
        obtain ⟨fewer, bound, middle, step, others⟩ := one.sound _ _ _ rest
        exact ⟨fewer, Nat.le_succ_of_le bound, middle, .inl step, others⟩
    | second here' rest =>
        obtain ⟨rfl, rfl⟩ : _ = first ∧ _ = second := by simpa [here'] using here
        obtain ⟨fewer, bound, middle, step, others⟩ := other.sound _ _ _ rest
        exact ⟨fewer, Nat.le_succ_of_le bound, middle, .inr step, others⟩
    | _ => simp_all
  complete := by
    rintro steps position middle last (step | step) way
    · obtain ⟨more, rest⟩ := one.complete steps position middle last step way
      exact ⟨more + 1, .first here rest⟩
    · obtain ⟨more, rest⟩ := other.complete steps position middle last step way
      exact ⟨more + 1, .second here rest⟩

/-- A choice leads to what both of its sides lead to, whichever is preferred. -/
theorem choice {greedy : Bool} {round done : Nat}
    (here : states[start]? = some (Automaton.choice greedy round done))
    (more : Passes states text relation round next)
    (stop : Passes states text relation' done next) :
    Passes states text (fun first last => relation first last ∨ relation' first last) start next := by
  cases greedy with
  | true => exact split here more stop
  | false => exact (split here stop more).congr fun _ _ => or_comm

/-- A loop passes any number of rounds, by induction on the steps of a way. -/
theorem loop {greedy : Bool} {loop round : Nat}
    (here : states[loop]? = some (Automaton.choice greedy round next))
    (body : Passes states text relation round loop) :
    Passes states text (fun first last => ∃ count, Rounds relation count first last) loop next where
  sound steps := by
    induction steps using Nat.strong_induction_on with
    | _ steps ih =>
        intro first last way
        have done : ∀ fewer < steps, Ends states text fewer next first last →
            ∃ fewer ≤ steps, ∃ middle, (∃ count, Rounds relation count first middle) ∧
              Ends states text fewer next middle last := by
          intro fewer bound rest
          exact ⟨fewer, Nat.le_of_lt bound, first, ⟨0, rfl⟩, rest⟩
        have again : ∀ fewer < steps, Ends states text fewer round first last →
            ∃ fewer ≤ steps, ∃ middle, (∃ count, Rounds relation count first middle) ∧
              Ends states text fewer next middle last := by
          intro fewer bound rest
          obtain ⟨fewest, bound', between, step, others⟩ := body.sound fewer first last rest
          obtain ⟨least, bound'', middle, ⟨count, through⟩, end'⟩ :=
            ih fewest (by omega) between last others
          exact ⟨least, by omega, middle, ⟨count + 1, between, step, through⟩, end'⟩
        cases greedy with
        | true =>
            cases way with
            | first here' rest =>
                obtain ⟨rfl, rfl⟩ : _ = round ∧ _ = next := by
                  simpa [here', Automaton.choice] using here
                exact again _ (Nat.lt_succ_self _) rest
            | second here' rest =>
                obtain ⟨rfl, rfl⟩ : _ = round ∧ _ = next := by
                  simpa [here', Automaton.choice] using here
                exact done _ (Nat.lt_succ_self _) rest
            | _ => simp_all [Automaton.choice]
        | false =>
            cases way with
            | first here' rest =>
                obtain ⟨rfl, rfl⟩ : _ = next ∧ _ = round := by
                  simpa [here', Automaton.choice] using here
                exact done _ (Nat.lt_succ_self _) rest
            | second here' rest =>
                obtain ⟨rfl, rfl⟩ : _ = next ∧ _ = round := by
                  simpa [here', Automaton.choice] using here
                exact again _ (Nat.lt_succ_self _) rest
            | _ => simp_all [Automaton.choice]
  complete := by
    rintro steps first middle last ⟨count, through⟩ way
    induction count generalizing first with
    | zero =>
        obtain rfl := through
        cases greedy with
        | true => exact ⟨steps + 1, .second here way⟩
        | false => exact ⟨steps + 1, .first here way⟩
    | succ count ih =>
        obtain ⟨between, step, rest⟩ := through
        obtain ⟨more, others⟩ := ih between rest
        obtain ⟨most, round'⟩ := body.complete more first between last step others
        cases greedy with
        | true => exact ⟨most + 1, .first here round'⟩
        | false => exact ⟨most + 1, .second here round'⟩

end Passes

end Automaton

/-- The states that may follow a state: those of choices anywhere, and lower ones else. -/
def State.FollowedBelow (index size : Nat) : State → Prop
  | accept => True
  | one _ next => next < index
  | check _ next => next < index
  | split first second => first < size ∧ second < size
  | mark _ next => next < index

theorem State.FollowedBelow.mono {index size size' : Nat} {state : State}
    (below : state.FollowedBelow index size) (larger : size ≤ size') :
    state.FollowedBelow index size' := by
  cases state with
  | split first second => exact ⟨below.1.trans_le larger, below.2.trans_le larger⟩
  | _ => exact below

namespace Automaton

/-- Building adds states behind the ones that are there, and starts at one that is there then. -/
structure Adds (states : Array State) (built : Built) : Prop where
  grows : states.size ≤ built.2.size
  keeps : ∀ index < states.size, built.2[index]? = states[index]?
  inside : built.1 < built.2.size
  follow : ∀ index state, states.size ≤ index → built.2[index]? = some state →
    state.FollowedBelow index built.2.size

/-- One automaton has the states of another from an index on. -/
def SharesFrom (low : Nat) (part whole : Array State) : Prop :=
  ∀ index, low ≤ index → index < part.size → whole[index]? = part[index]?

/-- What is built leads to the state that it is built for as a relation says. -/
def Builds (text : List Char) (build : Build) (relation : Nat → Nat → Prop) : Prop :=
  ∀ next states, next < states.size → Adds states (build next states) ∧
    ∀ whole, SharesFrom states.size (build next states).2 whole →
      Passes whole text relation (build next states).1 next

theorem Adds.refl {states : Array State} {next : Nat} (inside : next < states.size) :
    Adds states (next, states) where
  grows := Nat.le_refl _
  keeps _ _ := rfl
  inside := inside
  follow index state low found := by
    have high : index < states.size := (Array.getElem?_eq_some_iff.mp found).1
    omega

theorem Adds.trans {states : Array State} {middle built : Built} (one : Adds states middle)
    (two : Adds middle.2 built) : Adds states built where
  grows := one.grows.trans two.grows
  keeps index low := by
    rw [two.keeps index (low.trans_le one.grows), one.keeps index low]
  inside := two.inside
  follow index state low found := by
    by_cases old : index < middle.2.size
    · rw [two.keeps index old] at found
      exact (one.follow index state low found).mono two.grows
    · exact two.follow index state (Nat.le_of_not_lt old) found

/-- One more state is added behind the others. -/
theorem Adds.add {states : Array State} {state : State}
    (below : state.FollowedBelow states.size (states.size + 1)) :
    Adds states (add state states) where
  grows := by simp [Automaton.add]
  keeps index low := by
    rw [Automaton.add, Array.getElem?_push_lt low, Array.getElem?_eq_getElem low]
  inside := by simp [Automaton.add]
  follow index other low found := by
    rw [Automaton.add, Array.getElem?_push] at found
    split at found
    · rename_i same
      subst same
      obtain rfl := Option.some.inj found
      simpa [Automaton.add] using below
    · have high := (Array.getElem?_eq_some_iff.mp found).1
      omega

/-- States that are shared later were shared before. -/
theorem SharesFrom.before {low : Nat} {middle whole : Array State} {built : Built}
    (shares : SharesFrom low built.2 whole) (adds : Adds middle built) :
    SharesFrom low middle whole := by
  intro index least inside
  rw [shares index least (inside.trans_le adds.grows), adds.keeps index inside]

/-- States that are shared from a place are shared from a later one. -/
theorem SharesFrom.after {low high : Nat} {part whole : Array State}
    (shares : SharesFrom low part whole) (further : low ≤ high) : SharesFrom high part whole :=
  fun index least inside => shares index (further.trans least) inside

/-- The state that was added last is there in every automaton that shares what was built. -/
theorem SharesFrom.added {low : Nat} {state : State} {states whole : Array State}
    (shares : SharesFrom low (add state states).2 whole) (least : low ≤ states.size) :
    whole[(add state states).1]? = some state := by
  exact (shares states.size least (by simp [add])).trans (by simp [add])

namespace Builds

variable {text : List Char} {build : Build} {relation : Nat → Nat → Prop}

theorem congr {relation' : Nat → Nat → Prop} (builds : Builds text build relation)
    (same : ∀ first last, relation first last ↔ relation' first last) :
    Builds text build relation' := fun next states inside =>
  ⟨(builds next states inside).1, fun whole shares =>
    ((builds next states inside).2 whole shares).congr same⟩

theorem nothing : Builds text (fun next states => (next, states)) fun first last => first = last :=
  fun next _ inside => ⟨.refl inside, fun _ _ => .stay next⟩

/-- A state that leads down to the next one. -/
theorem state {make : Nat → State}
    (below : ∀ next size, next < size → (make next).FollowedBelow size (size + 1))
    (passes : ∀ whole start next, whole[start]? = some (make next) →
      Passes whole text relation start next) :
    Builds text (fun next states => add (make next) states) relation := fun next states inside =>
  ⟨.add (below next states.size inside), fun whole shares =>
    passes whole _ next (shares.added (Nat.le_refl _))⟩

/-- A part that is built for the start of another leads through both. -/
theorem before {build' : Build} {relation' : Nat → Nat → Prop} (first : Builds text build relation)
    (second : Builds text build' relation') :
    Builds text (fun next states => build (build' next states).1 (build' next states).2)
      fun first last => ∃ middle, relation first middle ∧ relation' middle last := by
  intro next states inside
  obtain ⟨adds', passes'⟩ := second next states inside
  obtain ⟨adds, passes⟩ := first _ _ adds'.inside
  refine ⟨adds'.trans adds, fun whole shares => ?_⟩
  exact (passes whole (shares.after adds'.grows)).trans (passes' whole (shares.before adds))

/-- The last round of several may be split off. -/
theorem rounds_succ_iff {relation : Nat → Nat → Prop} {count first last : Nat} :
    Rounds relation (count + 1) first last ↔
      ∃ middle, Rounds relation count first middle ∧ relation middle last := by
  constructor
  · intro through
    obtain ⟨middle, before, last', after, rfl⟩ := Rounds.split through
    exact ⟨middle, before, after⟩
  · rintro ⟨middle, before, after⟩
    exact Rounds.append before ⟨last, after, rfl⟩

/-- Copies pass so many rounds. -/
theorem copies (builds : Builds text build relation) (count : Nat) :
    Builds text (buildCopies build count) (Rounds relation count) := by
  induction count with
  | zero => exact nothing
  | succ count ih =>
      exact (ih.before builds).congr fun first last => rounds_succ_iff.symm

/-- Either nothing, or one round and then what another relation says. -/
def AtMost (relation rest : Nat → Nat → Prop) : Nat → Nat → Prop := fun first last =>
  (∃ middle, relation first middle ∧ rest middle last) ∨ first = last

/-- Optional rounds one inside the other are at most so many rounds. -/
theorem iterate_atMost_iff {relation : Nat → Nat → Prop} {count first last : Nat} :
    (AtMost relation)^[count] (fun first last => first = last) first last ↔
      ∃ fewer ≤ count, Rounds relation fewer first last := by
  induction count generalizing first with
  | zero => simp [Rounds]
  | succ count ih =>
      rw [Function.iterate_succ_apply', AtMost]
      simp only [ih]
      constructor
      · rintro (⟨middle, here, fewer, bound, rest⟩ | rfl)
        · exact ⟨fewer + 1, Nat.succ_le_succ bound, middle, here, rest⟩
        · exact ⟨0, Nat.zero_le _, rfl⟩
      · rintro ⟨fewer, bound, through⟩
        cases fewer with
        | zero => exact .inr through
        | succ fewer =>
            obtain ⟨middle, here, rest⟩ := through
            exact .inl ⟨middle, here, fewer, Nat.le_of_succ_le_succ bound, rest⟩

/-- Optional rounds are built from the last to the first, and each of them may lead to the end. -/
theorem optional_from (builds : Builds text build relation) (greedy : Bool) (count : Nat)
    {done next : Nat} {states : Array State} (doneInside : done < states.size)
    (inside : next < states.size) :
    Adds states (buildOptional greedy build done count next states) ∧
      ∀ whole, SharesFrom states.size (buildOptional greedy build done count next states).2 whole →
        ∀ rest, Passes whole text rest next done →
          Passes whole text ((AtMost relation)^[count] rest)
            (buildOptional greedy build done count next states).1 done := by
  induction count generalizing next states with
  | zero => exact ⟨.refl inside, fun _ _ _ passes => passes⟩
  | succ count ih =>
      obtain ⟨addsRound, passesRound⟩ := builds next states inside
      have addsChoice : Adds (build next states).2
          (add (choice greedy (build next states).1 done) (build next states).2) := by
        apply Adds.add
        have old := doneInside.trans_le addsRound.grows
        have new := addsRound.inside
        cases greedy <;> simp [choice, State.FollowedBelow] <;> omega
      have larger := addsRound.grows.trans addsChoice.grows
      obtain ⟨addsRest, passesRest⟩ := ih (doneInside.trans_le larger) addsChoice.inside
      refine ⟨(addsRound.trans addsChoice).trans addsRest, fun whole shares rest passes => ?_⟩
      have sharesChoice := shares.before addsRest
      have round := passesRound whole (sharesChoice.before addsChoice)
      have here := SharesFrom.added sharesChoice addsRound.grows
      rw [Function.iterate_succ_apply]
      exact passesRest whole (shares.after larger) _
        (.choice here (round.trans passes) (.stay done))

/-- Optional copies pass at most so many rounds. -/
theorem optional (builds : Builds text build relation) (greedy : Bool) (count : Nat) :
    Builds text (fun next => buildOptional greedy build next count next) fun first last =>
      ∃ fewer ≤ count, Rounds relation fewer first last := by
  intro next states inside
  obtain ⟨adds, passes⟩ := builds.optional_from greedy count inside inside
  refine ⟨adds, fun whole shares => ?_⟩
  exact (passes whole shares _ (.stay next)).congr fun _ _ => iterate_atMost_iff

/-- A loop is a choice between a round that leads back to it and the end. -/
theorem loop (builds : Builds text build relation) (greedy : Bool) {next : Nat}
    {states : Array State} (inside : next < states.size) {round loop : Nat} {built : Array State}
    (made : buildLoop greedy build next states = (round, loop, built)) :
    Adds states (round, built) ∧ Adds states (loop, built) ∧
      ∀ whole, SharesFrom states.size built whole →
        Passes whole text relation round loop ∧
          Passes whole text (fun first last => ∃ count, Rounds relation count first last) loop
            next := by
  obtain ⟨adds, passes⟩ := builds states.size (states.push .accept) (by simp)
  obtain ⟨rfl, rfl, rfl⟩ : (build states.size (states.push .accept)).1 = round ∧
      states.size = loop ∧
      (build states.size (states.push .accept)).2.setIfInBounds states.size
        (choice greedy (build states.size (states.push .accept)).1 next) = built := by
    simpa [buildLoop] using made
  generalize build states.size (states.push .accept) = body at adds passes
  have grows : states.size < body.2.size := by
    have more := adds.grows
    rw [Array.size_push] at more
    omega
  have here : (body.2.setIfInBounds states.size (choice greedy body.1 next))[states.size]? =
      some (choice greedy body.1 next) := by simp [grows]
  have others (index : Nat) (other : states.size ≠ index) :
      (body.2.setIfInBounds states.size (choice greedy body.1 next))[index]? = body.2[index]? :=
    Array.getElem?_setIfInBounds_ne other
  have loopAdds : Adds states (states.size, body.2.setIfInBounds states.size
      (choice greedy body.1 next)) := by
    refine ⟨by simpa using Nat.le_of_lt grows, ?_, by simpa using grows, ?_⟩
    · intro index low
      rw [others index (Nat.ne_of_gt low), adds.keeps index (by simp; omega)]
      simp [Array.getElem?_push, Nat.ne_of_lt low]
    · intro index state low found
      rw [Array.size_setIfInBounds]
      by_cases same : states.size = index
      · subst same
        obtain rfl := Option.some.inj (here.symm.trans found)
        have round := adds.inside
        cases greedy <;> simp [choice, State.FollowedBelow] <;> omega
      · rw [others index same] at found
        exact adds.follow index state (by simp; omega) found
  refine ⟨⟨loopAdds.grows, loopAdds.keeps, by simpa using adds.inside, loopAdds.follow⟩, loopAdds,
    fun whole shares => ?_⟩
  have bodyShares : SharesFrom (states.push .accept).size body.2 whole := by
    intro index low high
    rw [Array.size_push] at low
    rw [shares index (by omega) (by simpa using high), others index (by omega)]
  have round := passes whole bodyShares
  have loopHere : whole[states.size]? = some (choice greedy body.1 next) :=
    (shares states.size (Nat.le_refl _) (by simpa using grows)).trans here
  exact ⟨round, .loop loopHere round⟩

/-- Without an upper bound the rounds are at least so many. -/
theorem rounds_unbounded_iff {relation : Nat → Nat → Prop} {low first last : Nat} :
    (∃ count, WithinRounds low none count ∧ Rounds relation count first last) ↔
      ∃ count, low ≤ count ∧ Rounds relation count first last := by
  simp [WithinRounds]

/-- What is built for rounds passes them. -/
theorem rounds (builds : Builds text build relation) (mayBeEmpty : Bool) (low : Nat)
    (high : Option Nat) (greedy : Bool) :
    Builds text (buildRounds mayBeEmpty low high greedy build) fun first last =>
      ∃ count, WithinRounds low high count ∧ Rounds relation count first last := by
  cases high with
  | some high =>
      refine ((builds.copies low).before (builds.optional greedy (high - low))).congr
        fun first last => ?_
      constructor
      · rintro ⟨middle, required, fewer, bound, more⟩
        refine ⟨low + fewer, ⟨Nat.le_add_right _ _, ?_⟩, Rounds.append required more⟩
        intro _ same
        obtain rfl := Option.some.inj same
        omega
      · rintro ⟨count, ⟨least, most⟩, through⟩
        obtain ⟨extra, rfl⟩ := Nat.exists_eq_add_of_le least
        obtain ⟨middle, required, more⟩ := Rounds.split through
        have bound := most high rfl
        exact ⟨middle, required, extra, by omega, more⟩
  | none =>
      intro next states inside
      rcases made : buildLoop greedy build next states with ⟨round, loop, built⟩
      obtain ⟨roundAdds, loopAdds, passes⟩ := builds.loop greedy inside made
      rw [buildRounds, made]
      dsimp only
      split
      · rename_i zero
        subst zero
        split
        · have adds : Adds built (add (choice greedy round next) built) := by
            apply Adds.add
            have old : next < built.size := inside.trans_le loopAdds.grows
            have new : round < built.size := roundAdds.inside
            cases greedy <;> simp [choice, State.FollowedBelow] <;> omega
          refine ⟨roundAdds.trans adds, fun whole shares => ?_⟩
          obtain ⟨body, star⟩ := passes whole (shares.before adds)
          have here := shares.added roundAdds.grows
          refine (Passes.choice here (body.trans star) (.stay next)).congr fun first last => ?_
          rw [rounds_unbounded_iff]
          constructor
          · rintro (⟨middle, step, count, through⟩ | rfl)
            · exact ⟨count + 1, Nat.zero_le _, middle, step, through⟩
            · exact ⟨0, Nat.le_refl _, rfl⟩
          · rintro ⟨count, -, through⟩
            cases count with
            | zero => exact .inr through
            | succ count =>
                obtain ⟨middle, step, rest⟩ := through
                exact .inl ⟨middle, step, count, rest⟩
        · refine ⟨loopAdds, fun whole shares => ?_⟩
          refine (passes whole shares).2.congr fun first last => ?_
          simp [rounds_unbounded_iff]
      · rename_i positive
        obtain ⟨least, rfl⟩ := Nat.exists_eq_succ_of_ne_zero positive
        obtain ⟨adds, copies⟩ := builds.copies least round built roundAdds.inside
        refine ⟨roundAdds.trans adds, fun whole shares => ?_⟩
        obtain ⟨body, star⟩ := passes whole (shares.before adds)
        have required := copies whole (shares.after roundAdds.grows)
        refine (required.trans (body.trans star)).congr fun first last => ?_
        rw [rounds_unbounded_iff]
        constructor
        · rintro ⟨middle, before, between, step, count, after⟩
          refine ⟨least + (count + 1), by omega, ?_⟩
          exact Rounds.append before ⟨between, step, after⟩
        · rintro ⟨count, bound, through⟩
          obtain ⟨extra, rfl⟩ := Nat.exists_eq_add_of_le bound
          rw [Nat.succ_eq_add_one, Nat.add_assoc, Nat.add_comm 1 extra] at through
          obtain ⟨middle, before, between, step, after⟩ := Rounds.split through
          exact ⟨middle, before, between, step, extra, after⟩

/-- What is built for a row passes it. -/
theorem all {items : List Regex}
    (builds : ∀ item ∈ items, Builds text (Automaton.build item) (Matches text item)) :
    Builds text (buildAll items) (MatchesRow text items) := by
  induction items with
  | nil => exact nothing
  | cons item rest ih =>
      rw [List.forall_mem_cons] at builds
      exact builds.1.before (ih builds.2)

/-- Of several, each is built for the same state, with choices between them. -/
theorem any {items : List Regex}
    (builds : ∀ item ∈ items, Builds text (Automaton.build item) (Matches text item)) :
    Builds text (buildAny items) (MatchesChoice text items) := by
  induction items with
  | nil =>
      have builds : Builds text (fun next states => add (.one .empty next) states)
          (Matches text (.one .empty)) :=
        .state (fun next size inside => inside) fun _ _ _ here => .one here
      refine builds.congr fun first last => ?_
      simp [Matches, MatchesChoice, CharSet.empty, CharSet.contains, CharSet.containsCode,
        Unicode.inRanges]
  | cons item rest ih =>
      rw [List.forall_mem_cons] at builds
      cases rest with
      | nil => exact builds.1.congr fun first last => by simp [MatchesChoice]
      | cons second others =>
          intro next states inside
          obtain ⟨laterAdds, later⟩ := ih builds.2 next states inside
          obtain ⟨firstAdds, first⟩ := builds.1 next (buildAny (second :: others) next states).2
            (inside.trans_le laterAdds.grows)
          have adds : Adds (build item next (buildAny (second :: others) next states).2).2
              (add (.split (build item next (buildAny (second :: others) next states).2).1
                (buildAny (second :: others) next states).1)
                (build item next (buildAny (second :: others) next states).2).2) := by
            apply Adds.add
            have old := laterAdds.inside.trans_le firstAdds.grows
            exact ⟨Nat.lt_succ_of_lt firstAdds.inside, Nat.lt_succ_of_lt old⟩
          refine ⟨(laterAdds.trans firstAdds).trans adds, fun whole shares => ?_⟩
          have sharesFirst := shares.before adds
          have here := SharesFrom.added shares (laterAdds.grows.trans firstAdds.grows)
          exact Passes.split here (first whole (sharesFirst.after laterAdds.grows))
            (later whole (sharesFirst.before firstAdds))

end Builds

/-- What is built from an expression leads from the start to the end of its matches. -/
theorem builds_matches (text : List Char) (regex : Regex) :
    Builds text (build regex) (Matches text regex) := by
  induction regex using induction with
  | empty => exact .nothing
  | one set => exact .state (fun next size inside => inside) fun _ _ _ here => .one here
  | look condition => exact .state (fun next size inside => inside) fun _ _ _ here => .look here
  | seq items ih => exact .all ih
  | alt items ih => exact .any ih
  | rounds body low high greedy ih => exact ih.rounds body.mayBeEmpty low high greedy
  | group index body ih =>
      have opens : Builds text (fun next states => add (.mark (2 * index) next) states)
          fun first last => first = last :=
        .state (fun next size inside => inside) fun _ _ _ here => .mark here
      have closes : Builds text (fun next states => add (.mark (2 * index + 1) next) states)
          fun first last => first = last :=
        .state (fun next size inside => inside) fun _ _ _ here => .mark here
      exact (opens.before (ih.before closes)).congr fun first last => by simp [Matches]

end Automaton

end TypedJson.Regex
