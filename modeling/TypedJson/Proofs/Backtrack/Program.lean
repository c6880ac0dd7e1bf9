import TypedJson.Proofs.Backtrack.Plain

namespace TypedJson.Backtrack

open Expression (Regular)
open Program (Decides Holds)
open TypedJson.Regex (Rounds WithinRounds Forward)

/--
Running from one address to another makes the moves of a relation. Slots from the base up to the
first free one keep what they hold.
-/
def Runs (program : Program) (text : List Char) (base slots start stop : Nat)
    (relation : Nat → Nat → Prop) : Prop :=
  ∀ (state : State) (accepted : Nat → Prop), state.address = start →
    state.position ≤ text.length → state.slots.size = program.slots →
    (∀ next : State, next.address = stop → next.position ≤ text.length →
      relation state.position next.position → Agrees base slots state next →
      Decides program text (accepted next.position) next) →
    Decides program text (∃ last, relation state.position last ∧ accepted last) state

namespace Runs

variable {program : Program} {text : List Char} {base slots start middle stop : Nat}
  {relation relation' : Nat → Nat → Prop}

/-- What instructions run through may be said in other words. -/
theorem congr (runs : Runs program text base slots start stop relation)
    (same : ∀ first last, relation first last ↔ relation' first last) :
    Runs program text base slots start stop relation' := by
  obtain rfl : relation = relation' := funext fun first => funext fun last =>
    propext (same first last)
  exact runs

theorem nothing : Runs program text base slots start start fun first last => first = last := by
  intro state accepted here inside size decides
  refine (decides state here inside rfl (.refl _ _ _)).congr ?_
  simp

theorem trans {slots' : Nat} (one : Runs program text base slots start middle relation)
    (two : Runs program text base slots' middle stop relation') (further : slots ≤ slots') :
    Runs program text base slots start stop fun first last =>
      ∃ between, relation first between ∧ relation' between last := by
  intro state accepted here inside size decides
  have both := one state (fun between => ∃ last, relation' between last ∧ accepted last) here
    inside size fun next there nextInside step agrees =>
      two next accepted there nextInside (agrees.size.trans size)
        fun last end' lastInside step' agrees' =>
          decides last end' lastInside ⟨next.position, step, step'⟩
            (agrees.trans (agrees'.mono further))
  refine both.congr ?_
  constructor
  · rintro ⟨between, step, last, step', yes⟩
    exact ⟨last, ⟨between, step, step'⟩, yes⟩
  · rintro ⟨last, ⟨between, step, step'⟩, yes⟩
    exact ⟨between, step, last, step', yes⟩

theorem mono {lower : Nat} (runs : Runs program text base slots start stop relation)
    (less : lower ≤ slots) : Runs program text base lower start stop relation :=
  fun state accepted here inside size decides =>
    runs state accepted here inside size fun next there nextInside moves agrees =>
      decides next there nextInside moves (agrees.mono less)

/-- A run of one step that moves to the only place where the relation leads, or fails. -/
theorem single (forward : Forward text.length relation)
    (unique : ∀ first last last', relation first last → relation first last' → last = last')
    (step : ∀ state : State, state.address = start → state.position ≤ text.length →
      state.slots.size = program.slots →
      (∃ next : State, (∀ pending, program.step text.toArray pending state = .goOn next) ∧
          next.address = stop ∧ relation state.position next.position ∧
          Agrees base slots state next) ∨
        ((∀ pending, program.step text.toArray pending state = .fail) ∧
          ∀ last, ¬relation state.position last)) :
    Runs program text base slots start stop relation := by
  intro state accepted here inside size decides
  obtain ⟨next, goes, there, moves, agrees⟩ | ⟨fails, none⟩ := step state here inside size
  · have nextInside := (forward _ _ moves).2 inside
    refine .goOn goes ((decides next there nextInside moves agrees).congr ?_)
    constructor
    · intro yes
      exact ⟨next.position, moves, yes⟩
    · rintro ⟨last, moves', yes⟩
      rwa [unique _ _ _ moves moves']
  · refine (Decides.fail fails).congr ?_
    simp [none]

/-- A run of items of constant size without backtracking. -/
theorem plain {groups : Nat} {items : List Expression}
    (regular : ∀ item ∈ items, Regular groups item)
    (const : ∀ item ∈ items, item.isConstSize = true) {code : List Instruction}
    (made : Expression.plainRun? items = some code) (holds : program.Holds start code) :
    Runs program text (2 * (groups + 1)) slots start (start + code.length)
      (Expression.MatchesRow text items) := by
  cases items with
  | nil =>
      obtain rfl := Option.some.inj made
      exact nothing
  | cons item rest =>
      have row : Regular groups (.concat (item :: rest)) := .concat regular
      have rowConst : (Expression.concat (item :: rest)).isConstSize = true :=
        Expression.allConstSize_iff.mpr const
      have size {first last : Nat} (found : Expression.MatchesRow text (item :: rest) first last) :=
        Expression.eq_minSize row rowConst found
      refine single (Expression.forward_matches row)
        (fun first last last' found found' => by rw [size found, size found']) ?_
      rintro state rfl inside -
      obtain ⟨one, ⟨next, goes, there, moves, agrees⟩ | fails⟩ :=
        Expression.step_plainRun regular (by simp) made holds inside
      · rw [one]
        exact .inl ⟨next, goes, there, moves, agrees slots⟩
      · exact .inr fails

variable {code : List Instruction}

/-- A jump leads to its target at the same place. -/
theorem jump {target : Nat} (holds : program.Holds start (.jump target :: code)) :
    Runs program text base slots start target fun first last => first = last := by
  rintro state accepted rfl inside size decides
  have step (pending : Nat) := program.step_of_holds holds text.toArray pending
  have next := decides (state.jumpTo target) rfl inside rfl ⟨rfl, fun _ _ _ => rfl⟩
  exact (Decides.goOn step next).congr (by simp [State.jumpTo])

/-- Keeping a place in a slot of its own moves nowhere. -/
theorem save {slot : Nat} (holds : program.Holds start (.save slot :: code))
    (outside : slot < base ∨ slots ≤ slot) :
    Runs program text base slots start (start + 1) fun first last => first = last := by
  rintro state accepted rfl inside size decides
  have step (pending : Nat) := program.step_of_holds holds text.toArray pending
  have kept : Agrees base slots state (state.keep slot state.position) := .keep outside
  have next := decides (state.keep slot state.position).next rfl inside rfl ⟨kept.size, kept.same⟩
  exact (Decides.goOn step next).congr (by simp [State.keep, State.next])

/-- A split decides for a match if one of both ways does, whichever is tried first. -/
theorem split_decides {greedy : Bool} {one other : Nat} {state : State} {accepted accepted' : Prop}
    (holds : program.Holds state.address
      ((if greedy then .split one other else .split other one) :: code))
    (first : Decides program text accepted (state.jumpTo one))
    (second : Decides program text accepted' (state.jumpTo other)) :
    Decides program text (accepted ∨ accepted') state := by
  have step (pending : Nat) := program.step_of_holds holds text.toArray pending
  cases greedy with
  | true => exact .branch step first second
  | false => exact (Decides.branch step second first).congr or_comm

/-- A choice runs through either of two ways, whichever is preferred. -/
theorem choice {greedy : Bool} {one other : Nat}
    (holds : program.Holds start
      ((if greedy then .split one other else .split other one) :: code))
    (first : Runs program text base slots one stop relation)
    (second : Runs program text base slots other stop relation') :
    Runs program text base slots start stop fun first last =>
      relation first last ∨ relation' first last := by
  rintro state accepted rfl inside size decides
  have yes := first (state.jumpTo one) accepted rfl inside size
    fun next there nextInside moves agrees =>
      decides next there nextInside (.inl moves) ⟨agrees.size, agrees.same⟩
  have no := second (state.jumpTo other) accepted rfl inside size
    fun next there nextInside moves agrees =>
      decides next there nextInside (.inr moves) ⟨agrees.size, agrees.same⟩
  refine (split_decides holds yes no).congr ?_
  simp only [or_and_right, exists_or, State.jumpTo]

/-- A split runs through what one of both ways runs through. -/
theorem split {one other : Nat} (holds : program.Holds start (.split one other :: code))
    (first : Runs program text base slots one stop relation)
    (second : Runs program text base slots other stop relation') :
    Runs program text base slots start stop fun first last =>
      relation first last ∨ relation' first last := by
  have preferred : program.Holds start
      ((if (true : Bool) then .split one other else .split other one) :: code) := holds
  exact choice preferred first second

/-- A condition lets through where it holds. -/
theorem check {look : Regex.Look} (holds : program.Holds start (.check look :: code)) :
    Runs program text base slots start (start + 1) fun first last =>
      look.HoldsAt text first ∧ first = last := by
  refine single ?_ ?_ ?_
  · rintro first _ ⟨-, rfl⟩
    exact ⟨Nat.le_refl _, id⟩
  · rintro first _ _ ⟨-, rfl⟩ ⟨-, rfl⟩
    rfl
  · rintro state rfl inside size
    have step (pending : Nat) := program.step_of_holds holds text.toArray pending
    simp only [step, Instruction.step, List.getElem?_toArray]
    by_cases here : look.HoldsAt text state.position
    · exact .inl ⟨state.next, fun _ => if_pos here, rfl, ⟨here, rfl⟩, ⟨rfl, fun _ _ _ => rfl⟩⟩
    · exact .inr ⟨fun _ => if_neg here, fun last found => here found.1⟩

/-- A dot takes one character, if it may. -/
theorem anyChar {lineFeed : Bool} (holds : program.Holds start (.anyChar lineFeed :: code)) :
    Runs program text base slots start (start + 1) fun first last =>
      (∃ char, text[first]? = some char ∧ (lineFeed = true ∨ char ≠ '\n')) ∧ last = first + 1 := by
  refine single ?_ ?_ ?_
  · rintro first _ ⟨⟨char, here, -⟩, rfl⟩
    have inside := (List.getElem?_eq_some_iff.mp here).1
    exact ⟨Nat.le_succ first, fun _ => inside⟩
  · rintro first _ _ ⟨-, rfl⟩ ⟨-, rfl⟩
    rfl
  · rintro state rfl inside size
    have step (pending : Nat) := program.step_of_holds holds text.toArray pending
    simp only [step, Instruction.step, List.getElem?_toArray]
    cases found : text[state.position]? with
    | none => exact .inr ⟨fun _ => rfl, by simp⟩
    | some char =>
        by_cases allowed : (lineFeed || char != '\n') = true
        · refine .inl ⟨state.nextFrom (state.position + 1), fun _ => if_pos allowed, rfl,
            ⟨⟨char, rfl, ?_⟩, rfl⟩, ⟨rfl, fun _ _ _ => rfl⟩⟩
          simpa using allowed
        · refine .inr ⟨fun _ => if_neg allowed, ?_⟩
          rintro last ⟨⟨_, ⟨⟩, allowed'⟩, -⟩
          exact allowed (by simpa using allowed')

/-- A loop makes any number of rounds, each of which moves on in the text. -/
theorem star {greedy : Bool} {round : Nat}
    (holds : program.Holds start
      ((if greedy then .split round stop else .split stop round) :: code))
    (moves : ∀ first last, relation first last → first < last)
    (body : Runs program text base slots round start relation) :
    Runs program text base slots start stop fun first last =>
      ∃ count, Rounds relation count first last := by
  intro state accepted here inside size decides
  induction left : text.length - state.position using Nat.strong_induction_on
    generalizing state with
  | _ left ih =>
      subst here
      have again := body (state.jumpTo round)
        (fun middle => ∃ last, (∃ count, Rounds relation count middle last) ∧ accepted last)
        rfl inside size fun next there nextInside step agrees => by
          have further : state.position < next.position := moves _ _ step
          refine ih (text.length - next.position) (by omega) next there nextInside
            (agrees.size.trans size) (fun last end' lastInside through agrees' => ?_) rfl
          obtain ⟨count, through⟩ := through
          exact decides last end' lastInside ⟨count + 1, next.position, step, through⟩
            (Agrees.trans ⟨agrees.size, agrees.same⟩ agrees')
      have done := decides (state.jumpTo stop) rfl inside ⟨0, rfl⟩ ⟨rfl, fun _ _ _ => rfl⟩
      refine (split_decides holds again done).congr ?_
      constructor
      · rintro (⟨middle, step, last, ⟨count, through⟩, yes⟩ | yes)
        · exact ⟨last, ⟨count + 1, middle, step, through⟩, yes⟩
        · exact ⟨_, ⟨0, rfl⟩, yes⟩
      · rintro ⟨last, ⟨count, through⟩, yes⟩
        cases count with
        | zero =>
            obtain rfl := through
            exact .inr yes
        | succ count =>
            obtain ⟨middle, step, rest⟩ := through
            exact .inl ⟨middle, step, last, ⟨count, rest⟩, yes⟩

end Runs

/-- What was kept in a slot is there. -/
theorem State.slot_keep {state : State} {index value : Nat} (inside : index < state.slots.size) :
    (state.keep index value).slot index = some value := by
  simp [State.slot, State.keep, inside]

/-- Keeping a value leaves the other slots alone. -/
theorem State.slot_keep_ne {state : State} {index other value : Nat} (different : other ≠ index) :
    (state.keep other value).slot index = state.slot index := by
  simp [State.slot, State.keep, Array.getElem?_setIfInBounds_ne different]

/-- States that agree have the same in each slot between the bounds. -/
theorem Agrees.slot {base top index : Nat} {before after : State}
    (agrees : Agrees base top before after) (least : base ≤ index) (less : index < top) :
    after.slot index = before.slot index := by
  rw [State.slot, State.slot, agrees.same index least less]

/-- What is left of a repetition after some of its rounds. -/
def Remaining (low : Nat) (high : Option Nat) (relation : Nat → Nat → Prop) (count : Nat)
    (first last : Nat) : Prop :=
  ∃ more, low ≤ count + more ∧ (∀ bound, high = some bound → count + more ≤ bound) ∧
    Rounds relation more first last

/-- The rounds that remain are one more and those after it, or none if there were enough. -/
theorem remaining_iff {low : Nat} {high : Option Nat} {relation : Nat → Nat → Prop}
    {count first last : Nat} (within : ∀ bound, high = some bound → count ≤ bound) :
    Remaining low high relation count first last ↔
      (high ≠ some count ∧
          ∃ middle, relation first middle ∧ Remaining low high relation (count + 1) middle last) ∨
        (low ≤ count ∧ first = last) := by
  constructor
  · rintro ⟨more, least, most, through⟩
    cases more with
    | zero => exact .inr ⟨least, through⟩
    | succ more =>
        obtain ⟨middle, step, rest⟩ := through
        refine .inl ⟨fun same => ?_, middle, step, more, by omega, fun bound given => ?_, rest⟩
        · have bound := most count same
          omega
        · have bound := most bound given
          omega
  · rintro (⟨going, middle, step, more, least, most, rest⟩ | ⟨least, rfl⟩)
    · refine ⟨more + 1, by omega, fun bound given => ?_, middle, step, rest⟩
      have bound := most bound given
      omega
    · exact ⟨0, least, within, rfl⟩

/-- So it is for the places that the remaining rounds lead to. -/
theorem accepts_remaining_iff {low : Nat} {high : Option Nat} {relation : Nat → Nat → Prop}
    {count first : Nat} (within : ∀ bound, high = some bound → count ≤ bound)
    (accepted : Nat → Prop) :
    (∃ last, Remaining low high relation count first last ∧ accepted last) ↔
      (high ≠ some count ∧ ∃ middle, relation first middle ∧
          ∃ last, Remaining low high relation (count + 1) middle last ∧ accepted last) ∨
        (low ≤ count ∧ accepted first) := by
  simp only [remaining_iff within]
  constructor
  · rintro ⟨last, ⟨going, middle, step, rest⟩ | ⟨enough, rfl⟩, yes⟩
    · exact .inl ⟨going, middle, step, last, rest, yes⟩
    · exact .inr ⟨enough, yes⟩
  · rintro (⟨going, middle, step, last, rest, yes⟩ | ⟨enough, yes⟩)
    · exact ⟨last, .inl ⟨going, middle, step, rest⟩, yes⟩
    · exact ⟨first, .inr ⟨enough, rfl⟩, yes⟩

/-- Any number of rounds is none, or a first round that moves and any number after it. -/
theorem accepts_star_iff {round : Nat → Nat → Prop} {first : Nat} (accepted : Nat → Prop) :
    (∃ last, (∃ count, Rounds round count first last) ∧ accepted last) ↔
      (∃ middle, round first middle ∧ middle ≠ first ∧
          ∃ last, (∃ count, Rounds round count middle last) ∧ accepted last) ∨
        accepted first := by
  constructor
  · rintro ⟨last, ⟨count, through⟩, yes⟩
    induction count with
    | zero =>
        obtain rfl := through
        exact .inr yes
    | succ count ih =>
        obtain ⟨middle, step, rest⟩ := through
        by_cases stays : middle = first
        · subst stays
          exact ih rest
        · exact .inl ⟨middle, step, stays, last, ⟨count, rest⟩, yes⟩
  · rintro (⟨middle, step, -, last, ⟨count, rest⟩, yes⟩ | yes)
    · exact ⟨last, ⟨count + 1, middle, step, rest⟩, yes⟩
    · exact ⟨first, ⟨0, rfl⟩, yes⟩

/-- What bounds the number of rounds: the highest count, or else the rest of the text. -/
def roundsLeft (high : Option Nat) (count rest : Nat) : Nat :=
  match high with
  | some bound => bound - count
  | none => rest

namespace Runs

variable {program : Program} {text : List Char} {base slots stop : Nat}
  {relation : Nat → Nat → Prop} {code : List Instruction}

/-- A counted loop makes as many rounds as are left, by induction on what bounds their number. -/
theorem counted {low : Nat} {high : Option Nat} {greedy : Bool} {slot head : Nat}
    (holds : program.Holds head (.countRound low high stop slot greedy :: code))
    (ordered : ∀ bound, high = some bound → low ≤ bound)
    (moves : high = none → ∀ first last, relation first last → first < last)
    (least : base ≤ slot) (free : slots ≤ slot) (room : slot < program.slots)
    (body : Runs program text base (slot + 1) (head + 1) head relation) {state : State}
    {accepted : Nat → Prop} {count : Nat} (here : state.address = head)
    (inside : state.position ≤ text.length) (size : state.slots.size = program.slots)
    (counts : state.slot slot = some count)
    (within : ∀ bound, high = some bound → count ≤ bound)
    (decides : ∀ next : State, next.address = stop → next.position ≤ text.length →
      Remaining low high relation count state.position next.position →
      Agrees base slots state next → Decides program text (accepted next.position) next) :
    Decides program text
      (∃ last, Remaining low high relation count state.position last ∧ accepted last) state := by
  induction left : roundsLeft high count (text.length - state.position) using
    Nat.strong_induction_on generalizing state count with
  | _ left ih =>
      subst here
      have step (pending : Nat) := program.step_of_holds holds text.toArray pending
      have number : state.count slot = count := by simp [State.count, counts]
      by_cases full : high = some count
      · have stops (pending : Nat) :
            program.step text.toArray pending state = .goOn (state.jumpTo stop) := by
          rw [step, Instruction.step, number]
          exact if_pos full
        have done := decides (state.jumpTo stop) rfl inside
          ((remaining_iff within).mpr (.inr ⟨ordered count full, rfl⟩)) ⟨rfl, fun _ _ _ => rfl⟩
        refine (Decides.goOn stops done).congr ?_
        rw [accepts_remaining_iff within]
        simp [full, ordered count full, State.jumpTo]
      · have kept : Agrees base slots state (state.keep slot (count + 1)) := .keep (.inr free)
        have again := body (state.keep slot (count + 1)).next
          (fun middle => ∃ last, Remaining low high relation (count + 1) middle last ∧
            accepted last) rfl inside (kept.size.trans size)
          fun next there nextInside moved agrees => by
            have nextCounts : next.slot slot = some (count + 1) := by
              rw [agrees.slot least (Nat.lt_succ_self slot)]
              exact State.slot_keep (by omega)
            have nextWithin : ∀ bound, high = some bound → count + 1 ≤ bound := by
              intro bound given
              have below := within bound given
              have different : bound ≠ count := fun same => full (same ▸ given)
              omega
            have fewer : roundsLeft high (count + 1) (text.length - next.position) <
                roundsLeft high count (text.length - state.position) := by
              cases high with
              | some bound =>
                  have below := nextWithin bound rfl
                  simp only [roundsLeft]
                  omega
              | none =>
                  have further : state.position < next.position := moves rfl _ _ moved
                  simp only [roundsLeft]
                  omega
            refine ih _ (left ▸ fewer) there nextInside (agrees.size.trans (kept.size.trans size))
              nextCounts nextWithin (fun last end' lastInside rest agrees' => ?_) rfl
            refine decides last end' lastInside
              ((remaining_iff within).mpr (.inl ⟨full, next.position, moved, rest⟩)) ?_
            have onward : Agrees base slots state next :=
              kept.trans (Agrees.mono ⟨agrees.size, agrees.same⟩ (by omega))
            exact onward.trans agrees'
        by_cases enough : low ≤ count
        · have goes (pending : Nat) : program.step text.toArray pending state =
              roundOrEnd greedy (state.keep slot (count + 1)).next
                ((state.keep slot (count + 1)).jumpTo stop) := by
            rw [step, Instruction.step, number]
            simp only [if_neg full, if_pos enough]
          have done := decides ((state.keep slot (count + 1)).jumpTo stop) rfl inside
            ((remaining_iff within).mpr (.inr ⟨enough, rfl⟩)) ⟨kept.size, kept.same⟩
          refine (Decides.roundOrEnd goes again done).congr ?_
          rw [accepts_remaining_iff within]
          simp [full, enough, State.jumpTo, State.keep, State.next]
        · have goes (pending : Nat) : program.step text.toArray pending state =
              .goOn (state.keep slot (count + 1)).next := by
            rw [step, Instruction.step, number]
            simp only [if_neg full, if_neg enough]
          refine (Decides.goOn goes again).congr ?_
          rw [accepts_remaining_iff within]
          simp [full, enough, State.keep, State.next]

/-- After the required rounds, a loop goes on as long as its rounds move on in the text. -/
theorem moving {low : Nat} {greedy : Bool} {slot head : Nat}
    (holds : program.Holds head (.movingRound low stop slot (slot + 1) greedy :: code))
    (forward : Forward text.length relation) (least : base ≤ slot) (free : slots ≤ slot)
    (room : slot + 1 < program.slots)
    (body : Runs program text base (slot + 2) (head + 1) head relation) {state : State}
    {accepted : Nat → Prop} {count : Nat} (here : state.address = head)
    (inside : state.position ≤ text.length) (size : state.slots.size = program.slots)
    (counts : state.slot slot = some count) (enough : low ≤ count)
    (moved : low < count → state.slot (slot + 1) ≠ some state.position)
    (decides : ∀ next : State, next.address = stop → next.position ≤ text.length →
      (∃ more, Rounds relation more state.position next.position) →
      Agrees base slots state next → Decides program text (accepted next.position) next) :
    Decides program text
      (∃ last, (∃ more, Rounds relation more state.position last) ∧ accepted last) state := by
  induction left : text.length - state.position using Nat.strong_induction_on
    generalizing state count with
  | _ left ih =>
      subst here
      have step (pending : Nat) := program.step_of_holds holds text.toArray pending
      have number : state.count slot = count := by simp [State.count, counts]
      let round := (state.keep slot (count + 1)).keep (slot + 1) state.position
      have keptCount : Agrees base slots state (state.keep slot (count + 1)) := .keep (.inr free)
      have kept : Agrees base slots state round :=
        keptCount.trans (.keep (.inr (Nat.le_succ_of_le free)))
      have roundCounts : round.slot slot = some (count + 1) := by
        rw [State.slot_keep_ne (by omega), State.slot_keep (by omega)]
      have roundStarts : round.slot (slot + 1) = some state.position :=
        State.slot_keep (by rw [keptCount.size]; omega)
      have goes (pending : Nat) : program.step text.toArray pending state =
          roundOrEnd greedy round.next (round.jumpTo stop) := by
        rw [step, Instruction.step, number]
        simp only [if_neg fun both : low < count ∧ _ => moved both.1 both.2, if_pos enough]
        rfl
      have again := body round.next (fun middle => middle ≠ state.position ∧
          ∃ last, (∃ more, Rounds relation more middle last) ∧ accepted last) rfl inside
        (kept.size.trans size) fun next there nextInside moves agrees => by
          have nextCounts : next.slot slot = some (count + 1) :=
            (agrees.slot least (by omega)).trans roundCounts
          have nextStarts : next.slot (slot + 1) = some state.position :=
            (agrees.slot (by omega) (by omega)).trans roundStarts
          by_cases stays : next.position = state.position
          · have fails (pending : Nat) : program.step text.toArray pending next = .fail := by
              rw [program.step_of_holds (there ▸ holds), Instruction.step]
              have repeated : low < next.count slot ∧
                  next.slot (slot + 1) = some next.position := by
                simp only [State.count, nextCounts, nextStarts, stays, Option.getD_some]
                exact ⟨by omega, trivial⟩
              simp only [if_pos repeated]
            exact (Decides.fail fails).congr (by simp [stays])
          · have further : state.position ≤ next.position := (forward _ _ moves).1
            have onward := ih (text.length - next.position) (by omega) there nextInside
              (agrees.size.trans (kept.size.trans size)) nextCounts (by omega)
              (fun _ => by rw [nextStarts]; simpa using Ne.symm stays)
              (fun last end' lastInside rest agrees' => by
                obtain ⟨more, rest⟩ := rest
                refine decides last end' lastInside ⟨more + 1, next.position, moves, rest⟩ ?_
                have mid : Agrees base slots state next :=
                  kept.trans (Agrees.mono ⟨agrees.size, agrees.same⟩ (by omega))
                exact mid.trans agrees') rfl
            exact onward.congr (by simp [stays])
      have done := decides (round.jumpTo stop) rfl inside ⟨0, rfl⟩ ⟨kept.size, kept.same⟩
      refine (Decides.roundOrEnd goes again done).congr ?_
      rw [accepts_star_iff]
      rfl

/-- A loop whose rounds may be empty first makes the rounds that are required. -/
theorem required {low : Nat} {greedy : Bool} {slot head : Nat}
    (holds : program.Holds head (.movingRound low stop slot (slot + 1) greedy :: code))
    (forward : Forward text.length relation) (least : base ≤ slot) (free : slots ≤ slot)
    (room : slot + 1 < program.slots)
    (body : Runs program text base (slot + 2) (head + 1) head relation) {state : State}
    {accepted : Nat → Prop} {count : Nat} (here : state.address = head)
    (inside : state.position ≤ text.length) (size : state.slots.size = program.slots)
    (counts : state.slot slot = some count) (below : count ≤ low)
    (decides : ∀ next : State, next.address = stop → next.position ≤ text.length →
      Remaining low none relation count state.position next.position →
      Agrees base slots state next → Decides program text (accepted next.position) next) :
    Decides program text
      (∃ last, Remaining low none relation count state.position last ∧ accepted last) state := by
  induction left : low - count generalizing state count with
  | zero =>
      obtain rfl : count = low := by omega
      have all (first last : Nat) : Remaining count none relation count first last ↔
          ∃ more, Rounds relation more first last := by simp [Remaining]
      simp only [all] at decides ⊢
      exact moving holds forward least free room body here inside size counts (Nat.le_refl _)
        (fun less => absurd less (Nat.lt_irrefl _)) decides
  | succ left ih =>
      subst here
      have step (pending : Nat) := program.step_of_holds holds text.toArray pending
      have number : state.count slot = count := by simp [State.count, counts]
      have kept : Agrees base slots state (state.keep slot (count + 1)) := .keep (.inr free)
      have goes (pending : Nat) : program.step text.toArray pending state =
          .goOn (state.keep slot (count + 1)).next := by
        rw [step, Instruction.step, number]
        have early : ¬(low < count ∧ state.slot (slot + 1) = some state.position) := by omega
        have short : ¬low ≤ count := by omega
        simp only [if_neg early, if_neg short]
      have again := body (state.keep slot (count + 1)).next
        (fun middle => ∃ last, Remaining low none relation (count + 1) middle last ∧
          accepted last) rfl inside (kept.size.trans size)
        fun next there nextInside moves agrees => by
          have nextCounts : next.slot slot = some (count + 1) := by
            rw [agrees.slot least (by omega)]
            exact State.slot_keep (by omega)
          refine ih there nextInside (agrees.size.trans (kept.size.trans size)) nextCounts
            (by omega) (fun last end' lastInside rest agrees' => ?_) (by omega)
          refine decides last end' lastInside
            ((remaining_iff (by simp)).mpr (.inl ⟨by simp, next.position, moves, rest⟩)) ?_
          have mid : Agrees base slots state next :=
            kept.trans (Agrees.mono ⟨agrees.size, agrees.same⟩ (by omega))
          exact mid.trans agrees'
      refine (Decides.goOn goes again).congr ?_
      rw [accepts_remaining_iff (by simp)]
      have short : ¬low ≤ count := by omega
      simp [short, State.keep, State.next]

/-- Before the first round, the rounds that remain are all of them. -/
theorem remaining_zero_iff {low : Nat} {high : Option Nat}
    (ordered : ∀ bound, high = some bound → low ≤ bound) {first last : Nat} :
    Remaining low high relation 0 first last ↔
      ∃ count, WithinRounds low high count ∧ Rounds relation count first last := by
  unfold Remaining WithinRounds
  constructor
  · rintro ⟨more, least, most, through⟩
    refine ⟨more, ⟨by omega, fun bound given => ?_⟩, through⟩
    have limit := most bound given
    omega
  · rintro ⟨count, ⟨least, most⟩, through⟩
    refine ⟨count, by omega, fun bound given => ?_, through⟩
    have limit := most bound given
    have order := ordered bound given
    omega

/-- The start of a count leads to the head of the loop with the count at zero. -/
theorem startCount (base : Nat) {slot start : Nat}
    (holds : program.Holds start (.startCount slot :: code))
    (free : slots ≤ slot) (room : slot < program.slots) {state : State} {goal : Prop}
    (here : state.address = start) (size : state.slots.size = program.slots)
    (loop : ∀ head : State, head.address = start + 1 → head.position = state.position →
      head.slot slot = some 0 → Agrees base slots state head → Decides program text goal head) :
    Decides program text goal state := by
  subst here
  have step (pending : Nat) := program.step_of_holds holds text.toArray pending
  have kept : Agrees base slots state (state.keep slot 0) := .keep (.inr free)
  exact .goOn step (loop _ rfl rfl (State.slot_keep (by omega)) ⟨kept.size, kept.same⟩)

/-- A loop that counts its rounds runs through a count of rounds within the bounds. -/
theorem countedLoop {low : Nat} {high : Option Nat} {greedy : Bool} {start : Nat}
    (holds : program.Holds start
      (.startCount slots :: .countRound low high stop slots greedy :: code))
    (ordered : ∀ bound, high = some bound → low ≤ bound)
    (moves : high = none → ∀ first last, relation first last → first < last)
    (least : base ≤ slots) (room : slots < program.slots)
    (body : Runs program text base (slots + 1) (start + 2) (start + 1) relation) :
    Runs program text base slots start stop fun first last =>
      ∃ count, WithinRounds low high count ∧ Rounds relation count first last := by
  intro state accepted here inside size decides
  simp only [← remaining_zero_iff ordered] at decides ⊢
  refine startCount base holds (Nat.le_refl _) room here size fun head there same counts agrees => ?_
  rw [← same] at decides ⊢
  exact counted (Program.holds_cons.mp holds).2 ordered moves least (Nat.le_refl _) room body there
    (same ▸ inside) (agrees.size.trans size) counts (fun _ _ => Nat.zero_le _)
    fun next end' nextInside rest agrees' => decides next end' nextInside rest
      (agrees.trans agrees')

/-- A loop that refuses empty rounds runs through all counts of rounds, for those move nowhere. -/
theorem movingLoop {low : Nat} {greedy : Bool} {start : Nat}
    (holds : program.Holds start
      (.startCount slots :: .movingRound low stop slots (slots + 1) greedy :: code))
    (forward : Forward text.length relation) (least : base ≤ slots)
    (room : slots + 1 < program.slots)
    (body : Runs program text base (slots + 2) (start + 2) (start + 1) relation) :
    Runs program text base slots start stop fun first last =>
      ∃ count, WithinRounds low none count ∧ Rounds relation count first last := by
  intro state accepted here inside size decides
  have whole (first last : Nat) : Remaining low none relation 0 first last ↔
      ∃ count, WithinRounds low none count ∧ Rounds relation count first last :=
    remaining_zero_iff (by simp)
  simp only [← whole] at decides ⊢
  refine startCount base holds (Nat.le_refl _) (by omega) here size
    fun head there same counts agrees => ?_
  rw [← same] at decides ⊢
  exact required (Program.holds_cons.mp holds).2 forward least (Nat.le_refl _) room body there
    (same ▸ inside) (agrees.size.trans size) counts (Nat.zero_le _)
    fun next end' nextInside rest agrees' => decides next end' nextInside rest
      (agrees.trans agrees')

end Runs

end TypedJson.Backtrack
