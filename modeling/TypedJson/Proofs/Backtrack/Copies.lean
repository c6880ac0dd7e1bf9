import TypedJson.Proofs.Backtrack.Machine
import TypedJson.Proofs.Backtrack.Relocation

/-
This file runs a copy of a program at later addresses, above states that were set aside before. The
copy goes through the same states, and leads to those below only after it has failed.
-/

namespace TypedJson.Backtrack

variable {program other : Program} {text : List Char}

/-! ### Steps of a search -/

/-- The states that are to be tried after a step; nothing if it ends the search with a match. -/
def Step.after : Step → List State → Option (List State)
  | accept, _ => none
  | fail, later => some later
  | goOn state, later => some (state :: later)
  | branch state other, later => some (state :: other :: later)
  | cut state count, later => some (state :: later.drop (later.length - count))
  | failSince address, later => some (dropSince address later)

namespace Program.Settles

/-- A search settles as it does after one step. -/
theorem of_after {state : State} {later next : List State} {answer : Bool}
    (after : (program.step text.toArray later.length state).after later = some next)
    (rest : Settles program text next answer) : Settles program text (state :: later) answer := by
  cases step : program.step text.toArray later.length state with
  | accept => rw [step] at after; cases after
  | fail => rw [step] at after; cases after; exact .fail step rest
  | goOn state => rw [step] at after; cases after; exact .goOn step rest
  | branch state other => rw [step] at after; cases after; exact .branch step rest
  | cut state count => rw [step] at after; cases after; exact .cut step rest
  | failSince address => rw [step] at after; cases after; exact .failSince step rest

/-- A search that settles has found a match in its next step, or settles after it. -/
theorem after_cases {state : State} {later : List State} {answer : Bool}
    (settles : Settles program text (state :: later) answer) :
    ((program.step text.toArray later.length state).after later = none ∧ answer = true) ∨
      ∃ next, (program.step text.toArray later.length state).after later = some next ∧
        Settles program text next answer := by
  cases settles with
  | accept here => exact .inl ⟨by rw [here]; rfl, rfl⟩
  | fail here rest => exact .inr ⟨_, by rw [here]; rfl, rest⟩
  | goOn here rest => exact .inr ⟨_, by rw [here]; rfl, rest⟩
  | branch here rest => exact .inr ⟨_, by rw [here]; rfl, rest⟩
  | cut here rest => exact .inr ⟨_, by rw [here]; rfl, rest⟩
  | failSince here rest => exact .inr ⟨_, by rw [here]; rfl, rest⟩

/-- A step that ends the search ends it with a match. -/
theorem of_after_none {state : State} {later : List State}
    (after : (program.step text.toArray later.length state).after later = none) :
    Settles program text (state :: later) true := by
  cases step : program.step text.toArray later.length state with
  | accept => exact .accept step
  | _ => rw [step] at after; cases after

/-- A search is followed step by step, whatever the steps are. -/
theorem steps {motive : List State → Bool → Prop} (exhausted : motive [] false)
    (accept : ∀ state later, (program.step text.toArray later.length state).after later = none →
      motive (state :: later) true)
    (goOn : ∀ state later next answer,
      (program.step text.toArray later.length state).after later = some next →
        Settles program text next answer → motive next answer → motive (state :: later) answer)
    {states : List State} {answer : Bool} (settles : Settles program text states answer) :
    motive states answer := by
  induction settles with
  | exhausted => exact exhausted
  | accept here => exact accept _ _ (by rw [here]; rfl)
  | fail here rest ih => exact goOn _ _ _ _ (by rw [here]; rfl) rest ih
  | goOn here rest ih => exact goOn _ _ _ _ (by rw [here]; rfl) rest ih
  | branch here rest ih => exact goOn _ _ _ _ (by rw [here]; rfl) rest ih
  | cut here rest ih => exact goOn _ _ _ _ (by rw [here]; rfl) rest ih
  | failSince here rest ih => exact goOn _ _ _ _ (by rw [here]; rfl) rest ih

/-- A search has one answer. -/
theorem unique {states : List State} {answer answer' : Bool}
    (one : Settles program text states answer) (two : Settles program text states answer') :
    answer = answer' := by
  refine steps (motive := fun states answer => ∀ answer', Settles program text states answer' →
    answer = answer') ?_ ?_ ?_ one answer' two
  · intro answer' two
    cases two
    rfl
  · intro state later after answer' two
    obtain ⟨-, rfl⟩ | ⟨next, goesOn, -⟩ := two.after_cases
    · rfl
    · exact nomatch after.symm.trans goesOn
  · intro state later next answer after _ ih answer' two
    obtain ⟨ends, -⟩ | ⟨next', goesOn, rest⟩ := two.after_cases
    · exact nomatch after.symm.trans ends
    · obtain rfl := Option.some.inj (after.symm.trans goesOn)
      exact ih answer' rest

end Program.Settles

/-! ### Copies of a program -/

/-- The same state in a program in which all addresses are later, with more states set aside. -/
def State.relocate (further below : Nat) (state : State) : State :=
  { state with
    address := state.address + further
    atomics := state.atomics.map (· + below) }

def Step.relocate (further below : Nat) : Step → Step
  | accept => accept
  | fail => fail
  | goOn state => goOn (state.relocate further below)
  | branch state other => branch (state.relocate further below) (other.relocate further below)
  | cut state count => cut (state.relocate further below) (count + below)
  | failSince address => failSince (address + further)

section State

variable (further below : Nat) (state : State)

@[simp] theorem State.position_relocate :
    (state.relocate further below).position = state.position := rfl

@[simp] theorem State.slot_relocate (index : Nat) :
    (state.relocate further below).slot index = state.slot index := rfl

@[simp] theorem State.count_relocate (index : Nat) :
    (state.relocate further below).count index = state.count index := rfl

@[simp] theorem State.next_relocate :
    (state.relocate further below).next = state.next.relocate further below := by
  simp [State.next, State.relocate, Nat.add_right_comm]

@[simp] theorem State.nextFrom_relocate (position : Nat) :
    (state.relocate further below).nextFrom position =
      (state.nextFrom position).relocate further below := by
  simp [State.nextFrom, State.relocate, Nat.add_right_comm]

@[simp] theorem State.jumpTo_relocate (address : Nat) :
    (state.relocate further below).jumpTo (address + further) =
      (state.jumpTo address).relocate further below := rfl

@[simp] theorem State.keep_relocate (index value : Nat) :
    (state.relocate further below).keep index value =
      (state.keep index value).relocate further below := rfl

@[simp] theorem State.takeGroups_relocate (way : Regex.Way) (groups : List Nat) :
    (state.relocate further below).takeGroups way groups =
      (state.takeGroups way groups).relocate further below := rfl

end State

/-- The choice between another round and the end is the same in a copy. -/
theorem roundOrEnd_relocate (further below : Nat) (greedy : Bool) (round done : State) :
    roundOrEnd greedy (round.relocate further below) (done.relocate further below) =
      (roundOrEnd greedy round done).relocate further below := by
  cases greedy <;> rfl

/-- An instruction does the same wherever it stands and whatever is set aside before it. -/
theorem Instruction.step_relocate (text : Array Char) (pending further below : Nat) (state : State)
    (instruction : Instruction) :
    (instruction.relocate further).step text (pending + below) (state.relocate further below) =
      (instruction.step text pending state).relocate further below := by
  cases instruction with
  | finish => rfl
  | split first second => rfl
  | jump target => rfl
  | save slot =>
      simp only [relocate, step, State.position_relocate, State.keep_relocate, State.next_relocate]
      rfl
  | startCount slot =>
      simp only [relocate, step, State.keep_relocate, State.next_relocate]
      rfl
  | failLookAround =>
      simp only [relocate, step, Step.relocate, State.relocate, Nat.add_right_comm]
  | beginAtomic =>
      simp only [relocate, step, Step.relocate, State.relocate, State.next, List.map_cons,
        Nat.add_right_comm]
  | endAtomic =>
      cases atomics : state.atomics with
      | nil => simp [relocate, step, Step.relocate, State.relocate, atomics]
      | cons count rest =>
          simp [relocate, step, Step.relocate, State.relocate, State.next, atomics,
            Nat.add_right_comm]
  | anyChar lineFeed =>
      simp only [relocate, step, State.position_relocate, State.nextFrom_relocate]
      split
      · split <;> rfl
      · rfl
  | plain automaton groups =>
      simp only [relocate, step, State.position_relocate, State.takeGroups_relocate,
        State.nextFrom_relocate]
      split <;> rfl
  | restore slot =>
      simp only [relocate, step, State.slot_relocate, State.nextFrom_relocate]
      split <;> rfl
  | countRound low high next slot greedy =>
      simp only [relocate, step, State.count_relocate, State.keep_relocate, State.next_relocate,
        State.jumpTo_relocate, roundOrEnd_relocate]
      split
      · rfl
      · split <;> rfl
  | movingRound low next slot start greedy =>
      simp only [relocate, step, State.count_relocate, State.slot_relocate, State.position_relocate,
        State.keep_relocate, State.next_relocate, State.jumpTo_relocate, roundOrEnd_relocate]
      split
      · rfl
      · split <;> rfl
  | reference slot =>
      simp only [relocate, step, State.slot_relocate, State.position_relocate,
        State.nextFrom_relocate]
      split
      · split <;> rfl
      · rfl
  | _ =>
      simp only [relocate, step, State.slot_relocate, State.position_relocate, State.next_relocate,
        State.nextFrom_relocate]
      split <;> rfl

/-- All of a program stands in another one, at later addresses and up to its end. -/
def Program.IsEnd (program other : Program) (further : Nat) : Prop :=
  ∀ address, other.code[address + further]? =
    (program.code[address]?).map (Instruction.relocate further)

/-- Instructions of the copy do what those of the original do, at later addresses. -/
theorem Program.IsEnd.step {further : Nat} (ends : program.IsEnd other further) (text : Array Char)
    (pending below : Nat) (state : State) :
    other.step text (pending + below) (state.relocate further below) =
      (program.step text pending state).relocate further below := by
  have here : other.code[(state.relocate further below).address]? =
      (program.code[state.address]?).map (Instruction.relocate further) := ends state.address
  unfold Program.step
  rw [here]
  cases program.code[state.address]? with
  | none => rfl
  | some instruction => exact instruction.step_relocate text pending further below state

/-- What is left of the states set aside is their end. -/
theorem dropSince_suffix (address : Nat) (states : List State) :
    dropSince address states <:+ states := by
  induction states with
  | nil => exact List.suffix_refl []
  | cons state rest ih =>
      rw [dropSince]
      split
      · exact List.suffix_cons state rest
      · exact ih.trans (List.suffix_cons state rest)

/-- The states of a search in a copy of its program, above others that were set aside before. -/
def copies (further : Nat) (bottom states : List State) : List State :=
  states.map (State.relocate further bottom.length) ++ bottom

section Copies

variable (further : Nat) (bottom : List State)

/-- Of no states nothing but the bottom is there. -/
theorem copies_nil : copies further bottom [] = bottom := rfl

/-- States are copied one by one. -/
theorem copies_cons (state : State) (states : List State) :
    copies further bottom (state :: states) =
      state.relocate further bottom.length :: copies further bottom states := rfl

/-- There are as many copies as states, above the bottom. -/
theorem length_copies (states : List State) :
    (copies further bottom states).length = states.length + bottom.length := by
  rw [copies, List.length_append, List.length_map]

/-- If no state at the address was set aside, those below are looked through as well. -/
theorem dropSince_copies (address : Nat) (later : List State) :
    dropSince (address + further) (copies further bottom later) =
        copies further bottom (dropSince address later) ∨
      dropSince address later = [] ∧
        dropSince (address + further) (copies further bottom later) <:+ bottom := by
  induction later with
  | nil => exact .inr ⟨rfl, dropSince_suffix _ bottom⟩
  | cons state later ih =>
      have same : (state.relocate further bottom.length).address = address + further ↔
          state.address = address := by
        simp [State.relocate]
      simp only [copies_cons, dropSince, same]
      split
      · exact .inl rfl
      · exact ih

/-- A step leads to the same states in a copy, above those that were set aside before. -/
theorem Step.after_relocate (step : Step) (later : List State) :
    (step.relocate further bottom.length).after (copies further bottom later) =
        (step.after later).map (copies further bottom) ∨
      step.after later = some [] ∧ ∃ fewer, fewer <:+ bottom ∧
        (step.relocate further bottom.length).after (copies further bottom later) = some fewer := by
  cases step with
  | cut state count =>
      have fewer : (copies further bottom later).length - (count + bottom.length) =
          later.length - count := by
        rw [length_copies]
        omega
      have dropped : (copies further bottom later).drop (later.length - count) =
          copies further bottom (later.drop (later.length - count)) := by
        rw [copies, copies, List.drop_append_of_le_length (by simp), List.map_drop]
      refine .inl ?_
      simp only [relocate, after, fewer, dropped, Option.map_some, copies_cons]
  | failSince address =>
      obtain same | ⟨none, suffix⟩ := dropSince_copies further bottom address later
      · exact .inl (congrArg some same)
      · exact .inr ⟨congrArg some none, _, suffix, rfl⟩
  | _ => exact .inl rfl

end Copies

/-- States with which a search, or with the last of them, finds nothing. -/
def Program.Hopeless (program : Program) (text : List Char) (states : List State) : Prop :=
  ∀ fewer answer, fewer <:+ states → Settles program text fewer answer → answer = false

namespace Program.Settles

variable {further : Nat} {states bottom : List State} {answer : Bool}

/-- Above states with which it finds nothing, a copy answers as the program itself. -/
theorem of_copy (ends : program.IsEnd other further) (hopeless : other.Hopeless text bottom)
    (settles : Settles other text (copies further bottom states) answer) :
    Settles program text states answer := by
  have none {answer : Bool} (settles : Settles other text bottom answer) :
      Settles program text [] answer := by
    rw [hopeless bottom answer (List.suffix_refl bottom) settles]
    exact .exhausted
  refine steps (motive := fun whole answer => ∀ states, whole = copies further bottom states →
    Settles program text states answer) ?_ ?_ ?_ settles states rfl
  · intro states same
    match states with
    | [] => exact .exhausted
    | first :: states => exact nomatch same
  · intro state later after states same
    match states with
    | [] =>
        rw [copies_nil] at same
        exact none (same ▸ of_after_none after)
    | first :: states =>
        rw [copies_cons] at same
        obtain ⟨rfl, rfl⟩ := List.cons.inj same
        rw [length_copies, ends.step] at after
        obtain copied | ⟨-, fewer, -, copied⟩ := Step.after_relocate further bottom
          (program.step text.toArray states.length first) states
        · exact of_after_none (Option.map_eq_none_iff.mp (copied.symm.trans after))
        · exact nomatch copied.symm.trans after
  · intro state later next answer after rest ih states same
    match states with
    | [] =>
        rw [copies_nil] at same
        exact none (same ▸ of_after after rest)
    | first :: states =>
        rw [copies_cons] at same
        obtain ⟨rfl, rfl⟩ := List.cons.inj same
        rw [length_copies, ends.step] at after
        obtain copied | ⟨empty, fewer, suffix, copied⟩ := Step.after_relocate further bottom
          (program.step text.toArray states.length first) states
        · obtain ⟨original, here, rfl⟩ := Option.map_eq_some_iff.mp (copied.symm.trans after)
          exact of_after here (ih original rfl)
        · obtain rfl := Option.some.inj (copied.symm.trans after)
          rw [hopeless fewer answer suffix rest]
          exact of_after empty .exhausted

/-- What a program finds, a copy finds above any states. -/
theorem copy (ends : program.IsEnd other further) (bottom : List State)
    (settles : Settles program text states true) :
    Settles other text (copies further bottom states) true := by
  refine steps (motive := fun states answer => answer = true →
    Settles other text (copies further bottom states) true) ?_ ?_ ?_ settles rfl
  · intro absurd
    cases absurd
  · intro state later after _
    obtain copied | ⟨empty, -⟩ := Step.after_relocate further bottom
      (program.step text.toArray later.length state) later
    · rw [copies_cons]
      apply of_after_none
      rw [length_copies, ends.step, copied, after]
      rfl
    · exact nomatch after.symm.trans empty
  · intro state later next answer after rest ih found
    obtain copied | ⟨empty, -⟩ := Step.after_relocate further bottom
      (program.step text.toArray later.length state) later
    · rw [copies_cons]
      refine of_after ?_ (ih found)
      rw [length_copies, ends.step, copied, after]
      rfl
    · obtain rfl := Option.some.inj (after.symm.trans empty)
      cases rest
      cases found

end Program.Settles

end TypedJson.Backtrack
