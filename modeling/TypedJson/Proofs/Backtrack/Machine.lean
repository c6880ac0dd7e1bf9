import TypedJson.Backtrack.Machine
import TypedJson.Proofs.Regex.Search

namespace TypedJson.Backtrack

namespace Program

variable {program : Program} {text : List Char}

/-- The answer of a search that goes on from some states, the first one now and the others later. -/
inductive Settles (program : Program) (text : List Char) : List State → Bool → Prop
  | exhausted : Settles program text [] false
  | accept {state : State} {later : List State}
      (here : program.step text.toArray later.length state = .accept) :
      Settles program text (state :: later) true
  | fail {state : State} {later : List State} {answer : Bool}
      (here : program.step text.toArray later.length state = .fail)
      (rest : Settles program text later answer) : Settles program text (state :: later) answer
  | goOn {state next : State} {later : List State} {answer : Bool}
      (here : program.step text.toArray later.length state = .goOn next)
      (rest : Settles program text (next :: later) answer) :
      Settles program text (state :: later) answer
  | branch {state next other : State} {later : List State} {answer : Bool}
      (here : program.step text.toArray later.length state = .branch next other)
      (rest : Settles program text (next :: other :: later) answer) :
      Settles program text (state :: later) answer
  | cut {state next : State} {count : Nat} {later : List State} {answer : Bool}
      (here : program.step text.toArray later.length state = .cut next count)
      (rest : Settles program text (next :: later.drop (later.length - count)) answer) :
      Settles program text (state :: later) answer
  | failSince {state : State} {address : Nat} {later : List State} {answer : Bool}
      (here : program.step text.toArray later.length state = .failSince address)
      (rest : Settles program text (dropSince address later) answer) :
      Settles program text (state :: later) answer

/-- After a failure the search goes on with the states that are left, if it may fail once more. -/
theorem settles_of_retry {limit steps failures : Nat} {states : List State} {answer : Bool}
    (runs : ∀ {failures later state},
      program.run text.toArray limit steps failures later.length later state = some answer →
        Settles program text (state :: later) answer)
    (given : (match states, failures with
      | [], _ => some false
      | state :: later, failures + 1 =>
        program.run text.toArray limit steps failures (states.length - 1) later state
      | _, _ => none) = some answer) : Settles program text states answer := by
  split at given
  · obtain rfl := Option.some.inj given
    exact .exhausted
  · exact runs given
  · simp at given

/-- A search that is not given up answers as the search without limits does. -/
theorem settles_of_run {limit steps failures : Nat} {later : List State} {state : State}
    {answer : Bool} :
    program.run text.toArray limit steps failures later.length later state = some answer →
      Settles program text (state :: later) answer := by
  induction steps generalizing failures later state with
  | zero => simp [run]
  | succ steps ih =>
      intro result
      rw [run] at result
      split at result
      · rename_i here
        obtain rfl := Option.some.inj result
        exact .accept here
      · rename_i here
        exact .fail here (settles_of_retry ih result)
      · rename_i next here
        exact .goOn here (ih result)
      · rename_i next other here
        split at result
        · exact .branch here (ih result)
        · simp at result
      · rename_i next count here
        have size : (later.drop (later.length - count)).length = min count later.length := by
          simp
          omega
        rw [← size] at result
        exact .cut here (ih result)
      · rename_i address here
        exact .failSince here (settles_of_retry ih result)

namespace Settles

variable {state next other : State} {later : List State} {answer : Bool}

/-- A search that reaches its end has found a match. -/
theorem of_accept (here : ∀ pending, program.step text.toArray pending state = .accept)
    (settles : Settles program text (state :: later) answer) : answer = true := by
  cases settles with
  | accept => rfl
  | _ => simp_all

/-- After a failure the search goes on with what was set aside. -/
theorem of_fail (here : ∀ pending, program.step text.toArray pending state = .fail)
    (settles : Settles program text (state :: later) answer) :
    Settles program text later answer := by
  cases settles with
  | fail here rest => exact rest
  | _ => simp_all

/-- After a plain step the search goes on with the next state. -/
theorem of_goOn (here : ∀ pending, program.step text.toArray pending state = .goOn next)
    (settles : Settles program text (state :: later) answer) :
    Settles program text (next :: later) answer := by
  cases settles with
  | goOn here' rest =>
      obtain rfl := Step.goOn.inj ((here _).symm.trans here')
      exact rest
  | _ => simp_all

/-- After a branch the search goes on with one state, and the other is set aside. -/
theorem of_branch (here : ∀ pending, program.step text.toArray pending state = .branch next other)
    (settles : Settles program text (state :: later) answer) :
    Settles program text (next :: other :: later) answer := by
  cases settles with
  | branch here' rest =>
      obtain ⟨rfl, rfl⟩ := Step.branch.inj ((here _).symm.trans here')
      exact rest
  | _ => simp_all

/-- A failure of a look-around drops what was set aside since its start. -/
theorem of_failSince {address : Nat}
    (here : ∀ pending, program.step text.toArray pending state = .failSince address)
    (settles : Settles program text (state :: later) answer) :
    Settles program text (dropSince address later) answer := by
  cases settles with
  | failSince here' rest =>
      obtain rfl := Step.failSince.inj ((here _).symm.trans here')
      exact rest
  | _ => simp_all

end Settles

/-- A state ends the search with a match, or leaves the search to the states set aside. -/
def Decides (program : Program) (text : List Char) (accepted : Prop) (state : State) : Prop :=
  ∀ later answer, Settles program text (state :: later) answer →
    (accepted ∧ answer = true) ∨ (¬accepted ∧ Settles program text later answer)

namespace Decides

variable {accepted accepted' : Prop} {state next other : State}

/-- What decides the search may be said in other words. -/
theorem congr (decides : Decides program text accepted state) (same : accepted ↔ accepted') :
    Decides program text accepted' state := by rwa [← propext same]

/-- The end of the program decides for a match. -/
theorem accept (here : ∀ pending, program.step text.toArray pending state = .accept) :
    Decides program text True state :=
  fun _ _ settles => .inl ⟨trivial, settles.of_accept here⟩

/-- A failure decides against a match. -/
theorem fail (here : ∀ pending, program.step text.toArray pending state = .fail) :
    Decides program text False state :=
  fun _ _ settles => .inr ⟨id, settles.of_fail here⟩

/-- A state decides as the one that it goes on with. -/
theorem goOn (here : ∀ pending, program.step text.toArray pending state = .goOn next)
    (decides : Decides program text accepted next) : Decides program text accepted state :=
  fun later answer settles => decides later answer (settles.of_goOn here)

/-- A branch decides for a match if one of both states does. -/
theorem branch (here : ∀ pending, program.step text.toArray pending state = .branch next other)
    (one : Decides program text accepted next) (two : Decides program text accepted' other) :
    Decides program text (accepted ∨ accepted') state := by
  intro later answer settles
  obtain ⟨yes, rfl⟩ | ⟨no, rest⟩ := one _ answer (settles.of_branch here)
  · exact .inl ⟨.inl yes, rfl⟩
  · obtain ⟨yes, rfl⟩ | ⟨no', rest⟩ := two _ answer rest
    · exact .inl ⟨.inr yes, rfl⟩
    · exact .inr ⟨not_or.mpr ⟨no, no'⟩, rest⟩

/-- A round now or later, as a repetition prefers it. -/
theorem roundOrEnd {greedy : Bool} {round done : State}
    (here : ∀ pending, program.step text.toArray pending state = roundOrEnd greedy round done)
    (one : Decides program text accepted round) (two : Decides program text accepted' done) :
    Decides program text (accepted ∨ accepted') state := by
  cases greedy with
  | true => exact branch here one two
  | false => exact (branch here two one).congr or_comm

end Decides

end Program

end TypedJson.Backtrack
