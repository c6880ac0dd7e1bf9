import TypedJson.Proofs.Backtrack.Copies
import TypedJson.Proofs.Backtrack.Plain

namespace TypedJson.Backtrack

namespace Expression

/-- An expression behind a condition for the start of the text. -/
def tied (expression : Expression) : Expression := .concat [.condition .textStart, expression]

/-- Tying an expression to the start does not change whether it needs backtracking. -/
theorem isHard_tied (expression : Expression) : expression.tied.isHard = expression.isHard := by
  simp [tied, isHard, anyHard]

/-- As an ordinary expression it is the condition followed by the expression. -/
theorem plain?_tied (expression : Expression) :
    expression.tied.plain? = expression.plain?.map fun regex => .seq [.look .textStart, regex] := by
  simp only [tied, plain?, plainAll?]
  cases expression.plain? <;> rfl

/-- An expression is laid out alike at every address, but for the addresses it names. -/
theorem layout?_moved (expression : Expression) (further slots : Nat) :
    expression.layout? true further slots =
      (expression.layout? true 0 slots).map (Layout.relocate further) := by
  have laid := expression.relocates_layout further true 0 slots
  rwa [Nat.zero_add] at laid

/-- The condition is tested by one instruction, and the rest is laid out behind it. -/
theorem layout?_tied {expression : Expression} (hard : expression.isHard = true) (start slots : Nat) :
    expression.tied.layout? true start slots =
      (expression.layout? true (start + 1) slots).map fun body =>
        ⟨.plain (.ofRegex (.seq [.look .textStart])) [] :: body.code, body.slots⟩ := by
  have parts : runs true [.condition .textStart, expression] = (1, 1) := by
    simp [runs, leads, trails, hard, isConstSize, isHard]
  have first : plainRun? [.condition .textStart] =
      some [.plain (.ofRegex (.seq [.look .textStart])) []] := rfl
  rw [tied, layout?]
  simp only [Bool.not_true, Bool.false_and, Bool.false_eq_true, if_false, parts, List.take_succ_cons,
    List.take_zero, first, Option.bind_eq_bind, Option.bind_some, List.length_singleton, rowLayout?]
  cases expression.layout? true (start + 1) slots with
  | none => simp
  | some body => simp [plainRun?, Layout.nothing]

end Expression

namespace Program

variable {program attempt : Program} {text : List Char} {groups : Nat} {expression : Expression}

/-! ### Attempts -/

/-- What a search tries at one position, as a program of its own. -/
def attempt? (groups : Nat) (expression : Expression) : Option Program := do
  let body ← expression.layout? true 0 (2 * (groups + 1))
  return ⟨(body.code ++ [Instruction.save 1, .finish]).toArray, body.slots⟩

/-- A program with other instructions before it. -/
def behind (lead : List Instruction) (program : Program) : Program :=
  ⟨(lead ++ program.code.toList.map (Instruction.relocate lead.length)).toArray, program.slots⟩

/-- Behind a lead the program is what it was, at addresses later by the length of the lead. -/
theorem isEnd_behind (lead : List Instruction) (program : Program) :
    program.IsEnd (program.behind lead) lead.length := by
  intro address
  simp only [behind, List.getElem?_toArray]
  rw [List.getElem?_append_right (Nat.le_add_left _ _), Nat.add_sub_cancel, List.getElem?_map,
    Array.getElem?_toList]

/-- The lead stands at the front of what it was put before. -/
theorem holds_behind (lead : List Instruction) (program : Program) :
    (program.behind lead).Holds 0 lead := by
  intro index instruction here
  have inside := (List.getElem?_eq_some_iff.mp here).1
  rw [behind, Nat.zero_add, List.getElem?_toArray, List.getElem?_append_left inside, here]

/-- What a search does before an attempt. -/
def searchLead : List Instruction := [.split 3 1, .anyChar true, .jump 0, .save 0]

/-- What a search does before an attempt that is tied to the start of the text. -/
def tiedLead : List Instruction :=
  searchLead ++ [.plain (.ofRegex (.seq [.look .textStart])) []]

/-- A search is an attempt behind the instructions that start one at each place. -/
theorem search?_eq_attempt? (groups : Nat) (expression : Expression) :
    search? groups expression = (attempt? groups expression).map (behind searchLead) := by
  simp only [search?, attempt?, Option.bind_eq_bind, Option.pure_def]
  rw [expression.layout?_moved 4]
  cases expression.layout? true 0 (2 * (groups + 1)) with
  | none => rfl
  | some body => simp [behind, searchLead, Instruction.relocate]

/-- A tied search is an attempt behind the condition and what starts it at each place. -/
theorem search?_tied (hard : expression.isHard = true) (groups : Nat) :
    search? groups expression.tied = (attempt? groups expression).map (behind tiedLead) := by
  simp only [search?, attempt?, Option.bind_eq_bind, Option.pure_def,
    Expression.layout?_tied hard]
  rw [expression.layout?_moved 5]
  cases expression.layout? true 0 (2 * (groups + 1)) with
  | none => rfl
  | some body => simp [behind, tiedLead, searchLead, Instruction.relocate]

/-! ### Searches -/

/-- Whether the attempt that a search makes at a position, without those at later ones, matches. -/
def FindsAt (program : Program) (text : List Char) (position : Nat) : Prop :=
  Settles program text [⟨3, position, Array.replicate program.slots none, []⟩] true

/-- Where an attempt begins, with the position that a search keeps before it. -/
def startAt (program : Program) (position : Nat) : State :=
  (State.mk 0 position (Array.replicate program.slots none) []).keep 0 position

/-- No state leads to no match. -/
theorem hopeless_nil : program.Hopeless text [] := by
  intro fewer answer suffix settles
  obtain rfl := List.suffix_nil.mp suffix
  cases settles
  rfl

/-- In the lead, the instruction of the lead is the one that runs. -/
theorem step_behind {lead : List Instruction} {state : State} {instruction : Instruction}
    {pending : Nat} {result : Step} (found : lead[state.address]? = some instruction)
    (does : instruction.step text.toArray pending state = result) :
    (attempt.behind lead).step text.toArray pending state = result := by
  have here := holds_behind lead attempt state.address instruction found
  rw [Nat.zero_add] at here
  rw [step, here]
  exact does

/-- A search finds something at a position if the attempt does. -/
theorem findsAt_behind_iff {position : Nat} :
    (attempt.behind searchLead).FindsAt text position ↔
      Settles attempt text [attempt.startAt position] true := by
  have saves (pending : Nat) : (attempt.behind searchLead).step text.toArray pending
      ⟨3, position, Array.replicate attempt.slots none, []⟩ =
        .goOn ((attempt.startAt position).relocate 4 0) := step_behind rfl rfl
  have ends := isEnd_behind searchLead attempt
  constructor
  · intro finds
    have copied : Settles (attempt.behind searchLead) text
        (copies searchLead.length [] [attempt.startAt position]) true := Settles.of_goOn saves finds
    exact copied.of_copy ends hopeless_nil
  · intro settles
    exact .goOn (saves _) (settles.copy ends [])

/-- The condition for the start of the text moves nowhere, and fails elsewhere. -/
theorem step_textStart {pending : Nat} {state : State} (inside : state.position ≤ text.length) :
    (Instruction.plain (.ofRegex (.seq [.look .textStart])) []).step text.toArray pending state =
      if state.position = 0 then .goOn state.next else .fail := by
  obtain ⟨sound, complete⟩ :=
    Regex.Automaton.match?_ofRegex text (.seq [.look .textStart]) inside
  have matches_iff (last : Nat) : Regex.Matches text (.seq [.look .textStart]) state.position last ↔
      state.position = 0 ∧ last = state.position := by
    simp only [Regex.Matches, Regex.MatchesRow, Regex.Look.holdsAt_textStart inside]
    constructor
    · rintro ⟨middle, ⟨starts, rfl⟩, rfl⟩
      exact ⟨starts, rfl⟩
    · rintro ⟨starts, rfl⟩
      exact ⟨state.position, ⟨starts, rfl⟩, rfl⟩
  simp only [Instruction.step]
  split
  · next way found =>
      obtain ⟨starts, still⟩ := (matches_iff _).mp (sound way found)
      rw [if_pos starts, still]
      rfl
  · next none =>
      refine (if_neg fun starts => ?_).symm
      obtain ⟨way, found⟩ := complete state.position ((matches_iff _).mpr ⟨starts, rfl⟩)
      cases none.symm.trans found

/-- After the first attempt, a search that is tied to the start of the text finds nothing more. -/
theorem decides_behind_tiedLead (attempt : Program) {state : State} (here : state.address = 1)
    (inside : state.position ≤ text.length) :
    Decides (attempt.behind tiedLead) text False state := by
  induction left : text.length - state.position using Nat.strong_induction_on
    generalizing state with
  | _ left ih =>
      have skips {pending : Nat} {result : Step}
          (does : (Instruction.anyChar true).step text.toArray pending state = result) :
          (attempt.behind tiedLead).step text.toArray pending state = result :=
        step_behind (by rw [here]; rfl) does
      cases char : text[state.position]? with
      | none => exact .fail fun pending => skips (by simp [Instruction.step, char])
      | some letter =>
          have further := (List.getElem?_eq_some_iff.mp char).1
          let moved := (state.nextFrom (state.position + 1))
          have moves (pending : Nat) :
              (attempt.behind tiedLead).step text.toArray pending state = .goOn moved :=
            skips (by simp [Instruction.step, char, moved])
          have back (pending : Nat) : (attempt.behind tiedLead).step text.toArray pending moved =
              .goOn (moved.jumpTo 0) :=
            step_behind (by simp only [moved, State.nextFrom, here]; rfl) rfl
          have tried : Decides (attempt.behind tiedLead) text False (moved.jumpTo 3) :=
            .goOn (fun pending => step_behind rfl rfl)
              (.fail fun pending => step_behind rfl (step_textStart further))
          have later : Decides (attempt.behind tiedLead) text False (moved.jumpTo 1) :=
            ih (text.length - (state.position + 1)) (by omega) rfl further rfl
          refine .goOn moves (.goOn back ?_)
          exact (Decides.branch (fun pending => step_behind rfl rfl) tried later).congr or_self_iff

/-- A search that is tied to the start of the text answers as the attempt there. -/
theorem settles_behind_tiedLead {answer : Bool}
    (settles : Settles (attempt.behind tiedLead) text [(attempt.behind tiedLead).start] answer) :
    Settles attempt text [attempt.startAt 0] answer := by
  have inside : (0 : Nat) ≤ text.length := Nat.zero_le _
  let begun := (attempt.behind tiedLead).start
  have hopeless : (attempt.behind tiedLead).Hopeless text [begun.jumpTo 1] := by
    intro fewer answer suffix settles
    obtain rfl | suffix := List.suffix_cons_iff.mp suffix
    · have fails : Decides (attempt.behind tiedLead) text False (begun.jumpTo 1) :=
        decides_behind_tiedLead attempt rfl inside
      obtain ⟨absurd, -⟩ | ⟨-, settles⟩ := fails [] answer settles
      · exact absurd.elim
      · exact hopeless_nil [] answer (List.suffix_refl []) settles
    · exact hopeless_nil fewer answer suffix settles
  have one : Settles (attempt.behind tiedLead) text
      [begun.jumpTo 3, begun.jumpTo 1] answer :=
    Settles.of_branch (fun pending => step_behind rfl rfl) settles
  have two := Settles.of_goOn (fun pending => step_behind rfl rfl) one
  have three := Settles.of_goOn (fun pending => step_behind rfl (step_textStart inside)) two
  exact .of_copy (isEnd_behind tiedLead attempt) hopeless three

/-- If it is not given up, a search finds what it finds at the start. -/
theorem outcome_of_findsAt (made : search? groups expression = some program)
    (finds : program.FindsAt text 0) {answer : Bool}
    (settled : program.outcome text.toArray = some answer) : answer = true := by
  rw [search?_eq_attempt?] at made
  obtain ⟨attempt, -, rfl⟩ := Option.map_eq_some_iff.mp made
  let begun := (attempt.behind searchLead).start
  have copied : Settles (attempt.behind searchLead) text
      (copies searchLead.length [begun.jumpTo 1] [attempt.startAt 0]) true :=
    (findsAt_behind_iff.mp finds).copy (isEnd_behind searchLead attempt) [begun.jumpTo 1]
  have first : Settles (attempt.behind searchLead) text [begun.jumpTo 3, begun.jumpTo 1] true :=
    .goOn (step_behind rfl rfl) copied
  have whole : Settles (attempt.behind searchLead) text [begun] true :=
    .branch (step_behind rfl rfl) first
  have settles : Settles (attempt.behind searchLead) text [begun] answer := settles_of_run settled
  exact settles.unique whole

/-- One of both searches can be laid out just if the other can. -/
theorem isSome_search?_tied (hard : expression.isHard = true) (groups : Nat) :
    (search? groups expression.tied).isSome = (search? groups expression).isSome := by
  rw [search?_tied hard, search?_eq_attempt?, Option.isSome_map, Option.isSome_map]

/-- If it is not given up, a search behind the condition finds what the search finds at the start. -/
theorem outcome_tied {anchored : Program} (hard : expression.isHard = true)
    (made : search? groups expression = some program)
    (madeToo : search? groups expression.tied = some anchored) {answer : Bool}
    (settled : anchored.outcome text.toArray = some answer) :
    answer = true ↔ program.FindsAt text 0 := by
  rw [search?_eq_attempt?] at made
  obtain ⟨attempt, found, rfl⟩ := Option.map_eq_some_iff.mp made
  rw [search?_tied hard, found, Option.map_some] at madeToo
  obtain rfl := Option.some.inj madeToo
  have settles := settles_behind_tiedLead (settles_of_run settled)
  rw [findsAt_behind_iff]
  constructor
  · rintro rfl
    exact settles
  · intro finds
    exact settles.unique finds

end Program

end TypedJson.Backtrack
