import TypedJson.Proofs.Backtrack.Program

namespace TypedJson.Backtrack

open Expression (Regular)
open Program (Decides Settles)

/-- A search at one state goes on as it would at another one. -/
def Passes (program : Program) (text : List Char) (state next : State) : Prop :=
  ∀ later answer, Settles program text (state :: later) answer →
    Settles program text (next :: later) answer

variable {program : Program} {text : List Char} {groups : Nat}

/-- A state passes to the one that its instruction goes on with. -/
theorem Passes.goOn {state next : State}
    (here : ∀ pending, program.step text.toArray pending state = .goOn next) :
    Passes program text state next :=
  fun _ _ settles => settles.of_goOn here

theorem Passes.trans {state next last : State} (one : Passes program text state next)
    (two : Passes program text next last) : Passes program text state last :=
  fun later answer settles => two later answer (one later answer settles)

/-- A state that passes to one which decides the search decides it alike. -/
theorem Passes.decides {state next : State} {accepted : Prop}
    (passes : Passes program text state next) (decides : Decides program text accepted next) :
    Decides program text accepted state :=
  fun later answer settles => decides later answer (passes later answer settles)

/-- Whether a look-around finds its body at a position. -/
def Found (text : List Char) (behind : Bool) (body : Expression) (position : Nat) : Prop :=
  ∃ other, if behind then body.Matches text other position else body.Matches text position other

/-- A row of one item matches what the item matches. -/
theorem matchesRow_single {item : Expression} {first last : Nat} :
    Expression.MatchesRow text [item] first last ↔ item.Matches text first last := by
  simp [Expression.MatchesRow]

/-- A look-behind finds its body if it matches from as many characters before as it takes. -/
theorem found_behind_iff {body : Expression} (regular : Regular groups body)
    (const : body.isConstSize = true) {position : Nat} :
    Found text true body position ↔ body.minSize ≤ position ∧
      ∃ last, body.Matches text (position - body.minSize) last := by
  unfold Found
  constructor
  · rintro ⟨other, found⟩
    have found : body.Matches text other position := found
    obtain rfl := Expression.eq_minSize regular const found
    rw [Nat.add_sub_cancel]
    exact ⟨Nat.le_add_left _ _, _, found⟩
  · rintro ⟨least, last, found⟩
    obtain rfl := Expression.eq_minSize regular const found
    rw [Nat.sub_add_cancel least] at found
    exact ⟨position - body.minSize, found⟩

/-- The instructions that test the body of a look-around end behind it, or fail. -/
theorem passes_or_fails {behind : Bool} {body : Expression} (regular : Regular groups body)
    (sized : behind = true → body.isConstSize = true) {back code : List Instruction}
    (starts : Expression.startBehind behind body = some back)
    (made : Expression.plainRun? [body] = some code) {state : State}
    (holds : program.Holds state.address (back ++ code))
    (inside : state.position ≤ text.length) :
    code.length = 1 ∧
    ((∃ next : State, Passes program text state next ∧
        next.address = state.address + back.length + 1 ∧
        Found text behind body state.position ∧ ∀ top, Agrees (2 * (groups + 1)) top state next) ∨
      (Decides program text False state ∧ ¬Found text behind body state.position)) := by
  obtain ⟨holdsBack, holdsCode⟩ := Program.holds_append.mp holds
  have items : ∀ item ∈ [body], Regular groups item := by simpa using regular
  cases behind with
  | false =>
      obtain rfl := Option.some.inj starts
      obtain ⟨one, ⟨next, goes, there, moves, agrees⟩ | ⟨fails, none⟩⟩ :=
        Expression.step_plainRun items (by simp) made holdsCode inside
      · exact ⟨one, .inl ⟨next, .goOn goes, there, ⟨_, matchesRow_single.mp moves⟩, agrees⟩⟩
      · refine ⟨one, .inr ⟨.fail fails, ?_⟩⟩
        rintro ⟨last, found⟩
        exact none last (matchesRow_single.mpr found)
  | true =>
      have const := sized rfl
      simp only [Expression.startBehind, const, if_true, Option.some.injEq] at starts
      subst starts
      rw [found_behind_iff regular const]
      have step (pending : Nat) := program.step_of_holds holdsBack text.toArray pending
      simp only [Instruction.step] at step
      let moved := state.nextFrom (state.position - body.minSize)
      have holdsMoved : program.Holds moved.address code := holdsCode
      obtain ⟨one, tested⟩ := Expression.step_plainRun items (by simp) made holdsMoved
        (Nat.le_trans (Nat.sub_le _ _) inside)
      refine ⟨one, ?_⟩
      by_cases enough : body.minSize ≤ state.position
      · have goes (pending : Nat) : program.step text.toArray pending state = .goOn moved := by
          rw [step, if_pos enough]
        obtain ⟨next, goes', there, moves, agrees⟩ | ⟨fails, none⟩ := tested
        · refine .inl ⟨next, .trans (.goOn goes) (.goOn goes'), there, ⟨enough, _,
            matchesRow_single.mp moves⟩, fun top => ?_⟩
          have same := agrees top
          exact ⟨same.size, same.same⟩
        · refine .inr ⟨.goOn goes (.fail fails), ?_⟩
          rintro ⟨-, last, found⟩
          exact none last (matchesRow_single.mpr found)
      · have fails (pending : Nat) : program.step text.toArray pending state = .fail := by
          rw [step, if_neg enough]
        exact .inr ⟨.fail fails, fun found => enough found.1⟩

/-- A look-around stays in place. -/
theorem runs_lookAround {behind negated : Bool} {body : Expression} (regular : Regular groups body)
    (sized : behind = true → body.isConstSize = true) {start slots : Nat} {layout : Layout}
    (laid : Expression.aroundLayout? behind negated body start slots (fun _ slots =>
      (Expression.plainRun? [body]).map fun code => ⟨code, slots⟩) = some layout) :
    slots ≤ layout.slots ∧
    (2 * (groups + 1) ≤ slots → layout.slots ≤ program.slots → program.Holds start layout.code →
      Runs program text (2 * (groups + 1)) slots start (start + layout.code.length)
        fun first last => first = last ∧ (Found text behind body first ↔ negated = false)) := by
  simp only [Expression.aroundLayout?, Option.bind_eq_bind, Option.bind_eq_some_iff] at laid
  obtain ⟨back, starts, laid⟩ := laid
  cases negated with
  | false =>
      simp only [Bool.false_eq_true, if_false, Option.bind_eq_some_iff, Option.map_eq_some_iff,
        Option.pure_def, Option.some.injEq] at laid
      obtain ⟨_, ⟨code, made, rfl⟩, rfl⟩ := laid
      refine ⟨Nat.le_succ slots, fun least room holds => ?_⟩
      rintro state accepted rfl inside size decides
      rw [List.cons_append, List.cons_append, Program.holds_cons, Program.holds_append] at holds
      obtain ⟨saveHere, testHere, restoreHere⟩ := holds
      have saves : ∀ pending, program.step text.toArray pending state =
          .goOn (state.keep slots state.position).next := fun pending => by
        rw [Program.step, saveHere]
        rfl
      have kept : Agrees (2 * (groups + 1)) slots state (state.keep slots state.position) :=
        .keep (.inr (Nat.le_refl slots))
      have space : slots + 1 ≤ program.slots := room
      obtain ⟨one, ⟨next, passes, there, found, agrees⟩ | ⟨fails, none⟩⟩ :=
        passes_or_fails regular sized starts made
          (show program.Holds (state.keep slots state.position).next.address (back ++ code) from
            testHere) inside
      · have found : Found text behind body state.position := found
        have there : next.address = state.address + 1 + back.length + 1 := there
        have saved : next.slot slots = some state.position := by
          rw [(agrees (slots + 1)).slot least (Nat.lt_succ_self slots)]
          exact State.slot_keep (by omega)
        have restores : ∀ pending, program.step text.toArray pending next =
            .goOn (next.nextFrom state.position) := fun pending => by
          have here := (Program.holds_cons.mp restoreHere).1
          rw [List.length_append, one, ← Nat.add_assoc] at here
          rw [Program.step, there, here]
          simp only [Instruction.step, saved]
        have agreesBack : Agrees (2 * (groups + 1)) slots state (next.nextFrom state.position) :=
          ⟨(agrees slots).size.trans kept.size, fun index low high =>
            ((agrees slots).same index low high).trans (kept.same index low high)⟩
        have address : (next.nextFrom state.position).address = state.address +
            (.save slots :: back ++ code ++ [.restore slots] : List Instruction).length := by
          simp [State.nextFrom, there, one]
          omega
        have done := decides _ address inside ⟨rfl, by simpa using found⟩ agreesBack
        refine (Decides.goOn saves (passes.decides (.goOn restores done))).congr ?_
        constructor
        · intro yes
          exact ⟨state.position, ⟨rfl, by simpa using found⟩, yes⟩
        · rintro ⟨_, ⟨rfl, -⟩, yes⟩
          exact yes
      · refine (Decides.goOn saves fails).congr ?_
        have nowhere : ¬Found text behind body state.position := none
        simp [nowhere]
  | true =>
      simp only [if_true, Option.bind_eq_some_iff, Option.map_eq_some_iff,
        Option.pure_def, Option.some.injEq] at laid
      obtain ⟨_, ⟨code, made, rfl⟩, rfl⟩ := laid
      refine ⟨Nat.le_refl slots, fun least room holds => ?_⟩
      rintro state accepted rfl inside size decides
      rw [List.cons_append, List.cons_append, Program.holds_cons, Program.holds_append] at holds
      obtain ⟨splitHere, testHere, failHere⟩ := holds
      let later := state.jumpTo (state.address + 1 + back.length + code.length + 1)
      have splits : ∀ pending, program.step text.toArray pending state =
          .branch (state.jumpTo (state.address + 1)) later := fun pending => by
        rw [Program.step, splitHere]
        rfl
      obtain ⟨one, ⟨next, passes, there, found, agrees⟩ | ⟨fails, none⟩⟩ :=
        passes_or_fails regular sized starts made
          (show program.Holds (state.jumpTo (state.address + 1)).address (back ++ code) from
            testHere) inside
      · have found : Found text behind body state.position := found
        have there : next.address = state.address + 1 + back.length + 1 := there
        have gives : ∀ pending, program.step text.toArray pending next =
            .failSince later.address := fun pending => by
          have here := (Program.holds_cons.mp failHere).1
          rw [List.length_append, one, ← Nat.add_assoc] at here
          rw [Program.step, there, here]
          simp [Instruction.step, later, State.jumpTo, there, one]
        have rejects : Decides program text False state := by
          intro others answer settles
          have rest := (passes _ _ (settles.of_branch splits)).of_failSince gives
          rw [dropSince, if_pos rfl] at rest
          exact .inr ⟨id, rest⟩
        exact rejects.congr (by simp [found])
      · have nowhere : ¬Found text behind body state.position := none
        have address : later.address = state.address + (.split (state.address + 1)
            (state.address + 1 + back.length + code.length + 1) :: back ++ code ++
              [.failLookAround] : List Instruction).length := by
          simp [later, State.jumpTo]
          omega
        have done := decides later address inside ⟨rfl, by simpa using nowhere⟩
          ⟨rfl, fun _ _ _ => rfl⟩
        refine (Decides.branch splits fails done).congr ?_
        simp [nowhere, later, State.jumpTo]

end TypedJson.Backtrack
