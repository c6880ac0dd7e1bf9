import Mathlib.Data.List.TakeWhile
import TypedJson.Proofs.Backtrack.LookAround

namespace TypedJson.Backtrack

open Expression (Regular)
open Program (Decides Holds Settles)
open TypedJson.Regex (Rounds WithinRounds Forward)

/-- A layout takes slots from the first free one on, and runs through the moves of a relation. -/
def Lays (program : Program) (text : List Char) (groups start slots : Nat) (layout : Layout)
    (relation : Nat → Nat → Prop) : Prop :=
  slots ≤ layout.slots ∧
    (2 * (groups + 1) ≤ slots → layout.slots ≤ program.slots → program.Holds start layout.code →
      Runs program text (2 * (groups + 1)) slots start (start + layout.code.length) relation)

/-- Wherever an expression is laid out, it runs through its matches. -/
def LaysOut (program : Program) (text : List Char) (groups : Nat) (expression : Expression) :
    Prop :=
  ∀ start slots layout, expression.layout? true start slots = some layout →
    Lays program text groups start slots layout (expression.Matches text)

variable {program : Program} {text : List Char} {groups : Nat}

namespace LaysOut

/-- The empty expression is laid out as no instructions. -/
theorem empty : LaysOut program text groups .empty := by
  intro start slots layout laid
  rw [Expression.layout?] at laid
  simp at laid
  obtain rfl := laid
  refine ⟨Nat.le_refl _, fun least room holds => ?_⟩
  exact .nothing

/-- A dot is laid out as one instruction. -/
theorem anyChar (lineFeed : Bool) : LaysOut program text groups (.anyChar lineFeed) := by
  intro start slots layout laid
  rw [Expression.layout?] at laid
  simp at laid
  obtain rfl := laid
  refine ⟨Nat.le_refl _, fun least room holds => ?_⟩
  exact .anyChar holds

/-- A condition is laid out as one instruction. -/
theorem condition (look : Regex.Look) : LaysOut program text groups (.condition look) := by
  intro start slots layout laid
  rw [Expression.layout?] at laid
  simp at laid
  obtain rfl := laid
  refine ⟨Nat.le_refl _, fun least room holds => ?_⟩
  exact .check holds

/-- A literal is laid out as one instruction. -/
theorem literal (char : Char) (ignoreCase : Bool) :
    LaysOut program text groups (.literal char ignoreCase) := by
  intro start slots layout laid
  rw [Expression.layout?] at laid
  simp only [Bool.not_true, Bool.false_and, Bool.false_eq_true, if_false,
    Option.map_eq_some_iff] at laid
  obtain ⟨code, made, rfl⟩ := laid
  refine ⟨Nat.le_refl _, fun least room holds => ?_⟩
  have regular : ∀ item ∈ [Expression.literal char ignoreCase], Regular groups item := by
    simpa using Regular.literal char ignoreCase
  exact (Runs.plain regular (by simp [Expression.isConstSize]) made holds).congr fun _ _ =>
    matchesRow_single

/-- A set of characters is laid out as one instruction. -/
theorem set (set : Regex.CharSet) : LaysOut program text groups (.set (.one set)) := by
  intro start slots layout laid
  rw [Expression.layout?] at laid
  simp only [Bool.not_true, Bool.false_and, Bool.false_eq_true, if_false,
    Option.map_eq_some_iff] at laid
  obtain ⟨code, made, rfl⟩ := laid
  refine ⟨Nat.le_refl _, fun least room holds => ?_⟩
  have regular : ∀ item ∈ [Expression.set (.one set)], Regular groups item := by
    simpa using Regular.set set
  exact (Runs.plain regular (by simp [Expression.isConstSize]) made holds).congr fun _ _ =>
    matchesRow_single

/-- A group is laid out as its body between two instructions that keep its place. -/
theorem group {index : Nat} {body : Expression} (known : index ≤ groups)
    (inner : LaysOut program text groups body) :
    LaysOut program text groups (.group index body) := by
  intro start slots layout laid
  rw [Expression.layout?] at laid
  simp only [Bool.not_true, Bool.false_and, Bool.false_eq_true, if_false, Option.bind_eq_bind,
    Option.bind_eq_some_iff, Option.pure_def, Option.some.injEq] at laid
  obtain ⟨layout, made, rfl⟩ := laid
  obtain ⟨grows, runs⟩ := inner _ _ _ made
  refine ⟨grows, fun least room holds => ?_⟩
  rw [List.cons_append, Program.holds_cons, Program.holds_append] at holds
  obtain ⟨opens, inside, closes⟩ := holds
  have before : Runs program text (2 * (groups + 1)) slots start (start + 1)
      fun first last => first = last :=
    .save (Program.holds_cons.mpr ⟨opens, inside⟩) (.inl (by omega))
  have after : Runs program text (2 * (groups + 1)) slots (start + 1 + layout.code.length)
      (start + 1 + layout.code.length + 1) fun first last => first = last :=
    .save closes (.inl (by omega))
  have whole := (before.trans (runs least room inside) (Nat.le_refl _)).trans after (Nat.le_refl _)
  rw [List.cons_append, List.length_cons, List.length_append, List.length_singleton]
  rw [show start + (layout.code.length + 1 + 1) = start + 1 + layout.code.length + 1 by omega]
  exact whole.congr fun first last => by simp [Expression.Matches]

/-- Several alternatives are laid out one behind the other, with a split before each but the
last. -/
theorem choice {items : List Expression} (nonempty : items ≠ [])
    (all : ∀ item ∈ items, LaysOut program text groups item) {start slots : Nat}
    {layout : Layout} (laid : Expression.choiceLayout? true start slots items = some layout) :
    Lays program text groups start slots layout (Expression.MatchesChoice text items) := by
  induction items generalizing start slots layout with
  | nil => exact absurd rfl nonempty
  | cons item rest ih =>
      rw [List.forall_mem_cons] at all
      cases rest with
      | nil =>
          rw [Expression.choiceLayout?] at laid
          obtain ⟨grows, runs⟩ := all.1 _ _ _ laid
          refine ⟨grows, fun least room holds => ?_⟩
          exact (runs least room holds).congr fun first last => by simp [Expression.MatchesChoice]
      | cons second others =>
          rw [Expression.choiceLayout?] at laid
          · simp only [Option.bind_eq_bind, Option.bind_eq_some_iff, Option.pure_def,
              Option.some.injEq] at laid
            obtain ⟨one, madeOne, more, madeMore, rfl⟩ := laid
            obtain ⟨growsOne, runsOne⟩ := all.1 _ _ _ madeOne
            obtain ⟨growsMore, runsMore⟩ := ih (by simp) all.2 madeMore
            refine ⟨Nat.le_trans growsOne growsMore, fun least room holds => ?_⟩
            rw [List.cons_append] at holds
            have splits := holds
            rw [Program.holds_cons, Program.holds_append, Program.holds_cons] at holds
            obtain ⟨-, insideOne, jumps, insideMore⟩ := holds
            have first := runsOne least (Nat.le_trans growsMore room) insideOne
            have second := runsMore (Nat.le_trans least growsOne) room (by
              rw [show start + 2 + one.code.length = start + 1 + one.code.length + 1 by omega]
              exact insideMore)
            have leave : Runs program text (2 * (groups + 1)) slots (start + 1 + one.code.length)
                (start + 2 + one.code.length + more.code.length) fun first last => first = last :=
              .jump (Program.holds_cons.mpr ⟨jumps, insideMore⟩)
            have whole := Runs.split splits (first.trans leave (Nat.le_refl _))
              (second.mono growsOne)
            rw [List.cons_append, List.length_cons, List.length_append, List.length_cons]
            rw [show start + (one.code.length + (more.code.length + 1) + 1) =
              start + 2 + one.code.length + more.code.length by omega]
            exact whole.congr fun first last => by simp [Expression.MatchesChoice]
          · simp

/-- An alternation runs through what one of its alternatives matches. -/
theorem alternation {items : List Expression} (nonempty : items ≠ [])
    (all : ∀ item ∈ items, LaysOut program text groups item) :
    LaysOut program text groups (.alternation items) := by
  intro start slots layout laid
  rw [Expression.layout?] at laid
  exact choice nonempty all laid

/-- The items of a row are laid out one after the other, from the first one that is wanted. -/
theorem row {items : List Expression} (all : ∀ item ∈ items, LaysOut program text groups item)
    {start slots first count : Nat} {layout : Layout}
    (laid : Expression.rowLayout? start slots first count items = some layout) :
    Lays program text groups start slots layout
      (Expression.MatchesRow text ((items.drop first).take count)) := by
  induction items generalizing start slots first count layout with
  | nil =>
      obtain rfl := Option.some.inj laid
      refine ⟨Nat.le_refl _, fun least room holds => ?_⟩
      rw [List.drop_nil, List.take_nil]
      exact .nothing
  | cons item rest ih =>
      rw [List.forall_mem_cons] at all
      rw [Expression.rowLayout?] at laid
      split at laid
      · rename_i later
        obtain ⟨before, rfl⟩ := Nat.exists_eq_succ_of_ne_zero later
        exact ih all.2 laid
      · rename_i now
        obtain rfl := Decidable.not_not.mp now
        split at laid
        · rename_i none
          subst none
          obtain rfl := Option.some.inj laid
          refine ⟨Nat.le_refl _, fun least room holds => ?_⟩
          rw [List.take_zero]
          exact .nothing
        · rename_i some
          obtain ⟨fewer, rfl⟩ := Nat.exists_eq_succ_of_ne_zero some
          simp only [Option.bind_eq_bind, Option.bind_eq_some_iff, Option.pure_def,
            Option.some.injEq] at laid
          obtain ⟨one, madeOne, more, madeMore, rfl⟩ := laid
          obtain ⟨growsOne, runsOne⟩ := all.1 _ _ _ madeOne
          obtain ⟨growsMore, runsMore⟩ := ih all.2 madeMore
          refine ⟨Nat.le_trans growsOne growsMore, fun least room holds => ?_⟩
          obtain ⟨insideOne, insideMore⟩ := Program.holds_append.mp holds
          have first := runsOne least (Nat.le_trans growsMore room) insideOne
          have second := runsMore (Nat.le_trans least growsOne) room insideMore
          rw [List.length_append, ← Nat.add_assoc]
          exact first.trans second growsOne

/-- The items before the hard ones are such as may lead a row. -/
theorem leads_of_mem_take (hard : Bool) (items : List Expression) :
    ∀ item ∈ items.take (Expression.runs hard items).1, item.leads = true := by
  intro item inside
  have run := List.prefix_iff_eq_take.mp (List.takeWhile_prefix Expression.leads (l := items))
  rw [Expression.runs, ← run] at inside
  exact List.mem_takeWhile_imp inside

/-- The items behind the hard ones are such as may end a row. -/
theorem trails_of_mem_drop (hard : Bool) (items : List Expression) :
    ∀ item ∈ items.drop ((Expression.runs hard items).1 + (Expression.runs hard items).2),
      item.trails hard = true := by
  intro item inside
  simp only [Expression.runs] at inside
  rw [← List.drop_drop, ← List.mem_reverse, ← List.take_reverse] at inside
  have run := List.prefix_iff_eq_take.mp (List.takeWhile_prefix (Expression.trails hard)
    (l := (items.drop (items.takeWhile Expression.leads).length).reverse))
  rw [← run] at inside
  exact List.mem_takeWhile_imp inside

/-- A row is one run without backtracking, the items that are laid out alone, and another run. -/
theorem concat {items : List Expression} (regular : ∀ item ∈ items, Regular groups item)
    (all : ∀ item ∈ items, LaysOut program text groups item) :
    LaysOut program text groups (.concat items) := by
  intro start slots layout laid
  rw [Expression.layout?] at laid
  simp only [Bool.not_true, Bool.false_and, Bool.false_eq_true, if_false, Option.bind_eq_bind,
    Option.bind_eq_some_iff, Option.pure_def, Option.some.injEq] at laid
  have leads := leads_of_mem_take true items
  have trails := trails_of_mem_drop true items
  generalize (Expression.runs true items).1 = first at *
  generalize (Expression.runs true items).2 = middle at *
  obtain ⟨before, madeBefore, inside, madeInside, after, madeAfter, rfl⟩ := laid
  obtain ⟨grows, runs⟩ := row all madeInside
  refine ⟨grows, fun least room holds => ?_⟩
  rw [Program.holds_append, Program.holds_append] at holds
  obtain ⟨⟨holdsBefore, holdsInside⟩, holdsAfter⟩ := holds
  have one : Runs program text (2 * (groups + 1)) slots start (start + before.length)
      (Expression.MatchesRow text (items.take first)) := by
    refine Runs.plain (fun item member => regular item (List.mem_of_mem_take member))
      (fun item member => ?_) madeBefore holdsBefore
    have easy := leads item member
    rw [Expression.leads, Bool.and_eq_true] at easy
    exact easy.1
  have three : Runs program text (2 * (groups + 1)) slots
      (start + (before ++ inside.code).length)
      (start + (before ++ inside.code).length + after.length)
      (Expression.MatchesRow text (items.drop (first + middle))) := by
    refine Runs.plain (fun item member => regular item (List.mem_of_mem_drop member))
      (fun item member => ?_) madeAfter holdsAfter
    have easy := trails item member
    rw [Expression.trails, Bool.and_eq_true] at easy
    simpa using easy.1
  have two := runs least room holdsInside
  rw [Nat.add_assoc, ← List.length_append] at two
  have whole := (one.trans two (Nat.le_refl _)).trans three (Nat.le_refl _)
  rw [Nat.add_assoc, ← List.length_append] at whole
  refine whole.congr fun start stop => ?_
  simp only [← Expression.matchesRow_append]
  rw [Expression.Matches,
    List.append_assoc, ← List.drop_drop, List.take_append_drop, List.take_append_drop]

/-- One round or none is a count of rounds from zero to one. -/
theorem optional_iff {round : Nat → Nat → Prop} {first last : Nat} :
    round first last ∨ first = last ↔
      ∃ count, WithinRounds 0 (some 1) count ∧ Rounds round count first last := by
  constructor
  · rintro (once | rfl)
    · exact ⟨1, ⟨Nat.zero_le _, by simp⟩, last, once, rfl⟩
    · exact ⟨0, ⟨Nat.le_refl _, by simp⟩, rfl⟩
  · rintro ⟨count, ⟨-, most⟩, through⟩
    have bound := most 1 rfl
    match count with
    | 0 => exact .inr through
    | 1 =>
        obtain ⟨_, once, rfl⟩ := through
        exact .inl once
    | more + 2 => omega

/-- A round and any further ones are a count of rounds from one. -/
theorem plus_iff {round : Nat → Nat → Prop} {first last : Nat} :
    (∃ middle, round first middle ∧ ∃ count, Rounds round count middle last) ↔
      ∃ count, WithinRounds 1 none count ∧ Rounds round count first last := by
  constructor
  · rintro ⟨middle, once, count, through⟩
    exact ⟨count + 1, ⟨by omega, by simp⟩, middle, once, through⟩
  · rintro ⟨count, ⟨least, -⟩, through⟩
    obtain ⟨fewer, rfl⟩ := Nat.exists_eq_add_of_le' least
    obtain ⟨middle, once, rest⟩ := through
    exact ⟨middle, once, fewer, rest⟩

/-- Each form of a repetition runs through as many rounds as its bounds allow. -/
theorem rounds {body : Expression} {low : Nat} {high : Option Nat} {greedy : Bool}
    (regular : Regular groups body) (ordered : ∀ bound, high = some bound → low ≤ bound)
    (inner : LaysOut program text groups body) :
    LaysOut program text groups (.rounds body low high greedy) := by
  intro start slots layout laid
  rw [Expression.layout?] at laid
  simp only [Bool.not_true, Bool.false_and, Bool.false_eq_true, if_false, Bool.true_or] at laid
  unfold Expression.roundsLayout? at laid
  have forward : Forward text.length (body.Matches text) := Expression.forward_matches regular
  have moves (takes : body.minSize ≠ 0) (first last : Nat)
      (found : body.Matches text first last) : first < last := by
    have size := Expression.minSize_le regular found
    omega
  dsimp only at laid
  split at laid
  · rename_i optional
    obtain ⟨rfl, rfl⟩ := optional
    simp only [Option.bind_eq_bind, Option.bind_eq_some_iff, Option.pure_def,
      Option.some.injEq] at laid
    obtain ⟨round, made, rfl⟩ := laid
    obtain ⟨grows, runs⟩ := inner _ _ _ made
    refine ⟨grows, fun least room holds => ?_⟩
    have inside := (Program.holds_cons.mp holds).2
    have whole := Runs.choice holds (runs least room inside) .nothing
    rw [List.length_cons, Nat.add_comm round.code.length, ← Nat.add_assoc]
    refine whole.congr fun first last => ?_
    rw [Expression.Matches, optional_iff]
  · split at laid
    · rename_i bounds
      obtain ⟨rfl, empty⟩ := bounds
      simp only [Option.bind_eq_bind, Option.bind_eq_some_iff, Option.pure_def,
        Option.some.injEq] at laid
      obtain ⟨round, made, rfl⟩ := laid
      obtain ⟨grows, runs⟩ := inner _ _ _ made
      refine ⟨Nat.le_trans (Nat.le_add_right _ _) grows, fun least room holds => ?_⟩
      rw [List.cons_append, List.cons_append] at holds
      have space : slots + 2 ≤ program.slots := Nat.le_trans grows room
      obtain ⟨inside, jumps⟩ := Program.holds_append.mp
        (Program.holds_cons.mp (Program.holds_cons.mp holds).2).2
      have again := (runs (Nat.le_trans least (Nat.le_add_right _ _)) room inside).trans
        (.jump jumps) (Nat.le_refl _)
      have whole := Runs.movingLoop holds forward least (by omega)
        (again.congr fun first last => by simp)
      have length : (.startCount slots :: .movingRound low (start + 3 + round.code.length) slots
          (slots + 1) greedy :: round.code ++ [.jump (start + 1)] : List Instruction).length =
            3 + round.code.length := by
        simp
        omega
      rw [length, ← Nat.add_assoc]
      exact whole
    · split at laid
      · rename_i takes bounds
        obtain ⟨rfl, rfl⟩ := bounds
        simp only [Option.bind_eq_bind, Option.bind_eq_some_iff, Option.pure_def,
          Option.some.injEq] at laid
        obtain ⟨round, made, rfl⟩ := laid
        obtain ⟨grows, runs⟩ := inner _ _ _ made
        refine ⟨grows, fun least room holds => ?_⟩
        have takes : body.minSize ≠ 0 := fun zero => takes ⟨rfl, zero⟩
        rw [List.cons_append] at holds
        obtain ⟨inside, jumps⟩ := Program.holds_append.mp (Program.holds_cons.mp holds).2
        have again := (runs least room inside).trans (.jump jumps) (Nat.le_refl _)
        have whole := Runs.star holds (moves takes) (again.congr fun first last => by simp)
        rw [List.cons_append, List.length_cons, List.length_append, List.length_singleton]
        rw [show start + (round.code.length + 1 + 1) = start + 2 + round.code.length by omega]
        refine whole.congr fun first last => ?_
        simp [Expression.Matches, WithinRounds]
      · split at laid
        · rename_i takes _ bounds
          obtain ⟨rfl, rfl⟩ := bounds
          simp only [Option.bind_eq_bind, Option.bind_eq_some_iff, Option.pure_def,
            Option.some.injEq] at laid
          obtain ⟨round, made, rfl⟩ := laid
          obtain ⟨grows, runs⟩ := inner _ _ _ made
          refine ⟨grows, fun least room holds => ?_⟩
          have takes : body.minSize ≠ 0 := fun zero => takes ⟨rfl, zero⟩
          obtain ⟨inside, splits⟩ := Program.holds_append.mp holds
          have once := runs least room inside
          have whole := once.trans (Runs.star splits (moves takes) once) (Nat.le_refl _)
          rw [List.length_append, List.length_singleton, ← Nat.add_assoc]
          refine whole.congr fun first last => ?_
          rw [Expression.Matches, plus_iff]
        · rename_i takes _ _
          simp only [Option.bind_eq_bind, Option.bind_eq_some_iff, Option.pure_def,
            Option.some.injEq] at laid
          obtain ⟨round, made, rfl⟩ := laid
          obtain ⟨grows, runs⟩ := inner _ _ _ made
          refine ⟨Nat.le_trans (Nat.le_add_right _ _) grows, fun least room holds => ?_⟩
          have takes (none : high = none) : body.minSize ≠ 0 := fun zero => takes ⟨none, zero⟩
          rw [List.cons_append, List.cons_append] at holds
          have space : slots + 1 ≤ program.slots := Nat.le_trans grows room
          obtain ⟨inside, jumps⟩ := Program.holds_append.mp
            (Program.holds_cons.mp (Program.holds_cons.mp holds).2).2
          have again := (runs (Nat.le_trans least (Nat.le_add_right _ _)) room inside).trans
            (.jump jumps) (Nat.le_refl _)
          have whole := Runs.countedLoop holds ordered (fun none => moves (takes none)) least
            space (again.congr fun first last => by simp)
          have length : (.startCount slots :: .countRound low high (start + 3 + round.code.length)
              slots greedy :: round.code ++ [.jump (start + 1)] : List Instruction).length =
                3 + round.code.length := by
            simp
            omega
          rw [length, ← Nat.add_assoc]
          exact whole

/-- A look-around is laid out so that it stays in place and goes on just if its body matches. -/
theorem lookAround {behind negated : Bool} {body : Expression} (easy : body.isHard = false)
    (sized : behind = true → body.isConstSize = true) (regular : Regular groups body) :
    LaysOut program text groups (.lookAround behind negated body) := by
  intro start slots layout laid
  rw [Expression.layout?_lookAround easy sized] at laid
  exact runs_lookAround regular sized laid

end LaysOut

/-- A regular expression runs through exactly its matches, wherever it is laid out. -/
theorem laysOut_regular {expression : Expression} (regular : Regular groups expression) :
    LaysOut program text groups expression := by
  induction regular with
  | empty => exact .empty
  | anyChar lineFeed => exact .anyChar lineFeed
  | condition look => exact .condition look
  | literal char ignoreCase => exact .literal char ignoreCase
  | set set => exact .set set
  | concat all ih => exact .concat all ih
  | alternation nonempty all ih => exact .alternation nonempty ih
  | group known inner ih => exact .group known ih
  | lookAround easy sized inner ih => exact .lookAround easy sized inner
  | rounds ordered inner ih => exact .rounds inner ordered ih

namespace Program

/-- A search tries a position, and then moves over one character to the next position. -/
theorem search?_eq_some {expression : Expression} {program : Program}
    (made : search? groups expression = some program) :
    ∃ body, expression.layout? true 4 (2 * (groups + 1)) = some body ∧
      body.slots = program.slots ∧
      program.Holds 0 (.split 3 1 :: .anyChar true :: .jump 0 :: .save 0 :: body.code ++
        [.save 1, .finish]) := by
  simp only [search?, Option.bind_eq_bind, Option.bind_eq_some_iff, Option.pure_def,
    Option.some.injEq] at made
  obtain ⟨body, laid, rfl⟩ := made
  refine ⟨body, laid, rfl, fun index instruction found => ?_⟩
  simpa using found

/-- From each position, a search finds the matches that start there or later. -/
theorem search?_decides {expression : Expression} (regular : Regular groups expression)
    {program : Program} (made : search? groups expression = some program) {state : State}
    (here : state.address = 0) (inside : state.position ≤ text.length)
    (size : state.slots.size = program.slots) :
    Decides program text (∃ first, state.position ≤ first ∧ first ≤ text.length ∧
      ∃ last, expression.Matches text first last) state := by
  obtain ⟨body, laid, room, holds⟩ := search?_eq_some made
  have lays : LaysOut program text groups expression := laysOut_regular regular
  obtain ⟨-, runs⟩ := lays 4 (2 * (groups + 1)) body laid
  simp only [List.cons_append, Program.holds_cons, Program.holds_append] at holds
  obtain ⟨splits, skips, jumps, saves, insideBody, closes, finish, -⟩ := holds
  have alone {start : Nat} {instruction : Instruction}
      (found : program.code[start]? = some instruction) : program.Holds start [instruction] :=
    Program.holds_cons.mpr ⟨found, fun _ _ none => by simp at none⟩
  have opens : Runs program text (2 * (groups + 1)) (2 * (groups + 1)) 3 4
      fun first last => first = last := .save (alone saves) (.inl (by omega))
  have ends : Runs program text (2 * (groups + 1)) (2 * (groups + 1)) (4 + body.code.length)
      (4 + body.code.length + 1) fun first last => first = last :=
    .save (alone closes) (.inl (by omega))
  have attempt := (opens.trans (runs (Nat.le_refl _) (Nat.le_of_eq room) insideBody)
    (Nat.le_refl _)).trans ends (Nat.le_refl _)
  have move : Runs program text (2 * (groups + 1)) (2 * (groups + 1)) 1 0 _ :=
    (Runs.anyChar (alone skips)).trans (.jump (alone jumps)) (Nat.le_refl _)
  induction left : text.length - state.position using Nat.strong_induction_on
    generalizing state with
  | _ left ih =>
      have split (pending : Nat) : program.step text.toArray pending state =
          .branch (state.jumpTo 3) (state.jumpTo 1) := by
        rw [Program.step, here, splits]
        rfl
      have now := attempt (state.jumpTo 3) (fun _ => True) rfl inside size
        fun next there _ _ _ => .accept fun pending => by
          rw [Program.step, there, finish]
          rfl
      have later := move (state.jumpTo 1) (fun position => ∃ first, position ≤ first ∧
          first ≤ text.length ∧ ∃ last, expression.Matches text first last) rfl inside size
        fun next there nextInside moved agrees => by
          obtain ⟨_, ⟨-, further⟩, same⟩ := moved
          have further : next.position = state.position + 1 := same.symm.trans further
          exact ih _ (by omega) there nextInside (agrees.size.trans size) rfl
      refine (Decides.branch split now later).congr ?_
      constructor
      · rintro (⟨last, ⟨_, ⟨_, rfl, found⟩, rfl⟩, -⟩ | ⟨_, ⟨_, ⟨-, rfl⟩, rfl⟩, first, least, found⟩)
        · exact ⟨state.position, Nat.le_refl _, inside, _, found⟩
        · exact ⟨first, Nat.le_of_succ_le least, found⟩
      · rintro ⟨first, least, most, last, found⟩
        obtain rfl | further := Nat.eq_or_lt_of_le least
        · exact .inl ⟨last, ⟨last, ⟨_, rfl, found⟩, rfl⟩, trivial⟩
        · have char := List.getElem?_eq_getElem (show state.position < text.length by omega)
          exact .inr ⟨state.position + 1, ⟨_, ⟨⟨_, char, .inl rfl⟩, rfl⟩, rfl⟩, first, further, most,
            last, found⟩

/-- A search that is not given up finds a match if and only if there is one. -/
theorem outcome_eq_some {expression : Expression} (regular : Regular groups expression)
    {program : Program} (made : search? groups expression = some program) {answer : Bool}
    (settled : program.outcome text.toArray = some answer) :
    answer = true ↔ ∃ first last, first ≤ text.length ∧ expression.Matches text first last := by
  have decides : Decides program text (∃ first, 0 ≤ first ∧ first ≤ text.length ∧
      ∃ last, expression.Matches text first last) program.start :=
    search?_decides regular made rfl (Nat.zero_le _) (by simp [start])
  obtain ⟨found, rfl⟩ | ⟨none, rest⟩ := decides [] answer (settles_of_run settled)
  · obtain ⟨first, -, inside, last, found⟩ := found
    simp only [true_iff]
    exact ⟨first, last, inside, found⟩
  · cases rest
    simp only [Bool.false_eq_true, false_iff]
    rintro ⟨first, last, inside, found⟩
    exact none ⟨first, Nat.zero_le _, inside, last, found⟩

end Program

end TypedJson.Backtrack
