import TypedJson.Proofs.Backtrack.Machine
import TypedJson.Proofs.Backtrack.Matches

namespace TypedJson.Backtrack

open Expression (Regular)

/-- Some instructions stand in a program from an address on. -/
def Program.Holds (program : Program) (start : Nat) (code : List Instruction) : Prop :=
  ∀ index instruction, code[index]? = some instruction →
    program.code[start + index]? = some instruction

/-- A program holds instructions if it holds the first and, behind it, the others. -/
theorem Program.holds_cons {program : Program} {start : Nat} {instruction : Instruction}
    {code : List Instruction} :
    program.Holds start (instruction :: code) ↔
      program.code[start]? = some instruction ∧ program.Holds (start + 1) code := by
  constructor
  · intro holds
    refine ⟨holds 0 instruction rfl, fun index other found => ?_⟩
    rw [Nat.add_assoc, Nat.add_comm 1 index]
    exact holds (index + 1) other found
  · rintro ⟨first, rest⟩ index other found
    cases index with
    | zero =>
        obtain rfl := Option.some.inj found
        exact first
    | succ index =>
        rw [Nat.add_comm index 1, ← Nat.add_assoc]
        exact rest index other found

/-- A program holds two lists of instructions one behind the other. -/
theorem Program.holds_append {program : Program} {start : Nat} {code more : List Instruction} :
    program.Holds start (code ++ more) ↔
      program.Holds start code ∧ program.Holds (start + code.length) more := by
  induction code generalizing start with
  | nil => simp [Holds]
  | cons instruction rest ih =>
      rw [List.cons_append, holds_cons, holds_cons, ih, List.length_cons, and_assoc,
        Nat.add_assoc start 1, Nat.add_comm 1]

/-- The instruction that a program holds at an address is the one that runs there. -/
theorem Program.step_of_holds {program : Program} {state : State} {code : List Instruction}
    {instruction : Instruction} (holds : program.Holds state.address (instruction :: code))
    (text : Array Char) (pending : Nat) :
    program.step text pending state = instruction.step text pending state := by
  rw [Program.step, (Program.holds_cons.mp holds).1]

/-- Slots from a base up to a top are the same in two states. -/
structure Agrees (base top : Nat) (before after : State) : Prop where
  size : after.slots.size = before.slots.size
  same : ∀ index, base ≤ index → index < top → after.slots[index]? = before.slots[index]?

namespace Agrees

variable {base top : Nat} {state middle last : State}

theorem refl (base top : Nat) (state : State) : Agrees base top state state :=
  ⟨rfl, fun _ _ _ => rfl⟩

theorem trans (one : Agrees base top state middle) (two : Agrees base top middle last) :
    Agrees base top state last :=
  ⟨two.size.trans one.size, fun index least less =>
    (two.same index least less).trans (one.same index least less)⟩

theorem mono {lower : Nat} (agrees : Agrees base top state last) (less : lower ≤ top) :
    Agrees base lower state last :=
  ⟨agrees.size, fun index least below => agrees.same index least (Nat.lt_of_lt_of_le below less)⟩

/-- Slots that are kept outside of the range do not count. -/
theorem keep {slot value : Nat} (outside : slot < base ∨ top ≤ slot) :
    Agrees base top state (state.keep slot value) := by
  refine ⟨by simp [State.keep], fun index least less => ?_⟩
  exact Array.getElem?_setIfInBounds_ne (by omega)

end Agrees

namespace Expression

variable {text : List Char} {groups : Nat}

/-- An ordinary expression has no groups but those of the expression it was made of. -/
theorem groups_plain? {expression : Expression} (regular : Regular groups expression)
    {regex : Regex} (plain : expression.plain? = some regex) :
    ∀ index ∈ regex.groups, index ≤ groups := by
  induction regular generalizing regex with
  | empty =>
      obtain rfl := Option.some.inj plain
      simp [Regex.groups]
  | anyChar lineFeed =>
      obtain rfl := Option.some.inj plain
      simp [Regex.groups]
  | condition look =>
      obtain rfl := Option.some.inj plain
      simp [Regex.groups]
  | literal char ignoreCase =>
      obtain rfl := Option.some.inj plain
      simp [Regex.groups]
  | set set =>
      obtain rfl := Option.some.inj plain
      simp [Regex.groups]
  | concat all ih =>
      rw [plain?, Option.map_eq_some_iff] at plain
      obtain ⟨regexes, plain, rfl⟩ := plain
      exact groupsOfAll ih plain
  | alternation nonempty all ih =>
      rw [plain?, Option.map_eq_some_iff] at plain
      obtain ⟨regexes, plain, rfl⟩ := plain
      exact groupsOfAll ih plain
  | group known inner ih =>
      rw [plain?, Option.map_eq_some_iff] at plain
      obtain ⟨regex, plain, rfl⟩ := plain
      rw [Regex.groups, List.forall_mem_cons]
      exact ⟨known, ih plain⟩
  | lookAround easy sized inner ih => simp [plain?] at plain
  | rounds ordered inner ih =>
      rw [plain?] at plain
      split at plain
      · simp at plain
      · rw [Option.map_eq_some_iff] at plain
        obtain ⟨regex, plain, rfl⟩ := plain
        intro index inside
        exact ih plain index inside
where
  groupsOfAll {items : List Expression} {regexes : List Regex}
      (all : ∀ item ∈ items, ∀ {regex : Regex}, item.plain? = some regex →
        ∀ index ∈ regex.groups, index ≤ groups)
      (plain : plainAll? items = some regexes) :
      ∀ index ∈ Regex.groupsOfAll regexes, index ≤ groups := by
    induction items generalizing regexes with
    | nil =>
        obtain rfl := Option.some.inj plain
        simp [Regex.groupsOfAll]
    | cons item rest ih =>
        simp only [plainAll?, Option.bind_eq_bind, Option.bind_eq_some_iff,
          Option.pure_def] at plain
        obtain ⟨regex, first, others, more, made⟩ := plain
        obtain rfl := Option.some.inj made
        rw [List.forall_mem_cons] at all
        rw [Regex.groupsOfAll, List.forall_mem_append]
        exact ⟨all.1 first, ih all.2 more⟩

/-- A text is made of literals that keep their case. -/
theorem literals_eq_some {items : List Expression} {chars : List Char}
    (read : literalText?.literals items = some chars) :
    items = chars.map fun char => literal char false := by
  induction items generalizing chars with
  | nil =>
      obtain rfl := Option.some.inj read
      rfl
  | cons item rest ih =>
      unfold literalText?.literals at read
      split at read
      · simp_all
      · rename_i char others same
        obtain ⟨rfl, rfl⟩ := List.cons.inj same
        rw [Option.map_eq_some_iff] at read
        obtain ⟨more, read, rfl⟩ := read
        rw [ih read]
        rfl
      · simp at read

/-- A row of literals matches where its text stands. -/
theorem matchesRow_literals {chars : List Char} {first last : Nat} :
    MatchesRow text (chars.map fun char => literal char false) first last ↔
      standsAt text.toArray first chars = true ∧ last = first + chars.length := by
  induction chars generalizing first with
  | nil => simp [MatchesRow, standsAt, eq_comm]
  | cons char rest ih =>
      simp only [List.map_cons, MatchesRow, ih, standsAt, Bool.and_eq_true, beq_iff_eq,
        List.getElem?_toArray, List.length_cons, Matches, Regex.Matches,
        Regex.CharSet.contains_single, Bool.false_eq_true, if_false]
      constructor
      · rintro ⟨_, ⟨⟨_, here, rfl⟩, rfl⟩, others, rfl⟩
        exact ⟨⟨here, others⟩, by omega⟩
      · rintro ⟨⟨here, others⟩, rfl⟩
        exact ⟨first + 1, ⟨⟨char, here, rfl⟩, rfl⟩, others, by omega⟩

/-- Groups are kept below the slots for counts. -/
theorem agrees_takeGroups (state : State) (way : Regex.Way) {indices : List Nat}
    (known : ∀ index ∈ indices, index ≤ groups) (top : Nat) :
    Agrees (2 * (groups + 1)) top state (state.takeGroups way indices) := by
  induction indices generalizing state with
  | nil => exact .refl _ _ state
  | cons index rest ih =>
      rw [List.forall_mem_cons] at known
      have first : Agrees (2 * (groups + 1)) top state (state.takeGroups way [index]) := by
        refine ⟨by simp [State.takeGroups], fun slot least _ => ?_⟩
        simp only [State.takeGroups, List.foldl_cons, List.foldl_nil]
        rw [Array.getElem?_setIfInBounds_ne (by omega), Array.getElem?_setIfInBounds_ne (by omega)]
      exact first.trans (ih (state.takeGroups way [index]) known.2)

/--
What a run without backtracking does in one step: it moves to the end of a match of its items, or
fails because there is none.
-/
theorem step_plainRun {program : Program} {items : List Expression}
    (regular : ∀ item ∈ items, Regular groups item) (nonempty : items ≠ [])
    {code : List Instruction} (made : plainRun? items = some code) {state : State}
    (holds : program.Holds state.address code) (inside : state.position ≤ text.length) :
    code.length = 1 ∧
    ((∃ next : State, (∀ pending, program.step text.toArray pending state = .goOn next) ∧
        next.address = state.address + 1 ∧ MatchesRow text items state.position next.position ∧
        ∀ top, Agrees (2 * (groups + 1)) top state next) ∨
      ((∀ pending, program.step text.toArray pending state = .fail) ∧
        ∀ last, ¬MatchesRow text items state.position last)) := by
  unfold plainRun? at made
  split at made
  · exact absurd rfl nonempty
  · split at made
    · rename_i chars read
      obtain rfl := Option.some.inj made
      refine ⟨rfl, ?_⟩
      obtain rfl := literals_eq_some read
      have step (pending : Nat) := program.step_of_holds holds text.toArray pending
      simp only [step, Instruction.step, matchesRow_literals]
      by_cases stands : standsAt text.toArray state.position chars = true
      · refine .inl ⟨state.nextFrom (state.position + chars.length), fun _ => if_pos stands, rfl,
          ⟨stands, rfl⟩, fun _ => ⟨rfl, fun _ _ _ => rfl⟩⟩
      · refine .inr ?_
        simp [stands]
    · simp only [Option.bind_eq_bind, Option.bind_eq_some_iff] at made
      obtain ⟨regex, plain, made⟩ := made
      split at made
      · obtain rfl := Option.some.inj made
        refine ⟨rfl, ?_⟩
        have step (pending : Nat) := program.step_of_holds holds text.toArray pending
        obtain ⟨sound, complete⟩ := Regex.Automaton.match?_ofRegex text regex inside
        have row : Regular groups (concat items) := .concat regular
        have same (last : Nat) : Regex.Matches text regex state.position last ↔
            (concat items).Matches text state.position last :=
          matches_plain? row plain state.position last
        simp only [step, Instruction.step]
        cases found : (Regex.Automaton.ofRegex regex).match? text.toArray state.position with
        | none =>
            refine .inr ⟨fun _ => rfl, fun last here => ?_⟩
            obtain ⟨way, given⟩ := complete last ((same last).mpr here)
            simp [found] at given
        | some way =>
            refine .inl ⟨_, fun _ => rfl, rfl, (same way.position).mp (sound way found), ?_⟩
            intro top
            have agrees := agrees_takeGroups state way (groups_plain? row plain) top
            exact ⟨agrees.size, agrees.same⟩
      · simp at made

end Expression

end TypedJson.Backtrack
