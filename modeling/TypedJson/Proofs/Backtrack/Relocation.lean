import TypedJson.Backtrack.Program

namespace TypedJson.Backtrack

/-- The same instruction in a program in which all addresses are later. -/
def Instruction.relocate (further : Nat) : Instruction → Instruction
  | split first second => split (first + further) (second + further)
  | jump target => jump (target + further)
  | countRound low high next slot greedy => countRound low high (next + further) slot greedy
  | movingRound low next slot start greedy => movingRound low (next + further) slot start greedy
  | other => other

@[simp] theorem Instruction.relocate_jump (further target : Nat) :
    (jump target).relocate further = jump (target + further) := rfl

@[simp] theorem Instruction.relocate_split (further first second : Nat) :
    (split first second).relocate further = split (first + further) (second + further) := rfl

def Layout.relocate (further : Nat) (layout : Layout) : Layout :=
  ⟨layout.code.map (Instruction.relocate further), layout.slots⟩

@[simp] theorem Layout.slots_relocate (further : Nat) (layout : Layout) :
    (layout.relocate further).slots = layout.slots := rfl

@[simp] theorem Layout.code_relocate (further : Nat) (layout : Layout) :
    (layout.relocate further).code = layout.code.map (Instruction.relocate further) := rfl

namespace Expression

variable {further : Nat}

/-- What runs without backtracking has no addresses. -/
theorem plainRun?_relocate (further : Nat) {items : List Expression} {code : List Instruction}
    (run : plainRun? items = some code) : code.map (Instruction.relocate further) = code := by
  unfold plainRun? at run
  split at run
  · obtain rfl := Option.some.inj run
    rfl
  · split at run
    · obtain rfl := Option.some.inj run
      rfl
    · obtain ⟨regex, -, made⟩ := Option.bind_eq_some_iff.mp run
      split at made
      · obtain rfl := Option.some.inj made
        rfl
      · cases made

/-- A part is laid out from a later address with all addresses later. -/
def Relocates (further : Nat) (lay : Nat → Nat → Option Layout) : Prop :=
  ∀ start slots, lay (start + further) slots = (lay start slots).map (Layout.relocate further)

/-- Instructions for ordinary items name no address. -/
theorem relocates_run (further : Nat) (items : List Expression) :
    Relocates further fun _ slots => (plainRun? items).map fun code => ⟨code, slots⟩ := by
  intro start slots
  cases run : plainRun? items with
  | none => rfl
  | some code => simp [Layout.relocate, plainRun?_relocate further run]

/-- Rounds are laid out alike at every address if their body is. -/
theorem relocates_rounds {body : Nat → Nat → Option Layout} (relocates : Relocates further body)
    (minSize low : Nat) (high : Option Nat) (greedy : Bool) :
    Relocates further fun start slots =>
      roundsLayout? minSize low high greedy start slots body := by
  have splits (first second : Nat) : Instruction.relocate further
      (if greedy then .split first second else .split second first) =
        if greedy then .split (first + further) (second + further)
        else .split (second + further) (first + further) := by
    cases greedy <;> rfl
  intro start slots
  unfold roundsLayout?
  simp only [Nat.add_right_comm _ further, relocates (start + 1), relocates (start + 2), relocates start,
    Option.bind_eq_bind, Option.pure_def]
  split
  · cases body (start + 1) slots with
    | none => rfl
    | some round => simp [Layout.relocate, splits]
  split
  · cases body (start + 2) (slots + 2) with
    | none => rfl
    | some round => simp [Layout.relocate, Instruction.relocate]
  split
  · cases body (start + 1) slots with
    | none => rfl
    | some round => simp [Layout.relocate, splits]
  split
  · cases body start slots with
    | none => rfl
    | some round => simp [Layout.relocate, splits]
  · cases body (start + 2) (slots + 1) with
    | none => rfl
    | some round => simp [Layout.relocate, Instruction.relocate]

/-- A look-around is laid out alike at every address if its body is. -/
theorem relocates_around {body : Nat → Nat → Option Layout} (relocates : Relocates further body)
    (behind negated : Bool) (expression : Expression) :
    Relocates further fun start slots =>
      aroundLayout? behind negated expression start slots body := by
  intro start slots
  unfold aroundLayout?
  cases moves : startBehind behind expression with
  | none => rfl
  | some back =>
      have still : back.map (Instruction.relocate further) = back := by
        unfold startBehind at moves
        split at moves
        · split at moves
          · obtain rfl := Option.some.inj moves
            rfl
          · cases moves
        · obtain rfl := Option.some.inj moves
          rfl
      simp only [Nat.add_right_comm _ further, relocates (start + 1 + back.length), Option.bind_eq_bind,
        Option.bind_some, Option.pure_def]
      split
      · cases body (start + 1 + back.length) slots with
        | none => rfl
        | some inner =>
            simp [Layout.relocate, Instruction.relocate, still]
      · cases body (start + 1 + back.length) (slots + 1) with
        | none => rfl
        | some inner => simp [Layout.relocate, Instruction.relocate, still]

mutual

/-- An expression is laid out alike at every address. -/
theorem relocates_layout (further : Nat) (hard : Bool) (expression : Expression) :
    Relocates further fun start slots => layout? hard start slots expression := by
  intro start slots
  dsimp only
  rw [layout?.eq_def, layout?.eq_def]
  split
  · exact relocates_run further [expression] start slots
  · match expression with
    | empty => rfl
    | anyChar lineFeed => rfl
    | condition look => rfl
    | literal char ignoreCase => exact relocates_run further [literal char ignoreCase] start slots
    | set regex => exact relocates_run further [set regex] start slots
    | concat items =>
        dsimp only
        cases before : plainRun? (items.take (runs hard items).1) with
        | none => rfl
        | some code =>
            have inside := relocates_row further (runs hard items).1 (runs hard items).2 items
              (start + code.length) slots
            simp only [Option.bind_eq_bind, Option.bind_some, Nat.add_right_comm _ further, inside]
            cases rowLayout? (start + code.length) slots (runs hard items).1 (runs hard items).2
                items with
            | none => rfl
            | some layout =>
                simp only [Option.map_some, Option.bind_some]
                cases after : plainRun? (items.drop ((runs hard items).1 + (runs hard items).2)) with
                | none => rfl
                | some last =>
                    simp [Layout.relocate, plainRun?_relocate further before,
                      plainRun?_relocate further after]
    | alternation items => exact relocates_choice further hard items start slots
    | group index body =>
        have inner := relocates_layout further hard body (start + 1) slots
        simp only [Nat.add_right_comm _ further, inner, Option.bind_eq_bind]
        cases layout? hard (start + 1) slots body with
        | none => rfl
        | some layout => simp [Layout.relocate, Instruction.relocate]
    | lookAround behind negated body =>
        cases body with
        | alternation items =>
            dsimp only
            split
            · split
              · exact relocates_behindAll further items start slots
              · exact relocates_behindAny further items start slots
            · exact relocates_around (relocates_layout further false (alternation items)) behind
                negated (alternation items) start slots
        | _ =>
            exact relocates_around (relocates_layout further false _) behind negated _ start slots
    | rounds body low high greedy =>
        exact relocates_rounds (relocates_layout further _ body) body.minSize low high greedy start slots
    | backReference index => rfl
    | atomic body =>
        have inner := relocates_layout further false body (start + 1) slots
        simp only [Nat.add_right_comm _ further, inner, Option.bind_eq_bind]
        cases layout? false (start + 1) slots body with
        | none => rfl
        | some layout => simp [Layout.relocate, Instruction.relocate]
    | keepOut => rfl
    | searchStart => rfl
    | groupSet index => rfl
    | conditional test yes no =>
        have tests := relocates_layout further hard test (start + 2) slots
        simp only [Nat.add_right_comm _ further, tests, Option.bind_eq_bind]
        cases layout? hard (start + 2) slots test with
        | none => rfl
        | some test =>
            have first := relocates_layout further hard yes (start + 3 + test.code.length) test.slots
            simp only [Option.map_some, Option.bind_some, Layout.code_relocate, Layout.slots_relocate,
              List.length_map, first]
            cases layout? hard (start + 3 + test.code.length) test.slots yes with
            | none => rfl
            | some yes =>
                have second := relocates_layout further hard no
                  (start + 3 + test.code.length + yes.code.length + 1) yes.slots
                simp only [Option.map_some, Option.bind_some, Layout.code_relocate,
                  Layout.slots_relocate, List.length_map, second]
                cases layout? hard (start + 3 + test.code.length + yes.code.length + 1) yes.slots
                    no with
                | none => rfl
                | some no =>
                    simp [Layout.relocate, Instruction.relocate]

/-- A row is laid out alike at every address. -/
theorem relocates_row (further first count : Nat) (items : List Expression) :
    Relocates further fun start slots => rowLayout? start slots first count items := by
  intro start slots
  match items with
  | [] => rfl
  | item :: rest =>
      dsimp only
      rw [rowLayout?, rowLayout?]
      split
      · exact relocates_row further (first - 1) count rest start slots
      split
      · rfl
      · have one := relocates_layout further true item start slots
        simp only [one, Option.bind_eq_bind]
        cases layout? true start slots item with
        | none => rfl
        | some layout =>
            have others := relocates_row further 0 (count - 1) rest (start + layout.code.length)
              layout.slots
            simp only [Option.map_some, Option.bind_some, Layout.code_relocate,
              Layout.slots_relocate, List.length_map, Nat.add_right_comm _ further, others]
            cases rowLayout? (start + layout.code.length) layout.slots 0 (count - 1) rest with
            | none => rfl
            | some more => simp [Layout.relocate]

/-- A choice is laid out alike at every address. -/
theorem relocates_choice (further : Nat) (hard : Bool) (items : List Expression) :
    Relocates further fun start slots => choiceLayout? hard start slots items := by
  intro start slots
  match items with
  | [] => rfl
  | [item] => exact relocates_layout further hard item start slots
  | item :: next :: rest =>
      have one := relocates_layout further hard item (start + 1) slots
      simp only [choiceLayout?, Nat.add_right_comm _ further, one, Option.bind_eq_bind]
      cases layout? hard (start + 1) slots item with
      | none => rfl
      | some layout =>
          have others := relocates_choice further hard (next :: rest)
            (start + 2 + layout.code.length) layout.slots
          simp only [Option.map_some, Option.bind_some, Layout.code_relocate, Layout.slots_relocate,
            List.length_map, others]
          cases choiceLayout? hard (start + 2 + layout.code.length) layout.slots (next :: rest) with
          | none => rfl
          | some more => simp [Layout.relocate]

/-- A look-behind of one of several is laid out alike at every address. -/
theorem relocates_behindAny (further : Nat) (items : List Expression) :
    Relocates further fun start slots => behindAny? start slots items := by
  intro start slots
  match items with
  | [] => rfl
  | [item] => exact relocates_around (relocates_layout further false item) true false item start slots
  | item :: next :: rest =>
      have one := relocates_around (relocates_layout further false item) true false item
        (start + 1) slots
      simp only [behindAny?, Nat.add_right_comm _ further, Option.bind_eq_bind] at one ⊢
      rw [one]
      cases aroundLayout? true false item (start + 1) slots
          fun start slots => layout? false start slots item with
      | none => rfl
      | some layout =>
          have others := relocates_behindAny further (next :: rest)
            (start + 2 + layout.code.length) layout.slots
          simp only [Option.map_some, Option.bind_some, Layout.code_relocate, Layout.slots_relocate,
            List.length_map, others]
          cases behindAny? (start + 2 + layout.code.length) layout.slots (next :: rest) with
          | none => rfl
          | some more => simp [Layout.relocate]

/-- A negated look-behind of each of several is laid out alike at every address. -/
theorem relocates_behindAll (further : Nat) (items : List Expression) :
    Relocates further fun start slots => behindAll? start slots items := by
  intro start slots
  match items with
  | [] => rfl
  | item :: rest =>
      have one := relocates_around (relocates_layout further false item) true true item start slots
      simp only [behindAll?, Option.bind_eq_bind] at one ⊢
      rw [one]
      cases aroundLayout? true true item start slots
          fun start slots => layout? false start slots item with
      | none => rfl
      | some layout =>
          have others := relocates_behindAll further rest (start + layout.code.length) layout.slots
          simp only [Option.map_some, Option.bind_some, Layout.code_relocate, Layout.slots_relocate,
            List.length_map, Nat.add_right_comm _ further, others]
          cases behindAll? (start + layout.code.length) layout.slots rest with
          | none => rfl
          | some more => simp [Layout.relocate]

end

end Expression

end TypedJson.Backtrack
