import TypedJson.Proofs.Backtrack.Moving

namespace TypedJson.Backtrack.Reader

variable {memory after inner : Memory} {input rest : List Char} {item : Expression} {size : Nat}

/--
A reader spends the input, also for each group that it opens, and what it reads in one place it reads
in another: with fuel for what it spends, with no more groups around and in a pattern with room for
the groups. It takes `least` characters, and `cost` and `slack` are what it needs beyond the
characters. -/
def Moves (least cost slack : Nat) (read : Nat → Nat → Memory → List Char → Option Reading)
    (fuel : Nat) : Prop :=
  ∀ {depth memory input item after rest}, read fuel depth memory input = some (item, after, rest) →
    (rest.length + least ≤ input.length ∧
      2 * after.opened + rest.length ≤ 2 * memory.opened + input.length ∧
      after.size = memory.size) ∧
    ∀ {more lower size}, lower ≤ depth → 4 * input.length + cost ≤ 4 * rest.length + more →
      2 * memory.opened + input.length + slack ≤ size + rest.length →
      read more lower (memory.resize size) input = some (item, after.resize size, rest)

/-- Alternatives move, whatever was read before them. -/
def ChoicesMove (fuel : Nat) : Prop :=
  ∀ done, Moves 0 2 0 (fun fuel depth memory => alternatives fuel depth memory done) fuel

/-- Rows move, whatever was read before them. -/
def RowsMove (fuel : Nat) : Prop :=
  ∀ done, Moves 0 1 0 (fun fuel depth memory => sequence fuel depth memory done) fuel

/-- Pieces move; each takes at least one character. -/
def PiecesMove (fuel : Nat) : Prop := Moves 1 0 0 piece fuel

/-- Conditionals move with the two parentheses that end their test and their branches. -/
def ConditionalsMove (fuel : Nat) : Prop := Moves 2 0 0 conditional fuel

/-- Tests move; the parenthesis after a test pays for its steps. -/
def TestsMove (fuel : Nat) : Prop := Moves 0 3 1 test fuel

variable {fuel : Nat}

/-- Alternatives move if rows and, with less fuel, alternatives do. -/
theorem ChoicesMove.succ (rows : RowsMove fuel) (choices : ChoicesMove fuel) :
    ChoicesMove (fuel + 1) := by
  intro done depth memory input item after rest read
  dsimp only at read ⊢
  rw [alternatives_succ] at read
  obtain ⟨⟨first, middle, left⟩, row, follows⟩ := Option.bind_eq_some_iff.mp read
  obtain ⟨start, skipped, follows⟩ := Option.bind_eq_some_iff.mp follows
  obtain ⟨⟨less, opened, sized⟩, moves⟩ := rows [] row
  have shorter := length_skip_le skipped
  by_cases bar : ∃ tail, start = '|' :: tail
  · obtain ⟨tail, rfl⟩ := bar
    rw [List.length_cons] at shorter
    obtain ⟨⟨lessToo, openedToo, sizedToo⟩, movesToo⟩ := choices (first :: done) follows
    refine ⟨⟨by omega, by omega, by omega⟩, fun {more lower size} lowest enough room => ?_⟩
    obtain ⟨more, rfl⟩ := Nat.exists_eq_add_one_of_ne_zero (n := more) (by omega)
    have again : sequence more lower (memory.resize size) [] input =
        some (first, middle.resize size, left) := moves lowest (by omega) (by omega)
    rw [alternatives_succ, again, Option.bind_some]
    dsimp only
    rw [skip_resize, skipped]
    exact movesToo lowest (by omega) (by omega)
  · rw [not_exists] at bar
    rw [afterMark_last bar] at follows
    obtain ⟨found, made, same⟩ := Option.map_eq_some_iff.mp follows
    obtain ⟨rfl, rfl, rfl⟩ := Prod.mk.injEq .. ▸ same
    refine ⟨⟨by omega, by omega, by omega⟩, fun {more lower size} lowest enough room => ?_⟩
    obtain ⟨more, rfl⟩ := Nat.exists_eq_add_one_of_ne_zero (n := more) (by omega)
    have again : sequence more lower (memory.resize size) [] input =
        some (first, after.resize size, left) := moves lowest (by omega) (by omega)
    rw [alternatives_succ, again, Option.bind_some]
    dsimp only
    rw [skip_resize, skipped, Option.bind_some, afterMark_last bar,
      show choiceOf done first (after.resize size) = some found from made]
    rfl

/-- Rows move if pieces and, with less fuel, rows do. -/
theorem RowsMove.succ (rows : RowsMove fuel) (pieces : PiecesMove fuel) : RowsMove (fuel + 1) := by
  intro done depth memory input item after rest read
  dsimp only at read ⊢
  rw [sequence_succ] at read
  obtain ⟨start, skipped, read⟩ := Option.bind_eq_some_iff.mp read
  have shorter := length_skip_le skipped
  unfold rowFrom at read
  split at read
  · next ends =>
      obtain ⟨rfl, rfl, rfl⟩ := Prod.mk.injEq .. ▸ Option.some.inj read
      refine ⟨⟨by omega, by omega, by omega⟩, fun {more lower size} lowest enough room => ?_⟩
      obtain ⟨more, rfl⟩ := Nat.exists_eq_add_one_of_ne_zero (n := more) (by omega)
      rw [sequence_succ, skip_resize, skipped, Option.bind_some, rowFrom, if_pos ends]
  · next goesOn =>
      obtain ⟨⟨found, middle, left⟩, here, follows⟩ := Option.bind_eq_some_iff.mp read
      obtain ⟨⟨whole, next⟩, counted, row⟩ := Option.bind_eq_some_iff.mp follows
      obtain ⟨⟨less, opened, sized⟩, moves⟩ := pieces here
      have shorterToo := length_withRepetition_le counted
      obtain ⟨⟨lessToo, openedToo, sizedToo⟩, movesToo⟩ := rows _ row
      refine ⟨⟨by omega, by omega, by omega⟩, fun {more lower size} lowest enough room => ?_⟩
      obtain ⟨more, rfl⟩ := Nat.exists_eq_add_one_of_ne_zero (n := more) (by omega)
      have again : piece more lower (memory.resize size) start =
          some (found, middle.resize size, left) := moves lowest (by omega) (by omega)
      rw [sequence_succ, skip_resize, skipped, Option.bind_some, rowFrom, if_neg goesOn, again,
        Option.bind_some, afterPiece, withRepetition_resize, counted]
      exact movesToo lowest (by omega) (by omega)

/-- Tests of conditionals move if alternatives do. -/
theorem TestsMove.succ (choices : ChoicesMove fuel) : TestsMove (fuel + 1) := by
  intro depth memory input item after rest read
  match input with
  | [] => rw [test_nil] at read; cases read
  | char :: tail =>
      have named {first last : List Char}
          (read : (name first last true (char :: tail)).bind (namedTest memory) =
            some (item, after, rest)) :
          after = memory ∧ rest.length < (char :: tail).length ∧ ∀ size,
            (name first last true (char :: tail)).bind (namedTest (memory.resize size)) =
              some (item, after.resize size, rest) := by
        obtain ⟨⟨found, left⟩, here, made⟩ := Option.bind_eq_some_iff.mp read
        obtain ⟨expression, refers, same⟩ := Option.map_eq_some_iff.mp made
        obtain ⟨rfl, rfl, rfl⟩ := Prod.mk.injEq .. ▸ same
        refine ⟨rfl, length_name_lt here, fun size => ?_⟩
        rw [here, Option.bind_some, namedTest, namedReference_resize, refers]
        rfl
      have reference (same : after = memory) (shorter : rest.length < (char :: tail).length) :
          rest.length + 0 ≤ (char :: tail).length ∧
            2 * after.opened + rest.length ≤ 2 * memory.opened + (char :: tail).length ∧
            after.size = memory.size := by
        rw [same]
        exact ⟨by omega, by omega, rfl⟩
      rw [test_succ] at read
      split at read
      · next quote =>
          obtain ⟨same, shorter, again⟩ := named read
          refine ⟨reference same shorter, fun {more lower size} lowest enough room => ?_⟩
          obtain ⟨more, rfl⟩ := Nat.exists_eq_add_one_of_ne_zero (n := more) (by omega)
          rw [test_succ, if_pos quote]
          exact again size
      split at read
      · next quote angle =>
          obtain ⟨same, shorter, again⟩ := named read
          refine ⟨reference same shorter, fun {more lower size} lowest enough room => ?_⟩
          obtain ⟨more, rfl⟩ := Nat.exists_eq_add_one_of_ne_zero (n := more) (by omega)
          rw [test_succ, if_neg quote, if_pos angle]
          exact again size
      split at read
      · next quote angle digit =>
          have shorter := length_numberedReference_lt read
          obtain ⟨opened, sized⟩ := numberedReference_level read
          refine ⟨⟨by omega, by omega, by omega⟩, fun {more lower size} lowest enough room => ?_⟩
          obtain ⟨more, rfl⟩ := Nat.exists_eq_add_one_of_ne_zero (n := more) (by omega)
          rw [test_succ, if_neg quote, if_neg angle, if_pos digit]
          exact numberedReference_resize read (by omega)
      · next quote angle digit =>
          obtain ⟨spent, moves⟩ := choices [] read
          refine ⟨spent, fun {more lower size} lowest enough room => ?_⟩
          obtain ⟨more, rfl⟩ := Nat.exists_eq_add_one_of_ne_zero (n := more) (by omega)
          rw [test_succ, if_neg quote, if_neg angle, if_neg digit]
          exact moves lowest (by omega) (by omega)

/-- Conditionals move if their tests and alternatives do. -/
theorem ConditionalsMove.succ (tests : TestsMove fuel) (choices : ChoicesMove fuel) :
    ConditionalsMove (fuel + 1) := by
  intro depth memory input item after rest read
  rw [conditional_succ] at read
  obtain ⟨⟨question, middle, left⟩, here, follows⟩ := Option.bind_eq_some_iff.mp read
  obtain ⟨start, closes, follows⟩ := Option.bind_eq_some_iff.mp follows
  obtain ⟨⟨body, last, final⟩, inside, follows⟩ := Option.bind_eq_some_iff.mp follows
  obtain ⟨closed, closesToo, follows⟩ := Option.bind_eq_some_iff.mp follows
  obtain ⟨found, made, same⟩ := Option.map_eq_some_iff.mp follows
  obtain ⟨rfl, rfl, rfl⟩ := Prod.mk.injEq .. ▸ same
  obtain ⟨⟨less, opened, sized⟩, moves⟩ := tests here
  obtain ⟨⟨lessToo, openedToo, sizedToo⟩, movesToo⟩ := choices [] inside
  have shorter := length_close_lt closes
  have shorterToo := length_close_lt closesToo
  refine ⟨⟨by omega, by omega, by omega⟩, fun {more lower size} lowest enough room => ?_⟩
  obtain ⟨more, rfl⟩ := Nat.exists_eq_add_one_of_ne_zero (n := more) (by omega)
  have again : test more lower (memory.resize size) input =
      some (question, middle.resize size, left) := moves lowest (by omega) (by omega)
  have againToo : alternatives more lower (middle.resize size) [] start =
      some (body, after.resize size, final) := movesToo lowest (by omega) (by omega)
  rw [conditional_succ, again, Option.bind_some, afterTest, close_resize, closes, Option.bind_some,
    againToo, Option.bind_some, afterBranches, close_resize, closesToo, Option.bind_some, made]
  rfl

/-- The kinds of groups whose body is closed by any parenthesis after blanks and comments. -/
inductive Opening.IsGroup : Opening → Prop
  | capture : IsGroup .capture
  | atomic : IsGroup .atomic
  | lookAround (behind negated : Bool) : IsGroup (.lookAround behind negated)

/-- What follows the start of a group is its alternatives and a parenthesis. -/
theorem afterOpening_group {kind : Opening} (group : kind.IsGroup) (fuel depth : Nat)
    (memory inner : Memory) (start : List Char) :
    afterOpening fuel depth memory (kind, inner, start) =
      (alternatives fuel (depth + 1) inner [] start).bind (afterGroup kind inner.opened) := by
  cases group <;> rfl

/-- Groups move if alternatives do. -/
theorem moves_group {kind : Opening} (group : kind.IsGroup) {start : List Char}
    (choices : ChoicesMove fuel) {depth : Nat} (shorter : start.length ≤ input.length)
    (opened : inner.opened ≤ memory.opened + 1) (sized : inner.size = memory.size)
    (read : afterOpening fuel depth memory (kind, inner, start) = some (item, after, rest)) :
    (rest.length ≤ input.length ∧
      2 * after.opened + rest.length ≤ 2 * memory.opened + input.length + 1 ∧
      after.size = memory.size) ∧
    ∀ {more lower size}, lower ≤ depth → 4 * input.length + 3 ≤ 4 * rest.length + more →
      2 * memory.opened + input.length + 1 ≤ size + rest.length →
      afterOpening more lower (memory.resize size) (kind, inner.resize size, start) =
        some (item, after.resize size, rest) := by
  rw [afterOpening_group group] at read
  obtain ⟨⟨body, last, left⟩, here, follows⟩ := Option.bind_eq_some_iff.mp read
  obtain ⟨closed, closes, same⟩ := Option.map_eq_some_iff.mp follows
  obtain ⟨rfl, rfl, rfl⟩ := Prod.mk.injEq .. ▸ same
  obtain ⟨⟨less, openedToo, sizedToo⟩, moves⟩ := choices [] here
  have shorterToo := length_close_lt closes
  refine ⟨⟨by omega, by omega, by omega⟩, fun {more lower size} lowest enough room => ?_⟩
  have again : alternatives more (lower + 1) (inner.resize size) [] start =
      some (body, after.resize size, left) :=
    moves (by omega) (by omega) (by omega)
  rw [afterOpening_group group, again, Option.bind_some, afterGroup, close_resize, closes]
  rfl

/-- What follows the start of a group moves with it. -/
theorem moves_afterOpening {kind : Opening} {start : List Char} (choices : ChoicesMove fuel)
    (conditionals : ConditionalsMove fuel) {depth : Nat}
    (opens : opening memory input = some (kind, inner, start))
    (read : afterOpening fuel depth memory (kind, inner, start) = some (item, after, rest)) :
    (rest.length ≤ input.length ∧
      2 * after.opened + rest.length ≤ 2 * memory.opened + input.length + 1 ∧
      after.size = memory.size) ∧
    ∀ {more lower size}, lower ≤ depth → 4 * input.length + 3 ≤ 4 * rest.length + more →
      2 * memory.opened + input.length + 1 ≤ size + rest.length →
      afterOpening more lower (memory.resize size) (kind, inner.resize size, start) =
        some (item, after.resize size, rest) := by
  have shorter := length_opening_le opens
  obtain ⟨most, sized⟩ : inner.opened ≤ memory.opened + 1 ∧ inner.size = memory.size := by
    obtain level | ⟨-, opened, sized⟩ := level_opening opens
    · exact ⟨level.opened ▸ Nat.le_succ _, level.size⟩
    · exact ⟨Nat.le_of_eq opened, sized⟩
  have same (other : kind ≠ .capture) : inner.opened = memory.opened :=
    ((level_opening opens).resolve_right fun capture => other capture.1).opened
  cases kind with
  | nothing =>
      have same := same (by simp)
      obtain ⟨rfl, rfl, rfl⟩ := Prod.mk.injEq .. ▸ Option.some.inj read
      exact ⟨⟨by omega, by omega, by omega⟩, fun _ _ _ => rfl⟩
  | reference expression =>
      have same := same (by simp)
      obtain ⟨rfl, rfl, rfl⟩ := Prod.mk.injEq .. ▸ Option.some.inj read
      exact ⟨⟨by omega, by omega, by omega⟩, fun _ _ _ => rfl⟩
  | conditional =>
      have same := same (by simp)
      have shorterStill := length_opening_conditional opens
      obtain ⟨⟨less, openedToo, sizedToo⟩, moves⟩ := conditionals read
      exact ⟨⟨by omega, by omega, by omega⟩, fun lowest enough room =>
        moves (by omega) (by omega) (by omega)⟩
  | plain =>
      have same := same (by simp)
      obtain ⟨⟨body, last, left⟩, here, follows⟩ := Option.bind_eq_some_iff.mp read
      obtain ⟨⟨less, openedToo, sizedToo⟩, moves⟩ := choices [] here
      match left with
      | [] => cases follows
      | char :: left =>
          by_cases closing : char = ')'
          · subst closing
            obtain ⟨rfl, rfl, rfl⟩ := Prod.mk.injEq .. ▸ Option.some.inj follows
            rw [List.length_cons] at less openedToo moves
            have kept : (last.withFlagsOf memory).opened = last.opened := rfl
            have keptToo : (last.withFlagsOf memory).size = last.size := rfl
            refine ⟨⟨by omega, by omega, by omega⟩, fun {more lower size} lowest enough room => ?_⟩
            have again : alternatives more (lower + 1) (inner.resize size) [] start =
                some (body, last.resize size, ')' :: rest) :=
              moves (by omega) (by omega) (by omega)
            rw [afterOpening, again]
            rfl
          · simp [afterPlain, closing] at follows
  | capture => exact moves_group .capture choices shorter most sized read
  | atomic => exact moves_group .atomic choices shorter most sized read
  | lookAround behind negated =>
    exact moves_group (.lookAround behind negated) choices shorter most sized read

/-- Pieces move if alternatives and conditionals do. -/
theorem PiecesMove.succ (choices : ChoicesMove fuel) (conditionals : ConditionalsMove fuel) :
    PiecesMove (fuel + 1) := by
  intro depth memory input item after rest read
  match input with
  | [] => rw [piece_nil] at read; cases read
  | char :: tail =>
      rw [List.length_cons]
      by_cases group : char = '('
      · subst group
        rw [piece_group] at read
        split at read
        · cases read
        · next shallow =>
            obtain ⟨⟨kind, inner, start⟩, opens, follows⟩ := Option.bind_eq_some_iff.mp read
            obtain ⟨⟨less, opened, sized⟩, moves⟩ := moves_afterOpening choices conditionals opens follows
            refine ⟨⟨by omega, by omega, by omega⟩, fun {more lower size} lowest enough room => ?_⟩
            obtain ⟨more, rfl⟩ := Nat.exists_eq_add_one_of_ne_zero (n := more) (by omega)
            rw [piece_group, if_neg (by omega), opening_resize, opens]
            exact moves lowest (by omega) (by omega)
      · rw [piece_simple group] at read
        split at read
        · cases read
        · next plain =>
            have shorter := length_simple_lt read
            obtain ⟨opened, sized⟩ := simple_level read
            rw [List.length_cons] at shorter
            refine ⟨⟨by omega, by omega, by omega⟩, fun {more lower size} lowest enough room => ?_⟩
            obtain ⟨more, rfl⟩ := Nat.exists_eq_add_one_of_ne_zero (n := more) (by omega)
            rw [piece_simple group, if_neg plain]
            exact simple_resize read (by rw [List.length_cons]; omega)

/-- Whatever is read with some fuel moves to other places. -/
structure Movable (fuel : Nat) : Prop where
  choices : ChoicesMove fuel
  rows : RowsMove fuel
  pieces : PiecesMove fuel
  conditionals : ConditionalsMove fuel
  tests : TestsMove fuel

/-- A reader that reads nothing moves. -/
theorem moves_nothing {least cost slack : Nat}
    (read : Nat → Nat → Memory → List Char → Option Reading)
    (nothing : ∀ depth memory input, read fuel depth memory input = none) :
    Moves least cost slack read fuel := by
  intro depth memory input item after rest given
  rw [nothing] at given
  cases given

/-- All readers move, by induction on the fuel. -/
theorem movable (fuel : Nat) : Movable fuel := by
  induction fuel with
  | zero =>
      constructor
      · exact fun done => moves_nothing (fun fuel depth memory => alternatives fuel depth memory done)
          fun _ _ _ => by rw [alternatives]
      · exact fun done => moves_nothing (fun fuel depth memory => sequence fuel depth memory done)
          fun _ _ _ => by rw [sequence]
      · exact moves_nothing piece fun _ _ _ => by rw [piece]
      · exact moves_nothing conditional fun _ _ _ => by rw [conditional]
      · exact moves_nothing test fun _ _ _ => by rw [test]
  | succ fuel ih =>
      constructor
      · exact ChoicesMove.succ ih.rows ih.choices
      · exact RowsMove.succ ih.rows ih.pieces
      · exact PiecesMove.succ ih.choices ih.conditionals
      · exact ConditionalsMove.succ ih.tests ih.choices
      · exact TestsMove.succ ih.choices

end TypedJson.Backtrack.Reader
