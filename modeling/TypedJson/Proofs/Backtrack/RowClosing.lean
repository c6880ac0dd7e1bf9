import TypedJson.Proofs.Backtrack.RowMoving

namespace TypedJson.Backtrack.Reader

open HasRest

variable {fuel : Nat}

/-! ### Nothing left -/

/-- A row of nothing leaves nothing. -/
theorem sequence_nil {depth : Nat} {memory : Memory} {done : List Expression} {found : Reading}
    (read : sequence fuel depth memory done [] = some found) : rest found = [] :=
  List.length_eq_zero_iff.mp (Nat.le_zero.mp ((movable fuel).rows done read).1.1)

/-- Alternatives of nothing leave nothing. -/
theorem alternatives_nil {depth : Nat} {memory : Memory} {done : List Expression} {found : Reading}
    (read : alternatives fuel depth memory done [] = some found) : rest found = [] :=
  List.length_eq_zero_iff.mp (Nat.le_zero.mp ((movable fuel).choices done read).1.1)

/-- Nothing closes no group. -/
theorem close_nil (memory : Memory) : Reader.close memory [] = none := by
  rw [Reader.close, skip_nil]
  rfl

/-- A conditional is longer than one character. -/
theorem conditional_short {depth : Nat} {memory : Memory} {input : List Char}
    (short : input.length < 2) : conditional fuel depth memory input = none := by
  cases read : conditional fuel depth memory input with
  | none => rfl
  | some found =>
      have longer := ((movable fuel).conditionals read).1.1
      omega

/-! ### Rows and groups -/

/-- Alternatives are read on with the parenthesis behind them. -/
def ChoicesCarried (fuel : Nat) : Prop :=
  ∀ depth memory done input, Carried (alternatives fuel depth memory done input)
    (alternatives fuel depth memory done (input ++ [')']))

/-- Rows are read on with the parenthesis behind them. -/
def RowsCarried (fuel : Nat) : Prop :=
  ∀ depth memory done input, Carried (sequence fuel depth memory done input)
    (sequence fuel depth memory done (input ++ [')']))

def PiecesCarried (fuel : Nat) : Prop :=
  ∀ depth memory input, Carried (piece fuel depth memory input)
    (piece fuel depth memory (input ++ [')']))

def ConditionalsCarried (fuel : Nat) : Prop :=
  ∀ depth memory input, Carried (conditional fuel depth memory input)
    (conditional fuel depth memory (input ++ [')']))

/-- The parenthesis alone would be read as an empty test. -/
def TestsCarried (fuel : Nat) : Prop :=
  ∀ depth memory char tail, Carried (test fuel depth memory (char :: tail))
    (test fuel depth memory (char :: tail ++ [')']))

/-- Alternatives are read on if rows and, with less fuel, alternatives are. -/
theorem ChoicesCarried.succ (rows : RowsCarried fuel) (choices : ChoicesCarried fuel) :
    ChoicesCarried (fuel + 1) := by
  intro depth memory done input
  rw [alternatives_succ, alternatives_succ]
  refine (rows depth memory [] input).bind (fun (item, after, left) => ?_) ?_
  · refine (skip_carried after left).bind (fun start => ?_) ?_
    · by_cases bar : ∃ tail, start = '|' :: tail
      · obtain ⟨tail, rfl⟩ := bar
        exact choices depth after (item :: done) tail
      · rw [not_exists] at bar
        have longer : ∀ tail, HasRest.close start ≠ '|' :: tail := by
          intro tail same
          match start with
          | [] => exact absurd (List.cons.inj same).1 (by decide)
          | char :: left => exact bar left (congrArg (· :: left) (List.cons.inj same).1)
        rw [afterMark_last bar, afterMark_last longer]
        cases choiceOf done item after with
        | none => exact .none
        | some found => exact .some (found, after, start)
    · rintro start made rfl same
      rw [afterMark_last (by simp)] at same
      obtain ⟨found, -, rfl⟩ := Option.map_eq_some_iff.mp same
      rfl
  · rintro ⟨item, after, left⟩ made rfl same
    dsimp only at same
    rw [skip_nil, Option.bind_some, afterMark_last (by simp)] at same
    obtain ⟨found, -, rfl⟩ := Option.map_eq_some_iff.mp same
    rfl

/-- Rows are read on if pieces and, with less fuel, rows are. -/
theorem RowsCarried.succ (rows : RowsCarried fuel) (pieces : PiecesCarried fuel) :
    RowsCarried (fuel + 1) := by
  intro depth memory done input
  rw [sequence_succ, sequence_succ]
  refine (skip_carried memory input).bind (fun start => ?_) ?_
  · cases start with
    | nil => exact .some (Expression.ofConcat done.reverse, memory, [])
    | cons char tail =>
        have same : rowFrom fuel depth memory done (HasRest.close (char :: tail)) =
            if char = '|' ∨ char = ')' then
              some (Expression.ofConcat done.reverse, memory, char :: (tail ++ [')']))
            else (piece fuel depth memory (char :: tail ++ [')'])).bind
              (afterPiece fuel depth done) := by
          simp [rowFrom, HasRest.close]
        have sameToo : rowFrom fuel depth memory done (char :: tail) =
            if char = '|' ∨ char = ')' then
              some (Expression.ofConcat done.reverse, memory, char :: tail)
            else (piece fuel depth memory (char :: tail)).bind (afterPiece fuel depth done) := by
          simp [rowFrom]
        rw [same, sameToo]
        split
        · exact .some (Expression.ofConcat done.reverse, memory, char :: tail)
        · refine (pieces depth memory (char :: tail)).bind ?_ ?_
          · rintro ⟨item, after, left⟩
            refine (withRepetition_carried after item left).bind ?_ ?_
            · rintro ⟨item, left⟩
              exact rows depth after _ left
            · rintro ⟨item, left⟩ made rfl same
              exact sequence_nil same
          · rintro ⟨item, after, left⟩ made rfl same
            rw [afterPiece] at same
            obtain ⟨⟨whole, next⟩, counted, row⟩ := Option.bind_eq_some_iff.mp same
            have shorter := length_withRepetition_le counted
            obtain rfl : next = [] := List.length_eq_zero_iff.mp (Nat.le_zero.mp shorter)
            exact sequence_nil row
  · rintro start made rfl same
    obtain rfl := Option.some.inj same
    rfl

/-- Tests of conditionals are read on if alternatives are. -/
theorem TestsCarried.succ (choices : ChoicesCarried fuel) : TestsCarried (fuel + 1) := by
  intro depth memory char tail
  have named {first last : List Char} (plain : ')' ∉ first) (plainToo : ')' ∉ last) :
      Carried ((name first last true (char :: tail)).bind (namedTest memory))
        ((name first last true (char :: tail ++ [')'])).bind (namedTest memory)) := by
    refine (name_carried plain (.inl plainToo) true (char :: tail)).bind
      (fun (found, left) => ?_) ?_
    · simp only [HasRest.close, namedTest]
      cases namedReference memory found with
      | none => exact .none
      | some expression => exact .some (expression, memory, left)
    · rintro ⟨found, left⟩ made rfl same
      obtain ⟨expression, -, rfl⟩ := Option.map_eq_some_iff.mp same
      rfl
  rw [List.cons_append, test_succ, test_succ]
  split
  · exact named (by decide) (by decide)
  split
  · exact named (by decide) (by decide)
  split
  · exact .of_map (numberedReference_close memory (char :: tail))
  · exact choices depth memory [] (char :: tail)

/-- Branches without a parenthesis behind them make no conditional. -/
theorem unclosed (question : Expression) (before : Nat) {found : Reading}
    (nothing : rest found = []) : afterBranches question before found = none := by
  obtain ⟨body, last, left⟩ := found
  obtain rfl : left = [] := nothing
  rw [afterBranches, close_nil]
  rfl

/-- Conditionals are read on if their tests and alternatives are. -/
theorem ConditionalsCarried.succ (tests : TestsCarried fuel) (choices : ChoicesCarried fuel) :
    ConditionalsCarried (fuel + 1) := by
  intro depth memory input
  rw [conditional_succ, conditional_succ]
  have branches (question : Expression) (middle : Memory) (left : List Char) :
      Carried ((alternatives fuel depth middle [] left).bind (afterBranches question left.length))
        ((alternatives fuel depth middle [] (left ++ [')'])).bind
          (afterBranches question (left ++ [')']).length)) := by
    obtain ⟨found, here, there⟩ | ⟨found, here, there, nothing⟩ | ⟨here, nothing⟩ :=
      choices depth middle [] left
    · obtain ⟨body, last, final⟩ := found
      have alone : ((final ++ [')']).length == (left ++ [')']).length) =
          (final.length == left.length) := by
        simp
      rw [here, there]
      simp only [Option.bind_some, afterBranches, HasRest.close, alone]
      refine (close_carried last final).bind (fun closed => ?_) ?_
      · cases conditionalOf question body (final.length == left.length) with
        | none => exact .none
        | some item => exact .some (item, last, closed)
      · rintro closed made rfl same
        obtain ⟨item, -, rfl⟩ := Option.map_eq_some_iff.mp same
        rfl
    · rw [here, there, Option.bind_some, Option.bind_some, unclosed question _ nothing,
        unclosed question _ nothing]
      exact .none
    · rw [here]
      refine .inr (.inr ⟨rfl, fun made same => ?_⟩)
      obtain ⟨found, there, same⟩ := Option.bind_eq_some_iff.mp same
      cases (unclosed question _ (nothing found there)).symm.trans same
  cases input with
  | nil =>
      rw [← conditional_succ, ← conditional_succ, conditional_short (by simp),
        conditional_short (by simp)]
      exact .none
  | cons char tail =>
      refine (tests depth memory char tail).bind ?_ ?_
      · rintro ⟨question, middle, left⟩
        refine (close_carried middle left).bind (fun start => branches question middle start) ?_
        rintro start made rfl same
        obtain ⟨found, inside, same⟩ := Option.bind_eq_some_iff.mp same
        cases (unclosed question 0 (alternatives_nil inside)).symm.trans same
      · rintro ⟨question, middle, left⟩ made rfl same
        rw [afterTest, close_nil] at same
        cases same

/-- Behind the start of a group there may be nothing, unless the group has a body. -/
theorem afterOpening_nil {depth : Nat} {memory inner : Memory} {kind : Opening} {found : Reading}
    (read : afterOpening fuel depth memory (kind, inner, []) = some found) : rest found = [] := by
  have unclosed {after : Reading → Option Reading}
      (none : ∀ made, rest made = [] → after made = none) :
      (alternatives fuel (depth + 1) inner [] []).bind after ≠ some found := by
    intro same
    obtain ⟨made, inside, same⟩ := Option.bind_eq_some_iff.mp same
    cases (none made (alternatives_nil inside)).symm.trans same
  have group (grouped : kind.IsGroup) : rest found = [] := by
    rw [afterOpening_group grouped] at read
    refine absurd read (unclosed ?_)
    rintro ⟨body, after, left⟩ rfl
    rw [afterGroup, close_nil]
    rfl
  cases kind with
  | nothing =>
      obtain rfl := Option.some.inj read
      rfl
  | reference expression =>
      obtain rfl := Option.some.inj read
      rfl
  | conditional =>
      rw [afterOpening, conditional_short (by simp)] at read
      cases read
  | plain =>
      refine absurd read (unclosed ?_)
      rintro ⟨body, after, left⟩ rfl
      rfl
  | capture => exact group .capture
  | atomic => exact group .atomic
  | lookAround behind negated => exact group (.lookAround behind negated)

/-- Groups are read on if alternatives are. -/
theorem carried_group {kind : Opening} (group : kind.IsGroup) (choices : ChoicesCarried fuel)
    (depth : Nat) (memory inner : Memory) (start : List Char) :
    Carried (afterOpening fuel depth memory (kind, inner, start))
      (afterOpening fuel depth memory (kind, inner, start ++ [')'])) := by
  rw [afterOpening_group group, afterOpening_group group]
  refine (choices (depth + 1) inner [] start).bind ?_ ?_
  · rintro ⟨body, after, left⟩
    refine (close_carried after left).map (fun _ => rfl) fun _ => rfl
  · rintro ⟨body, after, left⟩ made rfl same
    rw [afterGroup, close_nil] at same
    cases same

/-- What follows the start of a group is read on with the parenthesis behind it. -/
theorem carried_afterOpening (choices : ChoicesCarried fuel)
    (conditionals : ConditionalsCarried fuel) (depth : Nat) (memory : Memory) (kind : Opening)
    (inner : Memory) (start : List Char) :
    Carried (afterOpening fuel depth memory (kind, inner, start))
      (afterOpening fuel depth memory (kind, inner, start ++ [')'])) := by
  cases kind with
  | nothing => exact .some (Expression.empty, inner, start)
  | reference expression => exact .some (expression, inner, start)
  | conditional => exact conditionals (depth + 1) inner start
  | plain =>
      refine (choices (depth + 1) inner [] start).bind ?_ ?_
      · rintro ⟨body, after, left⟩
        cases left with
        | nil =>
            refine .inr (.inr ⟨rfl, fun made same => ?_⟩)
            obtain rfl := Option.some.inj same
            rfl
        | cons char tail =>
            by_cases closing : char = ')'
            · subst closing
              exact .some (body, after.withFlagsOf memory, tail)
            · have nothing (left : List Char) : afterPlain memory (body, after, char :: left) = none := by
                simp [afterPlain, closing]
              rw [nothing, show HasRest.close (body, after, char :: tail) =
                (body, after, char :: (tail ++ [')'])) from rfl, nothing]
              exact .none
      · rintro ⟨body, after, left⟩ made rfl same
        cases same
  | capture => exact carried_group .capture choices depth memory inner start
  | atomic => exact carried_group .atomic choices depth memory inner start
  | lookAround behind negated =>
      exact carried_group (.lookAround behind negated) choices depth memory inner start

/-- Pieces are read on if alternatives and conditionals are. -/
theorem PiecesCarried.succ (choices : ChoicesCarried fuel) (conditionals : ConditionalsCarried fuel) :
    PiecesCarried (fuel + 1) := by
  intro depth memory input
  match input with
  | [] =>
      rw [piece_nil]
      refine .inr (.inr ⟨rfl, fun made same => ?_⟩)
      rw [List.nil_append, piece_simple (by decide), if_neg (by decide)] at same
      obtain rfl := Option.some.inj same
      rfl
  | char :: tail =>
      rw [List.cons_append]
      by_cases group : char = '('
      · subst group
        rw [piece_group, piece_group]
        split
        · exact .none
        · refine (opening_carried memory tail).bind (fun (kind, inner, start) =>
            carried_afterOpening choices conditionals depth memory kind inner start) ?_
          rintro ⟨kind, inner, start⟩ made rfl same
          exact afterOpening_nil same
      · rw [piece_simple group, piece_simple group]
        split
        · exact .none
        · exact simple_carried memory (char :: tail)

/-- Whatever is read with some fuel is read on with the parenthesis behind it. -/
structure Closable (fuel : Nat) : Prop where
  choices : ChoicesCarried fuel
  rows : RowsCarried fuel
  pieces : PiecesCarried fuel
  conditionals : ConditionalsCarried fuel
  tests : TestsCarried fuel

/-- All readers read on with the parenthesis behind, by induction on the fuel. -/
theorem closable (fuel : Nat) : Closable fuel := by
  induction fuel with
  | zero =>
      constructor
      · intro depth memory done input
        rw [alternatives, alternatives]
        exact .none
      · intro depth memory done input
        rw [sequence, sequence]
        exact .none
      · intro depth memory input
        rw [piece, piece]
        exact .none
      · intro depth memory input
        rw [conditional, conditional]
        exact .none
      · intro depth memory char tail
        rw [test, test]
        exact .none
  | succ fuel ih =>
      constructor
      · exact ChoicesCarried.succ ih.rows ih.choices
      · exact RowsCarried.succ ih.rows ih.pieces
      · exact PiecesCarried.succ ih.choices ih.conditionals
      · exact ConditionalsCarried.succ ih.tests ih.choices
      · exact TestsCarried.succ ih.choices

end TypedJson.Backtrack.Reader
