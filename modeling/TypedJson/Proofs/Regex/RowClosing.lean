import TypedJson.Proofs.Regex.ClassClosing
import TypedJson.Proofs.Regex.Rows

namespace TypedJson.Regex.Reader

open HasRest

/-- Nothing is left of a row at the end of the text. -/
theorem sequence_nil {fuel : Nat} {memory : Memory} {done : List Expression}
    {found : Expression × Memory × List Char}
    (read : sequence fuel memory done [] = some found) : rest found = [] := by
  cases fuel with
  | zero => exact nomatch read
  | succ fuel =>
      rw [sequence, skip_nil] at read
      obtain rfl := Option.some.inj read
      rfl

/-- Nothing is left of alternatives at the end of the text. -/
theorem alternatives_nil {fuel : Nat} {memory : Memory} {done : List Expression}
    {found : Expression × Memory × List Char}
    (read : alternatives fuel memory done [] = some found) : rest found = [] := by
  cases fuel with
  | zero => exact nomatch read
  | succ fuel =>
      rw [alternatives] at read
      split at read
      · cases read
      · next here => exact absurd (sequence_nil here) (List.cons_ne_nil _ _)
      · next here =>
          obtain rfl := Option.some.inj read
          have left := sequence_nil here
          exact left

variable {fuel : Nat}

/-- Rows are read on with the parenthesis behind them. -/
def RowsCarried (fuel : Nat) : Prop :=
  ∀ memory done input, Carried (sequence fuel memory done input)
    (sequence fuel memory done (input ++ [')']))

/-- Alternatives are read on with the parenthesis behind them. -/
def ChoicesCarried (fuel : Nat) : Prop :=
  ∀ memory done input, Carried (alternatives fuel memory done input)
    (alternatives fuel memory done (input ++ [')']))

/-- The parenthesis is carried through the body of a group and what stands behind it. -/
theorem RowsCarried.body (rows : RowsCarried fuel) (choices : ChoicesCarried fuel)
    (extended : Bool) (done : List Expression) (item : Expression → Expression) (inner : Memory)
    (input : List Char) :
    Carried ((alternatives fuel inner [] input).bind (afterBody fuel extended done item))
      ((alternatives fuel inner [] (input ++ [')'])).bind
        (afterBody fuel extended done item)) := by
  refine (choices inner [] input).bind (fun (body, after, left) => ?_) ?_
  · match left with
    | [] =>
        refine .inr (.inr ⟨rfl, fun result same => ?_⟩)
        have left := sequence_nil same
        exact left
    | char :: tail =>
        by_cases closing : char = ')'
        · subst closing
          exact rows _ _ _
        · rw [afterBody_other closing, show close (body, after, char :: tail) =
            (body, after, char :: (tail ++ [')'])) from rfl, afterBody_other closing]
          exact .none
  · rintro ⟨body, after, left⟩ made rfl same
    exact nomatch same

/-- If rows carry the parenthesis then so do alternatives with one step more. -/
theorem ChoicesCarried.succ (rows : RowsCarried fuel) (choices : ChoicesCarried fuel) :
    ChoicesCarried (fuel + 1) := by
  intro memory done input
  rw [alternatives_succ, alternatives_succ]
  refine (rows memory [] input).bind (fun (item, after, left) => ?_) ?_
  · match left with
    | [] => exact .some (Expression.ofAlternation (item :: done).reverse, after, [])
    | char :: tail =>
        by_cases bar : char = '|'
        · subst bar
          exact choices _ _ _
        · rw [afterAlternative_last bar, show close (item, after, char :: tail) =
            (item, after, char :: (tail ++ [')'])) from rfl, afterAlternative_last bar]
          exact .some (Expression.ofAlternation (item :: done).reverse, after, char :: tail)
  · rintro ⟨item, after, left⟩ made rfl same
    obtain rfl := Option.some.inj same
    rfl

/-- The parenthesis is carried through what opens a group and all that follows. -/
theorem RowsCarried.afterOpening (rows : RowsCarried fuel) (choices : ChoicesCarried fuel)
    (memory : Memory) (done : List Expression) (input : List Char) :
    Carried ((opening memory input).bind (afterOpening fuel memory done))
      ((opening memory (input ++ [')'])).bind (Reader.afterOpening fuel memory done)) := by
  refine (opening_carried memory input).bind (fun (start, inner, left) => ?_) ?_
  · match start with
    | .flags list => exact rows _ _ _
    | .group list => exact rows.body choices memory.extended done (.group list) inner left
    | .capture => exact rows.body choices memory.extended done (.capture inner.opened) inner left
  · rintro ⟨start, inner, left⟩ made rfl same
    have unclosed (item : Expression → Expression) : ((alternatives fuel inner [] []).bind
        (afterBody fuel memory.extended done item)) = none := by
      cases found : alternatives fuel inner [] [] with
      | none => rfl
      | some result =>
          obtain ⟨body, after, left⟩ := result
          obtain rfl : left = [] := alternatives_nil found
          rfl
    match start with
    | .flags list =>
        have left := sequence_nil same
        exact left
    | .group list => exact nomatch (unclosed (.group list)).symm.trans same
    | .capture => exact nomatch (unclosed (.capture inner.opened)).symm.trans same

/-- The parenthesis is carried through a row, whatever the row starts with. -/
theorem RowsCarried.rowFrom (rows : RowsCarried fuel) (choices : ChoicesCarried fuel)
    (memory : Memory) (done : List Expression) (start : List Char) :
    Carried (rowFrom fuel memory done start)
      (Reader.rowFrom fuel memory done (start ++ [')'])) := by
  have goesOn (found : List Expression × List Char) :
      Carried (sequence fuel memory found.1 found.2)
        (sequence fuel memory (close found).1 (close found).2) := rows memory found.1 found.2
  have ends (found : List Expression × List Char) (made : Expression × Memory × List Char)
      (nothing : rest found = []) (same : sequence fuel memory found.1 found.2 = some made) :
      rest made = [] := by
    obtain ⟨items, left⟩ := found
    obtain rfl : left = [] := nothing
    exact sequence_nil same
  have again (extended : Bool) (low : Nat) (high : Option Nat) (left : List Char) :
      Carried ((repeated extended low high done left).bind fun found =>
          sequence fuel memory found.1 found.2)
        ((repeated extended low high done (left ++ [')'])).bind fun found =>
          sequence fuel memory found.1 found.2) :=
    (Carried.of_map (repeated_close extended low high done left)).bind goesOn ends
  cases start using rowStart_cases with
  | nil => exact .some (Expression.ofConcat done.reverse, memory, [])
  | bar tail => exact .some (Expression.ofConcat done.reverse, memory, '|' :: tail)
  | closing tail => exact .some (Expression.ofConcat done.reverse, memory, ')' :: tail)
  | opens tail => exact rows.afterOpening choices memory done tail
  | bracket tail =>
      refine (Carried.of_map (bracketClass_close memory.extended tail)).bind
        (fun found => rows memory _ found.2) ?_
      rintro ⟨set, left⟩ made rfl same
      exact sequence_nil same
  | mark tail => exact again false 0 (some 1) tail
  | star tail => exact again false 0 none tail
  | plus tail => exact again false 1 none tail
  | brace tail =>
      refine (Carried.of_map (bounds_close memory.extended tail)).bind
        (fun found => again memory.extended found.1 found.2.1 found.2.2) ?_
      rintro ⟨low, high, left⟩ made rfl same
      obtain ⟨⟨items, left⟩, here, there⟩ := Option.bind_eq_some_iff.mp same
      have shorter := length_repeated_le here
      obtain rfl : left = [] := List.length_eq_zero_iff.mp (Nat.le_zero.mp shorter)
      exact sequence_nil there
  | other char tail plain =>
      rw [List.cons_append, rowFrom_other plain, rowFrom_other plain]
      refine (simple_carried memory.extended (char :: tail)).bind
        (fun found => rows memory _ found.2) ?_
      rintro ⟨item, left⟩ made rfl same
      exact sequence_nil same

/-- If rows and alternatives carry the parenthesis then so do rows with one step more. -/
theorem RowsCarried.succ (rows : RowsCarried fuel) (choices : ChoicesCarried fuel) :
    RowsCarried (fuel + 1) := by
  intro memory done input
  rw [sequence_succ, sequence_succ]
  obtain same | ⟨here, there⟩ := skip_close memory.extended input
  · rw [same]
    exact rows.rowFrom choices memory done (skip memory.extended input)
  · rw [here, there]
    exact .of_eq fun found same => by obtain rfl := Option.some.inj same; rfl

/-- Rows and alternatives carry the parenthesis with any fuel. -/
theorem rows_and_choices_carried (fuel : Nat) : RowsCarried fuel ∧ ChoicesCarried fuel := by
  induction fuel with
  | zero => exact ⟨fun _ _ _ => .none, fun _ _ _ => .none⟩
  | succ fuel ih => exact ⟨RowsCarried.succ ih.1 ih.2, ChoicesCarried.succ ih.1 ih.2⟩

end TypedJson.Regex.Reader
