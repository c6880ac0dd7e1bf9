import TypedJson.Proofs.Regex.RowClosing

namespace TypedJson.Regex.Reader

open HasRest

variable {memory : Memory} {input inside : List Char}

/-! ### Fuel -/

/-- Alternatives are read with some fuel, and so with any more. -/
def Reads (memory : Memory) (input : List Char) (found : Expression × Memory × List Char) : Prop :=
  ∃ fuel, alternatives fuel memory [] input = some found

/-- A row is read with some fuel, and so with any more. -/
def ReadsItems (memory : Memory) (done : List Expression) (input : List Char)
    (found : Expression × Memory × List Char) : Prop :=
  ∃ fuel, sequence fuel memory done input = some found

/-- Alternatives that are read are read the same with any fuel that is enough for their text. -/
theorem alternatives_of_le {fuel more : Nat} {done : List Expression}
    {found : Expression × Memory × List Char}
    (read : alternatives fuel memory done input = some found) (most : 2 * input.length + 2 ≤ more) :
    alternatives more memory done input = some found :=
  ((sequence_alternatives_enough fuel).2 memory done input found read).2 more (by omega)

/-- A row that is read is read the same with any fuel that is enough for its text. -/
theorem sequence_of_le {fuel more : Nat} {done : List Expression}
    {found : Expression × Memory × List Char}
    (read : sequence fuel memory done input = some found) (most : 2 * input.length + 1 ≤ more) :
    sequence more memory done input = some found :=
  ((sequence_alternatives_enough fuel).1 memory done input found read).2 more (by omega)

/-- A text is read in one way only. -/
theorem Reads.unique {found other : Expression × Memory × List Char}
    (one : Reads memory input found) (two : Reads memory input other) : found = other := by
  obtain ⟨fuel, one⟩ := one
  obtain ⟨more, two⟩ := two
  exact Option.some.inj ((alternatives_of_le one (Nat.le_refl _)).symm.trans
    (alternatives_of_le two (Nat.le_refl _)))

/-- A step that reads the start of a row leaves the reading of the rest. -/
theorem ReadsItems.iff_of_step {next : Memory} {done items : List Expression} {rest : List Char}
    (step : ∀ fuel, sequence (fuel + 1) memory done input = sequence fuel next items rest)
    {found : Expression × Memory × List Char} :
    ReadsItems memory done input found ↔ ReadsItems next items rest found := by
  constructor
  · rintro ⟨_ | fuel, read⟩
    · exact nomatch read
    · exact ⟨fuel, (step fuel).symm.trans read⟩
  · rintro ⟨fuel, read⟩
    exact ⟨fuel + 1, (step fuel).trans read⟩

/-- A group is read as what it holds, and the row goes on behind its parenthesis. -/
theorem ReadsItems.group_iff {inner : Memory} {list : FlagList} {done : List Expression}
    {rest : List Char} (filled : skip memory.extended input = '(' :: rest)
    (opens : opening memory rest = some (.group list, inner, inside))
    {found : Expression × Memory × List Char} :
    ReadsItems memory done input found ↔
      ∃ body after left, Reads inner inside (body, after, ')' :: left) ∧
        ReadsItems { after with extended := memory.extended } (.group list body :: done) left
          found := by
  have step (fuel : Nat) : sequence (fuel + 1) memory done input =
      (alternatives fuel inner [] inside).bind
        (afterBody fuel memory.extended done (.group list)) := by
    rw [sequence_succ, filled]
    simp only [rowFrom, opens, Option.bind_some, afterOpening]
  constructor
  · rintro ⟨_ | fuel, read⟩
    · exact nomatch read
    · rw [step] at read
      obtain ⟨⟨body, after, left⟩, here, there⟩ := Option.bind_eq_some_iff.mp read
      match left with
      | [] => exact nomatch there
      | char :: left =>
          by_cases closing : char = ')'
          · subst closing
            exact ⟨body, after, left, ⟨fuel, here⟩, fuel, there⟩
          · exact nomatch (afterBody_other closing ..).symm.trans there
  · rintro ⟨body, after, left, ⟨fuel, here⟩, more, there⟩
    refine ⟨2 * inside.length + 2 * left.length + 3, ?_⟩
    rw [step, alternatives_of_le here (by omega), Option.bind_some]
    exact sequence_of_le there (by omega)

/-- A text is a regular expression if all of it is read as one, and it is not too deep. -/
theorem read?_eq_some_iff {expression : Expression} :
    read? input = some expression ↔
      expression.depth ≤ depthLimit ∧ ∃ after, Reads ⟨false, 0, []⟩ input (expression, after, []) := by
  unfold read?
  constructor
  · intro read
    split at read
    · next found after here =>
        split at read
        · next shallow =>
            obtain rfl := Option.some.inj read
            exact ⟨shallow, after, _, here⟩
        · exact nomatch read
    · exact nomatch read
  · rintro ⟨shallow, after, fuel, read⟩
    rw [alternatives_of_le read (by omega)]
    exact if_pos shallow

/-! ### A parenthesis behind the text -/

/-- What stands before a parenthesis and leaves it is read alone. -/
theorem Reads.of_close {expression : Expression} {after : Memory}
    (read : Reads memory (input ++ [')']) (expression, after, [')'])) :
    Reads memory input (expression, after, []) := by
  obtain ⟨fuel, read⟩ := read
  obtain ⟨⟨body, last, left⟩, here, nothing, same⟩ :=
    Carried.alone ((rows_and_choices_carried fuel).2 memory [] input) read rfl
  obtain rfl : left = [] := nothing
  obtain ⟨rfl, rfl, -⟩ := Prod.mk.injEq .. ▸ same
  exact ⟨fuel, here⟩

/-- What is read alone is read before a parenthesis, which is left or stands in a comment. -/
theorem Reads.close {expression : Expression} {after : Memory}
    (read : Reads memory input (expression, after, [])) :
    Reads memory (input ++ [')']) (expression, after, [')']) ∨
      Reads memory (input ++ [')']) (expression, after, []) := by
  obtain ⟨fuel, read⟩ := read
  obtain closed | ⟨closed, -⟩ :=
    Carried.whole ((rows_and_choices_carried fuel).2 memory [] input) read
  · exact .inl ⟨fuel, closed⟩
  · exact .inr ⟨fuel, closed⟩

/-! ### Items before the text -/

/-- No repetition may follow the last of some items, which stand in reverse. -/
def Unrepeatable (items : List Expression) : Prop :=
  ∀ item ∈ items.head?, item.isRepeatable = false

/-- Items that no repetition reaches stay below what is read. -/
theorem repeated_append {bottom : List Expression} (stops : Unrepeatable bottom) (extended : Bool)
    (low : Nat) (high : Option Nat) (done : List Expression) (input : List Char) :
    repeated extended low high (done ++ bottom) input =
      (repeated extended low high done input).map fun (items, left) => (items ++ bottom, left) := by
  cases done with
  | nil =>
      cases bottom with
      | nil => rfl
      | cons item others =>
          have fixed : item.isRepeatable = false := stops item rfl
          simp [repeated, fixed]
  | cons body done =>
      simp only [List.cons_append, repeated]
      split
      · split <;> rfl
      · rfl

/-- The items of a row that are read after some others, which stand in reverse. -/
def Continues (read : List Expression → Option (Expression × Memory × List Char)) : Prop :=
  ∃ found : Option (List Expression × Memory × List Char), ∀ bottom, Unrepeatable bottom →
    read bottom = found.map fun (items, left) =>
      (Expression.ofConcat (bottom.reverse ++ items), left)

theorem Continues.none : Continues fun _ => none := ⟨.none, fun _ _ => rfl⟩

/-- A row that ends is put above the items before it. -/
theorem Continues.done (done : List Expression) (memory : Memory) (left : List Char) :
    Continues fun bottom =>
      some (Expression.ofConcat (done ++ bottom).reverse, memory, left) :=
  ⟨some (done.reverse, memory, left), fun bottom _ => by simp⟩

/-- A row is read as the same items, whatever stands before it. -/
theorem sequence_continues (fuel : Nat) (memory : Memory) (done : List Expression)
    (input : List Char) :
    Continues fun bottom => sequence fuel memory (done ++ bottom) input := by
  induction fuel generalizing memory done input with
  | zero => exact .none
  | succ fuel ih =>
      have again (extended : Bool) (low : Nat) (high : Option Nat) (left : List Char) :
          Continues fun bottom =>
            (repeated extended low high (done ++ bottom) left).bind fun (done, rest) =>
              sequence fuel memory done rest := by
        cases here : repeated extended low high done left with
        | none =>
            refine ⟨.none, fun bottom stops => ?_⟩
            dsimp only
            rw [repeated_append stops, here]
            rfl
        | some found =>
            obtain ⟨items, rest⟩ := found
            obtain ⟨result, same⟩ := ih memory items rest
            refine ⟨result, fun bottom stops => ?_⟩
            dsimp only
            rw [repeated_append stops, here]
            exact same bottom stops
      have body (extended : Bool) (item : Expression → Expression) (inner : Memory)
          (left : List Char) : Continues fun bottom =>
            (alternatives fuel inner [] left).bind
              (afterBody fuel extended (done ++ bottom) item) := by
        cases alternatives fuel inner [] left with
        | none => exact .none
        | some found =>
            obtain ⟨body, after, _ | ⟨char, rest⟩⟩ := found
            · exact .none
            · by_cases closing : char = ')'
              · subst closing
                exact ih { after with extended } (item body :: done) rest
              · simpa [afterBody_other closing] using Continues.none
      simp only [sequence_succ]
      cases skip memory.extended input using rowStart_cases with
      | nil => exact .done done memory []
      | bar tail => exact .done done memory ('|' :: tail)
      | closing tail => exact .done done memory (')' :: tail)
      | opens tail =>
          simp only [rowFrom]
          cases opening memory tail with
          | none => exact .none
          | some opened =>
              obtain ⟨kind, inner, left⟩ := opened
              cases kind with
              | flags list => exact ih inner (.flags list :: done) left
              | group list => exact body memory.extended (.group list) inner left
              | capture => exact body memory.extended (.capture inner.opened) inner left
      | bracket tail =>
          simp only [rowFrom]
          cases bracketClass memory.extended tail with
          | none => exact .none
          | some found => exact ih memory (.set found.1 :: done) found.2
      | mark tail => exact again false 0 (some 1) tail
      | star tail => exact again false 0 none tail
      | plus tail => exact again false 1 none tail
      | brace tail =>
          simp only [rowFrom]
          cases bounds memory.extended tail with
          | none => exact .none
          | some found => exact again memory.extended found.1 found.2.1 found.2.2
      | other char tail plain =>
          simp only [rowFrom_other plain]
          cases simple memory.extended (char :: tail) with
          | none => exact .none
          | some found => exact ih memory (found.1 :: done) found.2

/-- Alternatives are read as the same items, whatever stands before them. -/
theorem alternatives_continue (fuel : Nat) (memory : Memory) (input : List Char) :
    ∃ found : Option (List Expression × Memory × List Char),
      ∀ done, alternatives fuel memory done input =
        found.map fun (items, left) => (Expression.ofAlternation (done.reverse ++ items), left) := by
  induction fuel generalizing memory input with
  | zero => exact ⟨none, fun _ => rfl⟩
  | succ fuel ih =>
      simp only [alternatives_succ]
      match sequence fuel memory [] input with
      | none => exact ⟨none, fun _ => rfl⟩
      | some (item, after, []) => exact ⟨some ([item], after, []), fun done => by
          simp [afterAlternative]⟩
      | some (item, after, char :: rest) =>
          by_cases bar : char = '|'
          · subst bar
            obtain ⟨found, same⟩ := ih after rest
            refine ⟨found.map fun (items, left) => (item :: items, left), fun done => ?_⟩
            rw [Option.bind_some, afterAlternative, same, Option.map_map]
            simp [Function.comp_def]
          · refine ⟨some ([item], after, char :: rest), fun done => ?_⟩
            rw [Option.bind_some, afterAlternative_last bar]
            simp

/-- What follows the first alternative is read with some fuel, and so with any more. -/
def Follows (first found : Expression × Memory × List Char) : Prop :=
  ∃ fuel, afterAlternative fuel [] first = some found

/-- What follows an alternative is read the same with any fuel that is enough for it. -/
theorem afterAlternative_of_le {fuel more : Nat} {item : Expression} {left : List Char}
    {found : Expression × Memory × List Char}
    (read : afterAlternative fuel [] (item, memory, left) = some found)
    (most : 2 * left.length ≤ more) : afterAlternative more [] (item, memory, left) = some found := by
  match left with
  | [] => exact read
  | char :: rest =>
      by_cases bar : char = '|'
      · subst bar
        exact alternatives_of_le read most
      · rw [afterAlternative_last bar] at read ⊢
        exact read

/-- Alternatives are read as a first row and what follows it. -/
theorem reads_iff {found : Expression × Memory × List Char} :
    Reads memory input found ↔
      ∃ first, ReadsItems memory [] input first ∧ Follows first found := by
  constructor
  · rintro ⟨_ | fuel, read⟩
    · exact nomatch read
    · rw [alternatives_succ] at read
      obtain ⟨first, here, there⟩ := Option.bind_eq_some_iff.mp read
      exact ⟨first, ⟨fuel, here⟩, fuel, there⟩
  · rintro ⟨⟨item, after, left⟩, ⟨fuel, here⟩, more, there⟩
    refine ⟨2 * input.length + 2 * left.length + 2, ?_⟩
    rw [alternatives_succ, sequence_of_le here (by omega), Option.bind_some]
    exact afterAlternative_of_le there (by omega)

/-- The items of a row may be read after others. -/
theorem ReadsItems.after {bottom : List Expression} {item : Expression} {after : Memory}
    {left : List Char} (stops : Unrepeatable bottom)
    (read : ReadsItems memory bottom input (item, after, left)) :
    ∃ items, item = Expression.ofConcat (bottom.reverse ++ items) ∧
      ∀ other, Unrepeatable other →
        ReadsItems memory other input (Expression.ofConcat (other.reverse ++ items), after, left) := by
  obtain ⟨fuel, read⟩ := read
  obtain ⟨found, same⟩ := sequence_continues fuel memory [] input
  obtain ⟨⟨items, last⟩, rfl, here⟩ := Option.map_eq_some_iff.mp ((same bottom stops).symm.trans read)
  obtain ⟨rfl, rfl⟩ := Prod.mk.inj here
  exact ⟨items, rfl, fun other stops => ⟨fuel, same other stops⟩⟩

/-- The alternatives after the first one may stand after another. -/
theorem Follows.after {item : Expression} {left : List Char}
    {found : Expression × Memory × List Char} (follows : Follows (item, memory, left) found) :
    ∃ others, found.1 = Expression.ofAlternation (item :: others) ∧
      ∀ other, Follows (other, memory, left)
        (Expression.ofAlternation (other :: others), found.2) := by
  obtain ⟨fuel, read⟩ := follows
  match left with
  | [] =>
      obtain rfl := Option.some.inj read
      exact ⟨[], rfl, fun other => ⟨fuel, rfl⟩⟩
  | char :: rest =>
      by_cases bar : char = '|'
      · subst bar
        obtain ⟨result, same⟩ := alternatives_continue fuel memory rest
        obtain ⟨⟨others, last⟩, rfl, rfl⟩ :=
          Option.map_eq_some_iff.mp ((same [item]).symm.trans read)
        exact ⟨others, rfl, fun other => ⟨fuel, same [other]⟩⟩
      · rw [afterAlternative_last bar] at read
        obtain rfl := Option.some.inj read
        exact ⟨[], rfl, fun other => ⟨fuel, afterAlternative_last bar ..⟩⟩

end TypedJson.Regex.Reader
