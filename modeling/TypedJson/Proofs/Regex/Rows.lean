import TypedJson.Proofs.Regex.Left

namespace TypedJson.Regex.Reader

/-! ### Steps -/

/-- What follows the body of a group, which its parenthesis closes. -/
def afterBody (fuel : Nat) (extended : Bool) (done : List Expression)
    (item : Expression → Expression) :
    Expression × Memory × List Char → Option (Expression × Memory × List Char)
  | (body, after, ')' :: rest) => sequence fuel { after with extended } (item body :: done) rest
  | _ => none

/-- Nothing is read behind a body that no parenthesis closes. -/
theorem afterBody_other {char : Char} (other : char ≠ ')') (fuel : Nat) (extended : Bool)
    (done : List Expression) (item : Expression → Expression) (body : Expression) (after : Memory)
    (rest : List Char) :
    afterBody fuel extended done item (body, after, char :: rest) = none := by
  simp [afterBody, other]

/-- What follows an alternative: another one, or the end of all. -/
def afterAlternative (fuel : Nat) (done : List Expression) :
    Expression × Memory × List Char → Option (Expression × Memory × List Char)
  | (item, memory, '|' :: rest) => alternatives fuel memory (item :: done) rest
  | (item, memory, rest) => some (Expression.ofAlternation (item :: done).reverse, memory, rest)

/-- Alternatives end before any character but a bar. -/
theorem afterAlternative_last {char : Char} (other : char ≠ '|') (fuel : Nat)
    (done : List Expression) (item : Expression) (memory : Memory) (rest : List Char) :
    afterAlternative fuel done (item, memory, char :: rest) =
      some (Expression.ofAlternation (item :: done).reverse, memory, char :: rest) := by
  unfold afterAlternative
  split
  · next same => exact absurd (List.cons.inj (Prod.mk.inj (Prod.mk.inj same).2).2).1 other
  · next same =>
      cases same
      rfl

/-- Alternatives are a row and what follows it. -/
theorem alternatives_succ (fuel : Nat) (memory : Memory) (done : List Expression)
    (input : List Char) : alternatives (fuel + 1) memory done input =
      (sequence fuel memory [] input).bind (afterAlternative fuel done) := by
  rw [alternatives]
  split
  · next nothing => rw [nothing, Option.bind_none]
  · next here => rw [here]; rfl
  · next left other here =>
      rw [here, Option.bind_some]
      unfold afterAlternative
      split
      · next same =>
          obtain ⟨rfl, rfl, rfl⟩ := same
          exact (other _ rfl).elim
      · next same =>
          obtain ⟨rfl, rfl, rfl⟩ := same
          rfl

/-- What follows the start of a group. -/
def afterOpening (fuel : Nat) (memory : Memory) (done : List Expression) :
    Opening × Memory × List Char → Option (Expression × Memory × List Char)
  | (.flags list, inner, rest) => sequence fuel inner (.flags list :: done) rest
  | (.group list, inner, rest) =>
    (alternatives fuel inner [] rest).bind (afterBody fuel memory.extended done (.group list))
  | (.capture, inner, rest) =>
    (alternatives fuel inner [] rest).bind
      (afterBody fuel memory.extended done (.capture inner.opened))

/-- A row from a character that counts. -/
def rowFrom (fuel : Nat) (memory : Memory) (done : List Expression) :
    List Char → Option (Expression × Memory × List Char)
  | [] => some (Expression.ofConcat done.reverse, memory, [])
  | '|' :: rest => some (Expression.ofConcat done.reverse, memory, '|' :: rest)
  | ')' :: rest => some (Expression.ofConcat done.reverse, memory, ')' :: rest)
  | '(' :: rest => (opening memory rest).bind (afterOpening fuel memory done)
  | '[' :: rest =>
    (bracketClass memory.extended rest).bind fun (set, rest) =>
      sequence fuel memory (.set set :: done) rest
  | '?' :: rest =>
    (repeated false 0 (some 1) done rest).bind fun (done, rest) => sequence fuel memory done rest
  | '*' :: rest =>
    (repeated false 0 none done rest).bind fun (done, rest) => sequence fuel memory done rest
  | '+' :: rest =>
    (repeated false 1 none done rest).bind fun (done, rest) => sequence fuel memory done rest
  | '{' :: rest =>
    (bounds memory.extended rest).bind fun (low, high, rest) =>
      (repeated memory.extended low high done rest).bind fun (done, rest) =>
        sequence fuel memory done rest
  | input =>
    (simple memory.extended input).bind fun (item, rest) =>
      sequence fuel memory (item :: done) rest

/-- The reading goes on behind the body of a group. -/
theorem bind_afterBody (fuel : Nat) (extended : Bool) (done : List Expression)
    (item : Expression → Expression) (found : Option (Expression × Memory × List Char)) :
    (match found with
      | some (body, after, ')' :: rest) =>
        sequence fuel { after with extended } (item body :: done) rest
      | _ => none) = found.bind (afterBody fuel extended done item) := by
  cases found with
  | none => rfl
  | some found =>
      obtain ⟨body, after, _ | ⟨char, left⟩⟩ := found
      · rfl
      · by_cases closing : char = ')'
        · subst closing
          rfl
        · rw [Option.bind_some, afterBody_other closing]
          simp [closing]

/-- The reading goes on behind what opens a group. -/
theorem bind_afterOpening (fuel : Nat) (memory : Memory) (done : List Expression)
    (found : Option (Opening × Memory × List Char)) :
    (match found with
      | none => none
      | some (.flags list, memory, rest) => sequence fuel memory (.flags list :: done) rest
      | some (.group list, inner, rest) =>
        match alternatives fuel inner [] rest with
        | some (body, after, ')' :: rest) =>
          sequence fuel { after with extended := memory.extended } (.group list body :: done) rest
        | _ => none
      | some (.capture, inner, rest) =>
        match alternatives fuel inner [] rest with
        | some (body, after, ')' :: rest) =>
          sequence fuel { after with extended := memory.extended }
            (.capture inner.opened body :: done) rest
        | _ => none) = found.bind (afterOpening fuel memory done) := by
  cases found with
  | none => rfl
  | some found =>
      obtain ⟨_ | list | _, inner, rest⟩ := found
      · rfl
      · exact bind_afterBody fuel memory.extended done (.group list) _
      · exact bind_afterBody fuel memory.extended done (.capture inner.opened) _

/-- The reading goes on behind a class in brackets. -/
theorem bind_bracketClass (fuel : Nat) (memory : Memory) (done : List Expression)
    (found : Option (ClassExpression × List Char)) :
    (match found with
      | some (set, rest) => sequence fuel memory (.set set :: done) rest
      | none => none) =
      found.bind fun (set, rest) => sequence fuel memory (.set set :: done) rest := by
  cases found <;> rfl

/-- The reading goes on behind a repetition. -/
theorem bind_repeated (fuel : Nat) (memory : Memory)
    (found : Option (List Expression × List Char)) :
    (match found with
      | some (done, rest) => sequence fuel memory done rest
      | none => none) = found.bind fun (done, rest) => sequence fuel memory done rest := by
  cases found <;> rfl

/-- The reading goes on behind the bounds of a repetition. -/
theorem bind_bounds (fuel : Nat) (memory : Memory) (done : List Expression)
    (found : Option (Nat × Option Nat × List Char)) :
    (match found with
      | some (low, high, rest) =>
        match repeated memory.extended low high done rest with
        | some (done, rest) => sequence fuel memory done rest
        | none => none
      | none => none) =
      found.bind fun (low, high, rest) =>
        (repeated memory.extended low high done rest).bind fun (done, rest) =>
          sequence fuel memory done rest := by
  cases found with
  | none => rfl
  | some found => exact bind_repeated fuel memory _

/-- The reading goes on behind a single item. -/
theorem bind_simple (fuel : Nat) (memory : Memory) (done : List Expression)
    (found : Option (Expression × List Char)) :
    (match found with
      | some (item, rest) => sequence fuel memory (item :: done) rest
      | none => none) =
      found.bind fun (item, rest) => sequence fuel memory (item :: done) rest := by
  cases found <;> rfl

/-- The characters that mean something of their own at the start of a row. -/
def rowSigns : List Char := ['|', ')', '(', '[', '?', '*', '+', '{']

/-- A row ends, or starts with a sign or with a single item. -/
@[elab_as_elim]
theorem rowStart_cases {motive : List Char → Prop} (nil : motive [])
    (bar : ∀ tail, motive ('|' :: tail)) (closing : ∀ tail, motive (')' :: tail))
    (opens : ∀ tail, motive ('(' :: tail)) (bracket : ∀ tail, motive ('[' :: tail))
    (mark : ∀ tail, motive ('?' :: tail)) (star : ∀ tail, motive ('*' :: tail))
    (plus : ∀ tail, motive ('+' :: tail)) (brace : ∀ tail, motive ('{' :: tail))
    (other : ∀ char tail, char ∉ rowSigns → motive (char :: tail)) (start : List Char) :
    motive start := by
  cases start with
  | nil => exact nil
  | cons char tail =>
      by_cases sign : char ∈ rowSigns
      · simp only [rowSigns, List.mem_cons, List.not_mem_nil, or_false] at sign
        obtain rfl | rfl | rfl | rfl | rfl | rfl | rfl | rfl := sign
        · exact bar tail
        · exact closing tail
        · exact opens tail
        · exact bracket tail
        · exact mark tail
        · exact star tail
        · exact plus tail
        · exact brace tail
      · exact other char tail sign

/-- A row that starts with no sign starts with a single item. -/
theorem rowFrom_other {char : Char} (plain : char ∉ rowSigns) (fuel : Nat) (memory : Memory)
    (done : List Expression) (rest : List Char) : rowFrom fuel memory done (char :: rest) =
      (simple memory.extended (char :: rest)).bind fun (item, rest) =>
        sequence fuel memory (item :: done) rest := by
  unfold rowFrom
  split <;> simp_all [rowSigns]

/-- A row is what its first character that counts makes of it. -/
theorem sequence_succ (fuel : Nat) (memory : Memory) (done : List Expression)
    (input : List Char) : sequence (fuel + 1) memory done input =
      rowFrom fuel memory done (skip memory.extended input) := by
  rw [sequence]
  generalize skip memory.extended input = start
  cases start using rowStart_cases with
  | nil => rfl
  | bar tail => rfl
  | closing tail => rfl
  | opens tail => exact bind_afterOpening fuel memory done (opening memory tail)
  | bracket tail => exact bind_bracketClass fuel memory done (bracketClass memory.extended tail)
  | mark tail => exact bind_repeated fuel memory (repeated false 0 (some 1) done tail)
  | star tail => exact bind_repeated fuel memory (repeated false 0 none done tail)
  | plus tail => exact bind_repeated fuel memory (repeated false 1 none done tail)
  | brace tail => exact bind_bounds fuel memory done (bounds memory.extended tail)
  | other char tail plain =>
      rw [rowFrom_other plain]
      simp only [rowSigns, List.mem_cons, List.not_mem_nil, or_false, not_or] at plain
      simp only [List.cons.injEq, plain, false_and, imp_self, implies_true]
      exact bind_simple fuel memory done (simple memory.extended (char :: tail))

/-! ### Fuel -/

/-- What is read with some fuel leaves no more than there was, and is read with any fuel that pays
for the characters that it takes and a few steps. -/
def Enough (fuel size steps : Nat) (read : Nat → Option (Expression × Memory × List Char)) : Prop :=
  ∀ found, read fuel = some found → found.2.2.length ≤ size ∧
    ∀ more, 2 * size + steps ≤ 2 * found.2.2.length + more → read more = some found

namespace Enough

variable {fuel size steps : Nat} {read : Nat → Option (Expression × Memory × List Char)}

theorem mono {less fewer : Nat} (enough : Enough fuel less fewer read) (shorter : less ≤ size)
    (cheaper : 2 * less + fewer ≤ 2 * size + steps) : Enough fuel size steps read := by
  intro found made
  obtain ⟨left, same⟩ := enough found made
  exact ⟨Nat.le_trans left shorter, fun more room => same more (by omega)⟩

/-- Any fuel is enough where nothing is read. -/
theorem nothing (unread : read fuel = none) : Enough fuel size steps read := by
  intro found made
  rw [unread] at made
  cases made

/-- What is found at once takes no fuel. -/
theorem found (item : Expression × Memory × List Char) (left : item.2.2.length ≤ size) :
    Enough fuel size steps fun _ => some item := by
  intro other made
  obtain rfl := Option.some.inj made
  exact ⟨left, fun _ _ => rfl⟩

/-- The reading goes on behind what is read without fuel. -/
theorem bind {Item : Type} {first : Option Item}
    {next : Nat → Item → Option (Expression × Memory × List Char)}
    (each : ∀ item, first = some item → Enough fuel size steps (next · item)) :
    Enough fuel size steps fun fuel => first.bind (next fuel) := by
  intro found made
  cases first with
  | none => cases made
  | some item => exact each item rfl found made

/-- The reading goes on behind what is read with the same fuel. -/
theorem andThen {next : Nat → Expression × Memory × List Char →
      Option (Expression × Memory × List Char)} (first : Enough fuel size steps read)
    (each : ∀ found, Enough fuel found.2.2.length steps (next · found)) :
    Enough fuel size steps fun fuel => (read fuel).bind (next fuel) := by
  intro result made
  obtain ⟨found, here, there⟩ := Option.bind_eq_some_iff.mp made
  obtain ⟨left, same⟩ := first found here
  obtain ⟨further, others⟩ := each found result there
  refine ⟨Nat.le_trans further left, fun more room => ?_⟩
  dsimp only
  rw [same more (by omega), Option.bind_some]
  exact others more (by omega)

/-- A step takes one unit of fuel. -/
theorem succ {next : Nat → Option (Expression × Memory × List Char)}
    (step : ∀ fuel, read (fuel + 1) = next fuel) (enough : Enough fuel size steps next) :
    Enough (fuel + 1) size (steps + 1) read := by
  intro found made
  rw [step] at made
  obtain ⟨left, same⟩ := enough found made
  refine ⟨left, fun more room => ?_⟩
  match more with
  | 0 => omega
  | more + 1 =>
      rw [step]
      exact same more (by omega)

end Enough

/-- A row is read whenever the fuel is enough for the characters that it takes. -/
def SequenceEnough (fuel : Nat) : Prop :=
  ∀ memory done input, Enough fuel input.length 1 (sequence · memory done input)

/-- Alternatives are read whenever the fuel is enough for the characters that they take. -/
def AlternativesEnough (fuel : Nat) : Prop :=
  ∀ memory done input, Enough fuel input.length 2 (alternatives · memory done input)

variable {fuel : Nat}

/-- Fuel that is enough for rows is enough for alternatives with one step more. -/
theorem AlternativesEnough.succ (row : SequenceEnough fuel) (choice : AlternativesEnough fuel) :
    AlternativesEnough (fuel + 1) := by
  intro memory done input
  refine .succ (fun fuel => alternatives_succ fuel memory done input) ?_
  refine (row memory [] input).andThen fun (item, after, left) => ?_
  match left with
  | [] => exact .found _ (Nat.le_refl _)
  | char :: tail =>
      by_cases bar : char = '|'
      · subst bar
        exact (choice after (item :: done) tail).mono (Nat.le_succ _)
          (by simp only [List.length_cons]; omega)
      · simp only [afterAlternative_last bar]
        exact .found _ (Nat.le_refl _)

/-- Behind a character at least, a row is read with the fuel that is left. -/
theorem SequenceEnough.goesOn (row : SequenceEnough fuel) (memory : Memory)
    (items : List Expression) {left : List Char} {size : Nat} (shorter : left.length < size) :
    Enough fuel size 0 (sequence · memory items left) :=
  (row memory items left).mono (Nat.le_of_lt shorter) (by omega)

/-- The body of a group and what stands behind it are read with the fuel that is left. -/
theorem AlternativesEnough.body (row : SequenceEnough fuel) (choice : AlternativesEnough fuel)
    (extended : Bool) (done : List Expression) (item : Expression → Expression) (inner : Memory)
    {left : List Char} {size : Nat} (shorter : left.length < size) :
    Enough fuel size 0 fun fuel =>
      (alternatives fuel inner [] left).bind (afterBody fuel extended done item) := by
  refine ((choice inner [] left).mono (Nat.le_of_lt shorter) (by omega)).andThen
    fun (body, after, rest) => ?_
  match rest with
  | [] => exact .nothing rfl
  | char :: tail =>
      by_cases closing : char = ')'
      · subst closing
        exact row.goesOn _ _ (Nat.lt_succ_self _)
      · exact .nothing (afterBody_other closing fuel extended done item body after tail)

/-- A row is read with the fuel that is left, whatever it starts with. -/
theorem SequenceEnough.rowFrom (row : SequenceEnough fuel) (choice : AlternativesEnough fuel)
    (memory : Memory) (done : List Expression) (start : List Char) :
    Enough fuel start.length 0 (Reader.rowFrom · memory done start) := by
  have again (extended : Bool) (low : Nat) (high : Option Nat) {left : List Char} {size : Nat}
      (shorter : left.length < size) : Enough fuel size 0 fun fuel =>
        (repeated extended low high done left).bind fun (done, rest) =>
          sequence fuel memory done rest :=
    .bind fun (items, rest) here =>
      row.goesOn memory items (Nat.lt_of_le_of_lt (length_repeated_le here) shorter)
  cases start using rowStart_cases with
  | nil => exact .found _ (Nat.le_refl _)
  | bar tail => exact .found _ (Nat.le_refl _)
  | closing tail => exact .found _ (Nat.le_refl _)
  | opens tail =>
      refine .bind fun (start, inner, left) here => ?_
      have shorter := Nat.lt_succ_of_le (length_opening_le here)
      match start with
      | .flags list => exact row.goesOn inner _ shorter
      | .group list => exact choice.body row memory.extended done (.group list) inner shorter
      | .capture =>
          exact choice.body row memory.extended done (.capture inner.opened) inner shorter
  | bracket tail =>
      exact .bind fun (set, left) here =>
        row.goesOn memory _ (Nat.lt_succ_of_lt (length_bracketClass_lt here))
  | mark tail => exact again false 0 (some 1) (Nat.lt_succ_self _)
  | star tail => exact again false 0 none (Nat.lt_succ_self _)
  | plus tail => exact again false 1 none (Nat.lt_succ_self _)
  | brace tail =>
      exact .bind fun (low, high, left) here =>
        again memory.extended low high (Nat.lt_succ_of_lt (length_bounds_lt here))
  | other char tail plain =>
      simp only [rowFrom_other plain]
      exact .bind fun (item, left) here => row.goesOn memory _ (length_simple_lt here)

/-- Fuel that is enough for what a row holds is enough for the row with one step more. -/
theorem SequenceEnough.succ (row : SequenceEnough fuel) (choice : AlternativesEnough fuel) :
    SequenceEnough (fuel + 1) := by
  intro memory done input
  have skipped := length_skip_le memory.extended input
  refine .succ (fun fuel => sequence_succ fuel memory done input) ?_
  exact (row.rowFrom choice memory done (skip memory.extended input)).mono skipped (by omega)

/-- Rows and alternatives are read alike with any two amounts of fuel that are enough. -/
theorem sequence_alternatives_enough (fuel : Nat) :
    SequenceEnough fuel ∧ AlternativesEnough fuel := by
  induction fuel with
  | zero => exact ⟨fun _ _ _ => .nothing rfl, fun _ _ _ => .nothing rfl⟩
  | succ fuel ih => exact ⟨SequenceEnough.succ ih.1 ih.2, AlternativesEnough.succ ih.1 ih.2⟩

end TypedJson.Regex.Reader
