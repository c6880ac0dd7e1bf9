import TypedJson.Proofs.Backtrack.Left

namespace TypedJson.Backtrack.Reader

/-- What a reader of rows and groups returns. -/
abbrev Reading := Expression × Memory × List Char

/-- What follows an alternative, from a character that counts: another one or the end of all. -/
def afterMark (fuel depth : Nat) (done : List Expression) (item : Expression) (memory : Memory)
    (input : List Char) : Option Reading :=
  match input with
  | '|' :: rest => alternatives fuel depth memory (item :: done) rest
  | rest =>
    if done.isEmpty then
      if memory.numbered && !memory.names.isEmpty then none else some (item, memory, rest)
    else some (.alternation (item :: done).reverse, memory, rest)

/-- What alternatives stand for, of which the last one has been read. -/
def choiceOf (done : List Expression) (item : Expression) (memory : Memory) : Option Expression :=
  if done.isEmpty then if memory.numbered && !memory.names.isEmpty then none else some item
  else some (.alternation (item :: done).reverse)

/-- Without a bar, the alternatives end. -/
theorem afterMark_last {input : List Char} (other : ∀ tail, input ≠ '|' :: tail) (fuel depth : Nat)
    (done : List Expression) (item : Expression) (memory : Memory) :
    afterMark fuel depth done item memory input =
      (choiceOf done item memory).map fun found => (found, memory, input) := by
  unfold afterMark choiceOf
  split
  · exact absurd rfl (other _)
  · split
    · split <;> rfl
    · rfl

/-- Alternatives are a row, and what follows it behind what may be skipped. -/
theorem alternatives_succ (fuel depth : Nat) (memory : Memory) (done : List Expression)
    (input : List Char) : alternatives (fuel + 1) depth memory done input =
      (sequence fuel depth memory [] input).bind fun (item, memory, rest) =>
        (skip memory rest).bind (afterMark fuel depth done item memory) := by
  rw [alternatives]
  cases sequence fuel depth memory [] input with
  | none => rfl
  | some found =>
      obtain ⟨item, after, rest⟩ := found
      simp only [Option.bind_some]
      cases skip after rest with
      | none => rfl
      | some start =>
          simp only [Option.bind_some, afterMark]
          split <;> simp_all

/-- What follows an expression in its row: its repetition and the rest of the row. -/
def afterPiece (fuel depth : Nat) (done : List Expression) : Reading → Option Reading :=
  fun (item, memory, rest) =>
    (withRepetition memory item rest).bind fun (item, rest) =>
      sequence fuel depth memory (if item.isEmpty then done else item :: done) rest

/-- A row from a character that counts. -/
def rowFrom (fuel depth : Nat) (memory : Memory) (done : List Expression) (input : List Char) :
    Option Reading :=
  if input.isEmpty || input.head? == some '|' || input.head? == some ')' then
    some (Expression.ofConcat done.reverse, memory, input)
  else (piece fuel depth memory input).bind (afterPiece fuel depth done)

/-- A row is what its first character that counts makes of it. -/
theorem sequence_succ (fuel depth : Nat) (memory : Memory) (done : List Expression)
    (input : List Char) : sequence (fuel + 1) depth memory done input =
      (skip memory input).bind (rowFrom fuel depth memory done) := by
  rw [sequence]
  cases skip memory input with
  | none => rfl
  | some start =>
      simp only [Option.bind_some, rowFrom]
      split
      · rfl
      · cases piece fuel depth memory start with
        | none => rfl
        | some found =>
            obtain ⟨item, after, rest⟩ := found
            simp only [Option.bind_some, afterPiece]
            cases withRepetition after item rest <;> rfl

/-- What follows the body of a group without a number, which its parenthesis closes. -/
def afterPlain (memory : Memory) : Reading → Option Reading
  | (body, after, ')' :: rest) => some (body, after.withFlagsOf memory, rest)
  | _ => none

/-- What a group of some kind stands for. -/
def groupOf (opened : Nat) (body : Expression) : Opening → Expression
  | .lookAround behind negated => .lookAround behind negated body
  | .atomic => .atomic body
  | _ => .group opened body

/-- What follows the body of a group with a meaning of its own. -/
def afterGroup (kind : Opening) (opened : Nat) : Reading → Option Reading :=
  fun (body, after, rest) =>
    (close after rest).map fun rest => (groupOf opened body kind, after, rest)

/-- What follows the start of a group. -/
def afterOpening (fuel depth : Nat) (memory : Memory) :
    Opening × Memory × List Char → Option Reading
  | (.nothing, inner, rest) => some (.empty, inner, rest)
  | (.reference expression, inner, rest) => some (expression, inner, rest)
  | (.plain, inner, rest) => (alternatives fuel (depth + 1) inner [] rest).bind (afterPlain memory)
  | (.conditional, inner, rest) => conditional fuel (depth + 1) inner rest
  | (kind, inner, rest) =>
    (alternatives fuel (depth + 1) inner [] rest).bind (afterGroup kind inner.opened)

/-- A parenthesis starts a group, unless groups nest too deeply. -/
theorem piece_group (fuel depth : Nat) (memory : Memory) (rest : List Char) :
    piece (fuel + 1) depth memory ('(' :: rest) =
      if depthLimit ≤ depth then none
      else (opening memory rest).bind (afterOpening fuel depth memory) := by
  rw [piece]
  split
  · rfl
  · cases opening memory rest with
    | none => rfl
    | some found =>
        obtain ⟨kind, inner, start⟩ := found
        simp only [Option.bind_some]
        cases kind with
        | nothing => rfl
        | reference expression => rfl
        | conditional => rfl
        | plain =>
            simp only [afterOpening]
            cases alternatives fuel (depth + 1) inner [] start with
            | none => rfl
            | some found =>
                simp only [Option.bind_some]
                unfold afterPlain
                split <;> simp_all
        | lookAround behind negated | atomic | capture =>
            simp only [afterOpening]
            cases alternatives fuel (depth + 1) inner [] start with
            | none => rfl
            | some found =>
                obtain ⟨body, after, left⟩ := found
                simp only [Option.bind_some, afterGroup]
                cases close after left <;> rfl

/-- Nothing is no piece. -/
theorem piece_nil (fuel depth : Nat) (memory : Memory) :
    piece fuel depth memory [] = none := by
  cases fuel <;> simp [piece, simple]

/-- A piece that is no group is a simple expression, and no mark of a repetition. -/
theorem piece_simple {char : Char} (group : char ≠ '(') (fuel depth : Nat) (memory : Memory)
    (rest : List Char) : piece (fuel + 1) depth memory (char :: rest) =
      if char = '+' ∨ char = '*' ∨ char = '?' then none else simple memory (char :: rest) := by
  unfold piece
  split <;> simp_all

/-- What a conditional stands for, given whether it has branches. -/
def conditionalOf (test body : Expression) (alone : Bool) : Option Expression :=
  if alone then
    match test with
    | .backReference group => some (.groupSet group)
    | _ => none
  else
    let (yes, no) := branches body
    some (if yes.isEmpty && no.isEmpty then asTest test else .conditional (asTest test) yes no)

/-- What follows the branches of a conditional, given what was left before them. -/
def afterBranches (test : Expression) (before : Nat) : Reading → Option Reading :=
  fun (body, memory, after) =>
    (close memory after).bind fun closed =>
      (conditionalOf test body (after.length == before)).map fun item => (item, memory, closed)

/-- What follows the test of a conditional. -/
def afterTest (fuel depth : Nat) : Reading → Option Reading :=
  fun (test, memory, rest) =>
    (close memory rest).bind fun rest =>
      (alternatives fuel depth memory [] rest).bind (afterBranches test rest.length)

/-- A conditional is its test and what follows it. -/
theorem conditional_succ (fuel depth : Nat) (memory : Memory) (input : List Char) :
    conditional (fuel + 1) depth memory input =
      (test fuel depth memory input).bind (afterTest fuel depth) := by
  rw [conditional]
  cases test fuel depth memory input with
  | none => rfl
  | some found =>
      obtain ⟨question, inner, rest⟩ := found
      simp only [Option.bind_some, afterTest]
      cases close inner rest with
      | none => rfl
      | some start =>
          simp only [Option.bind_some]
          cases alternatives fuel depth inner [] start with
          | none => rfl
          | some found =>
              obtain ⟨body, after, left⟩ := found
              simp only [Option.bind_some, afterBranches]
              cases close after left with
              | none => rfl
              | some closed =>
                  simp only [Option.bind_some, conditionalOf, beq_iff_eq]
                  split
                  · cases question <;> rfl
                  · simp only [Option.map_some]
                    split <;> rfl

/-- What a reference by name gives as the test of a conditional. -/
def namedTest (memory : Memory) : List Char × List Char → Option Reading :=
  fun (found, rest) => (namedReference memory found).map fun expression =>
    (expression, memory, rest)

/-- The test of a conditional is a name between marks, a number or an expression. -/
theorem test_succ (fuel depth : Nat) (memory : Memory) (char : Char) (rest : List Char) :
    test (fuel + 1) depth memory (char :: rest) =
      if char = '\'' then (name ['\''] ['\''] true (char :: rest)).bind (namedTest memory)
      else if char = '<' then (name ['<'] ['>'] true (char :: rest)).bind (namedTest memory)
      else if char.isDigit then numberedReference memory (char :: rest)
      else alternatives fuel depth memory [] (char :: rest) := by
  have named (opening closing : List Char) (input : List Char) :
      (do
        let (found, rest) ← name opening closing true input
        let expression ← namedReference memory found
        return (expression, memory, rest)) =
      (name opening closing true input).bind (namedTest memory) := by
    cases name opening closing true input with
    | none => rfl
    | some found =>
        obtain ⟨text, left⟩ := found
        simp only [namedTest, Option.bind_eq_bind, Option.bind_some]
        cases namedReference memory text <;> rfl
  by_cases quote : char = '\''
  · subst quote
    rw [test, named]
    rfl
  by_cases angle : char = '<'
  · subst angle
    rw [test, named]
    rfl
  rw [if_neg quote, if_neg angle]
  unfold test
  split <;> simp_all

/-- Nothing is no test. -/
theorem test_nil (fuel depth : Nat) (memory : Memory) : test fuel depth memory [] = none := by
  cases fuel <;> simp [test]

end TypedJson.Backtrack.Reader
