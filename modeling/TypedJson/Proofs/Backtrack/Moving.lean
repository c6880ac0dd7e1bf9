import TypedJson.Proofs.Backtrack.Rows
import TypedJson.Proofs.Backtrack.Closing

namespace TypedJson.Backtrack.Reader

/-- The same memory in a pattern of another size. -/
def Memory.resize (memory : Memory) (size : Nat) : Memory := { memory with size }

/-- A memory of the same size is the same memory. -/
theorem Memory.resize_self (memory : Memory) {size : Nat} (same : memory.size = size) :
    memory.resize size = memory := by
  subst same
  rfl

variable {memory after inner : Memory} {input rest : List Char} {item : Expression} {size : Nat}

@[simp] theorem skip_resize : skip (memory.resize size) input = skip memory input := rfl

@[simp] theorem close_resize : close (memory.resize size) input = close memory input := rfl

@[simp] theorem withRepetition_resize :
    withRepetition (memory.resize size) item input = withRepetition memory item input := rfl

@[simp] theorem namedReference_resize (found : List Char) :
    namedReference (memory.resize size) found = namedReference memory found := rfl

/-- Both memories are of one pattern, with as many groups opened. -/
structure Memory.Level (memory after : Memory) : Prop where
  opened : after.opened = memory.opened
  size : after.size = memory.size

/-! ### Readers below the groups -/

/-- A reference by number opens no group. -/
theorem numberedReference_level
    (read : numberedReference memory input = some (item, after, rest)) : memory.Level after := by
  simp only [numberedReference, Option.bind_eq_bind, Option.bind_eq_some_iff, Prod.exists] at read
  obtain ⟨group, left, -, made⟩ := read
  split at made
  · obtain ⟨found, -, same⟩ := Option.bind_eq_some_iff.mp made
    obtain ⟨-, rfl, -⟩ := Prod.mk.injEq .. ▸ Option.some.inj same
    exact ⟨rfl, rfl⟩
  · cases made

/-- A group that was opened is below half the size of a pattern with room for it. -/
theorem numberedReference_resize
    (read : numberedReference memory input = some (item, after, rest))
    (room : 2 * memory.opened + 2 ≤ size) :
    numberedReference (memory.resize size) input = some (item, after.resize size, rest) := by
  simp only [numberedReference, Option.bind_eq_bind, Option.bind_eq_some_iff, Prod.exists] at read
  obtain ⟨group, left, digits, made⟩ := read
  split at made
  · obtain ⟨found, refers, same⟩ := Option.bind_eq_some_iff.mp made
    obtain ⟨rfl, rfl, rfl⟩ := Prod.mk.injEq .. ▸ Option.some.inj same
    have opened : group ≤ memory.opened := by
      unfold reference at refers
      split at refers
      · assumption
      · cases refers
    have below : group < (memory.resize size).size / 2 := by
      change group < size / 2
      omega
    simp only [numberedReference, digits, Option.bind_eq_bind, Option.bind_some, if_pos below]
    rw [show reference (memory.resize size) group = reference memory group from rfl, refers]
    rfl
  · cases made

/-- In a class an escape does not depend on the groups. -/
theorem escape_inClass (memory other : Memory) (input : List Char) :
    escape memory true input = escape other true input := by
  match input with
  | [] => rfl
  | char :: tail => simp only [escape_cons, otherEscape, if_true]

/-- The text of a class does not depend on the groups. -/
theorem classText_memory (memory other : Memory) (fuel depth : Nat) (input : List Char) :
    classText memory fuel depth input = classText other fuel depth input := by
  induction fuel generalizing depth input with
  | zero => rfl
  | succ fuel ih => simp only [classText, escape_inClass memory other, ih]

/-- A class does not depend on the groups. -/
theorem bracketText_memory (memory other : Memory) (input : List Char) :
    bracketText memory input = bracketText other input := by
  simp only [bracketText_eq, classText_memory memory other]

/-- What an escape stands for, in a pattern of another size. -/
def Escaped.resize (size : Nat) : Escaped → Escaped
  | .expression found memory => .expression found (memory.resize size)
  | other => other

/-- An escape that is a part of its own means the same in a pattern of another size. -/
theorem ownEscape_resize (memory : Memory) (size : Nat) (char : Char) (input : List Char) :
    ownEscape (memory.resize size) char input =
      (ownEscape memory char input).map fun (escaped, rest) => (escaped.resize size, rest) := by
  unfold ownEscape
  split
  case h_1 =>
    cases referredName input with
    | none => rfl
    | some found =>
        obtain ⟨text, left⟩ := found
        simp only [Option.bind_some, namedReference_resize]
        cases namedReference memory text <;> rfl
  all_goals
    first
      | rfl
      | (split <;> rfl)

/-- An escape with a name means the same in a pattern of another size. -/
theorem namedEscape_resize {char : Char} {escaped : Escaped}
    (read : namedEscape char input = some (escaped, rest)) : escaped.resize size = escaped := by
  unfold namedEscape at read
  split at read
  case h_15 => exact nomatch read
  case h_1 | h_2 | h_3 | h_13 | h_14 =>
    obtain ⟨found, -, same⟩ := Option.map_eq_some_iff.mp read
    obtain ⟨rfl, -⟩ := Prod.mk.inj same
    rfl
  all_goals
    obtain ⟨rfl, -⟩ := Prod.mk.inj (Option.some.inj read)
    rfl

/-- An escape is read the same in a pattern that is large enough for its reference. -/
theorem escape_resize {escaped : Escaped} (read : escape memory false input = some (escaped, rest))
    (room : 2 * memory.opened + input.length + 1 ≤ size + rest.length) :
    escape (memory.resize size) false input = some (escaped.resize size, rest) := by
  have shorter := length_escape_lt read
  match input with
  | [] => exact nomatch read
  | char :: tail =>
      rw [escape_cons] at read ⊢
      split at read
      · next named => rw [if_pos named, read, namedEscape_resize read]
      · next other =>
          rw [if_neg other]
          unfold otherEscape at read ⊢
          split at read
          · next digit =>
              rw [if_pos digit]
              obtain ⟨⟨found, after, left⟩, number, same⟩ := Option.map_eq_some_iff.mp read
              obtain ⟨rfl, rfl⟩ := Prod.mk.inj same
              have moved : numberedReference (memory.resize size) (char :: tail) =
                  some (found, after.resize size, left) :=
                numberedReference_resize number (by omega)
              simp only [Bool.false_eq_true, if_false, moved, Option.map_some, Escaped.resize]
          · next digit =>
              rw [if_neg digit]
              split at read
              · next own =>
                  obtain ⟨rfl, rfl⟩ := Prod.mk.inj (Option.some.inj read)
                  rw [if_pos own]
                  rfl
              · next own =>
                  rw [if_neg own]
                  simp only [Bool.false_eq_true, if_false] at read ⊢
                  rw [ownEscape_resize, read]
                  rfl

/-- What an escape stands for is the same in a pattern of another size. -/
theorem afterEscape_resize (memory : Memory) (size : Nat) (escaped : Escaped) (input : List Char) :
    afterEscape (memory.resize size) (escaped.resize size, input) =
      (afterEscape memory (escaped, input)).map fun (item, after, rest) =>
        (item, after.resize size, rest) := by
  cases escaped with
  | text text =>
      change (classRegex memory text).map _ = ((classRegex memory text).map _).map _
      cases classRegex memory text <;> rfl
  | _ => rfl

/-- A simple expression is read the same in a pattern that is large enough. -/
theorem simple_resize (read : simple memory input = some (item, after, rest))
    (room : 2 * memory.opened + input.length ≤ size + rest.length) :
    simple (memory.resize size) input = some (item, after.resize size, rest) := by
  match input with
  | [] => exact nomatch read
  | char :: tail =>
      by_cases slash : char = '\\'
      · subst slash
        rw [simple_escape] at read ⊢
        obtain ⟨⟨escaped, left⟩, here, made⟩ := Option.bind_eq_some_iff.mp read
        have same : left = rest := by
          cases escaped with
          | text text =>
              obtain ⟨found, -, same⟩ := Option.map_eq_some_iff.mp made
              exact congrArg (·.2.2) same
          | _ => exact congrArg (·.2.2) (Option.some.inj made)
        subst same
        rw [escape_resize here (by simp only [List.length_cons] at room; omega), Option.bind_some,
          afterEscape_resize,
          made]
        rfl
      by_cases bracket : char = '['
      · subst bracket
        simp only [simple, Option.bind_eq_bind, Option.bind_eq_some_iff, Prod.exists] at read ⊢
        obtain ⟨text, start, here, found, made, same⟩ := read
        obtain ⟨rfl, rfl, rfl⟩ := Prod.mk.injEq .. ▸ Option.some.inj same
        exact ⟨text, rest, (bracketText_memory _ _ _).trans here, found, made, rfl⟩
      · unfold simple at read ⊢
        split at read
        all_goals
          first
            | (obtain ⟨rfl, rfl, rfl⟩ := Prod.mk.injEq .. ▸ Option.some.inj read; rfl)
            | simp_all

/-- Flags open no group. -/
theorem flags_level {negated opens : Bool} {count fuel : Nat}
    (read : flags negated count fuel memory input = some (after, opens, rest)) :
    memory.Level after := by
  induction fuel generalizing negated count memory input with
  | zero => exact nomatch read
  | succ fuel ih =>
      rw [flags_succ] at read
      obtain ⟨start, -, letter⟩ := Option.bind_eq_some_iff.mp read
      unfold afterFlag at letter
      split at letter
      case h_10 => exact nomatch letter
      case h_8 | h_9 =>
        split at letter
        · exact nomatch letter
        · obtain ⟨rfl, -⟩ := Prod.mk.inj (Option.some.inj letter)
          exact ⟨rfl, rfl⟩
      case h_6 | h_7 =>
        split at letter
        · exact nomatch letter
        · exact ih letter
      all_goals
        have same := ih letter
        exact ⟨same.opened, same.size⟩

/-- Flags are read the same in a pattern of another size. -/
theorem flags_resize (negated : Bool) (count fuel : Nat) (memory : Memory) (size : Nat)
    (input : List Char) : flags negated count fuel (memory.resize size) input =
      (flags negated count fuel memory input).map fun (after, opens, rest) =>
        (after.resize size, opens, rest) := by
  induction fuel generalizing negated count memory input with
  | zero => rfl
  | succ fuel ih =>
      rw [flags_succ, flags_succ, skip_resize]
      cases skip memory input with
      | none => rfl
      | some start =>
          rw [Option.bind_some, Option.bind_some]
          unfold afterFlag
          split
          case h_10 => rfl
          case h_8 | h_9 => split <;> rfl
          case h_6 | h_7 =>
            split
            · rfl
            · exact ih _ _ _ _
          case h_1 => exact ih _ _ { memory with ignoreCase := !negated } _
          case h_2 => exact ih _ _ { memory with multiLine := !negated } _
          case h_3 => exact ih _ _ { memory with dotMatchesNewLine := !negated } _
          case h_4 => exact ih _ _ { memory with swapGreed := !negated } _
          case h_5 => exact ih _ _ { memory with extended := !negated } _

/-- The start of a group is read the same in a pattern of another size. -/
theorem opening_resize (memory : Memory) (size : Nat) (input : List Char) :
    opening (memory.resize size) input =
      (opening memory input).map fun (kind, inner, rest) => (kind, inner.resize size, rest) := by
  have named (left : List Char) : opening.named (memory.resize size) left =
      (opening.named memory left).map fun (kind, inner, rest) =>
        (kind, inner.resize size, rest) := by
    unfold opening.named
    cases name ['<'] ['>'] false left <;> rfl
  rw [opening_eq, opening_eq, skip_resize]
  cases skip memory input with
  | none => rfl
  | some start =>
      rw [Option.bind_some, Option.bind_some]
      unfold openingFrom
      split
      case h_5 | h_6 => exact named _
      case h_7 tail =>
        cases name [] [')'] false tail with
        | none => rfl
        | some found =>
            obtain ⟨text, left⟩ := found
            simp only [Option.bind_some, namedReference_resize]
            cases namedReference memory text <;> rfl
      case h_10 =>
        rw [flags_resize]
        generalize flags false 0 _ memory _ = found
        cases found <;> rfl
      all_goals rfl

/-- Only the start of a group with a number opens one. -/
theorem level_opening {kind : Opening} (read : opening memory input = some (kind, inner, rest)) :
    memory.Level inner ∨
      kind = .capture ∧ inner.opened = memory.opened + 1 ∧ inner.size = memory.size := by
  have named {left : List Char} (read : opening.named memory left = some (kind, inner, rest)) :
      kind = .capture ∧ inner.opened = memory.opened + 1 ∧ inner.size = memory.size := by
    obtain ⟨found, -, same⟩ := Option.bind_eq_some_iff.mp read
    obtain ⟨rfl, rfl, -⟩ := Prod.mk.injEq .. ▸ Option.some.inj same
    exact ⟨rfl, rfl, rfl⟩
  rw [opening_eq] at read
  obtain ⟨start, -, found⟩ := Option.bind_eq_some_iff.mp read
  unfold openingFrom at found
  split at found
  case h_5 | h_6 => exact .inr (named found)
  case h_7 =>
    obtain ⟨_, -, found⟩ := Option.bind_eq_some_iff.mp found
    obtain ⟨_, -, same⟩ := Option.bind_eq_some_iff.mp found
    obtain ⟨-, rfl, -⟩ := Prod.mk.injEq .. ▸ Option.some.inj same
    exact .inl ⟨rfl, rfl⟩
  case h_10 =>
    obtain ⟨⟨after, opens, left⟩, here, same⟩ := Option.bind_eq_some_iff.mp found
    obtain ⟨-, rfl, -⟩ := Prod.mk.injEq .. ▸ Option.some.inj same
    exact .inl (flags_level here)
  case h_11 =>
    obtain ⟨rfl, rfl, -⟩ := Prod.mk.injEq .. ▸ Option.some.inj found
    exact .inr ⟨rfl, rfl, rfl⟩
  all_goals
    obtain ⟨-, rfl, -⟩ := Prod.mk.injEq .. ▸ Option.some.inj found
    exact .inl ⟨rfl, rfl⟩

/-- The start of a conditional takes two characters. -/
theorem length_opening_conditional
    (read : opening memory input = some (.conditional, inner, rest)) :
    rest.length + 2 ≤ input.length := by
  rw [opening_eq] at read
  obtain ⟨start, skipped, found⟩ := Option.bind_eq_some_iff.mp read
  have shorter := length_skip_le skipped
  unfold openingFrom at found
  split at found
  case h_5 | h_6 =>
    obtain ⟨_, -, same⟩ := Option.bind_eq_some_iff.mp found
    exact nomatch same
  case h_7 =>
    obtain ⟨_, -, found⟩ := Option.bind_eq_some_iff.mp found
    obtain ⟨_, -, same⟩ := Option.bind_eq_some_iff.mp found
    exact nomatch same
  case h_9 =>
    obtain ⟨-, -, rfl⟩ := Prod.mk.injEq .. ▸ Option.some.inj found
    exact shorter
  case h_10 =>
    obtain ⟨⟨after, opens, left⟩, -, same⟩ := Option.bind_eq_some_iff.mp found
    cases opens <;> exact nomatch same
  all_goals exact nomatch found

/-- An escape that is a part of its own changes nothing in the memory. -/
theorem ownEscape_memory {char : Char} {found : Expression} {middle : Memory}
    (read : ownEscape memory char input = some (.expression found middle, rest)) :
    middle = memory := by
  unfold ownEscape at read
  split at read
  case h_1 =>
    obtain ⟨⟨text, left⟩, -, made⟩ := Option.bind_eq_some_iff.mp read
    obtain ⟨expression, -, same⟩ := Option.map_eq_some_iff.mp made
    cases same
    rfl
  case h_4 | h_5 | h_10 =>
    split at read
    · cases read
    · cases read <;> rfl
  all_goals
    cases read
    rfl

/-- An escape opens no group. -/
theorem escape_level {found : Expression} {middle : Memory}
    (read : escape memory false input = some (.expression found middle, rest)) :
    memory.Level middle := by
  match input with
  | [] => exact nomatch read
  | char :: tail =>
      rw [escape_cons] at read
      split at read
      · have same : Escaped.resize (middle.size + 1) (.expression found middle) =
            .expression found middle := namedEscape_resize read
        rw [Escaped.resize, Escaped.expression.injEq] at same
        have sizes : middle.size + 1 = middle.size := congrArg Memory.size same.2
        omega
      · unfold otherEscape at read
        simp only [Bool.false_eq_true, if_false] at read
        split at read
        · obtain ⟨⟨expression, after, left⟩, number, same⟩ := Option.map_eq_some_iff.mp read
          cases same
          exact numberedReference_level number
        · split at read
          · cases read
          · rw [ownEscape_memory read]
            exact ⟨rfl, rfl⟩

/-- A simple expression opens no group. -/
theorem simple_level (read : simple memory input = some (item, after, rest)) :
    memory.Level after := by
  match input with
  | [] => exact nomatch read
  | char :: tail =>
      by_cases slash : char = '\\'
      · subst slash
        rw [simple_escape] at read
        obtain ⟨⟨escaped, left⟩, here, made⟩ := Option.bind_eq_some_iff.mp read
        cases escaped with
        | text text =>
            obtain ⟨found, -, same⟩ := Option.map_eq_some_iff.mp made
            obtain ⟨-, rfl, -⟩ := Prod.mk.injEq .. ▸ same
            exact ⟨rfl, rfl⟩
        | expression found middle =>
            obtain ⟨-, rfl, -⟩ := Prod.mk.injEq .. ▸ Option.some.inj made
            exact escape_level here
        | _ =>
            obtain ⟨-, rfl, -⟩ := Prod.mk.injEq .. ▸ Option.some.inj made
            exact ⟨rfl, rfl⟩
      by_cases bracket : char = '['
      · subst bracket
        simp only [simple, Option.bind_eq_bind, Option.bind_eq_some_iff, Prod.exists] at read
        obtain ⟨text, left, -, found, -, same⟩ := read
        obtain ⟨-, rfl, -⟩ := Prod.mk.injEq .. ▸ Option.some.inj same
        exact ⟨rfl, rfl⟩
      · unfold simple at read
        split at read
        all_goals
          first
            | (obtain ⟨-, rfl, -⟩ := Prod.mk.injEq .. ▸ Option.some.inj read; exact ⟨rfl, rfl⟩)
            | simp_all

end TypedJson.Backtrack.Reader
