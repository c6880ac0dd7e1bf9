import TypedJson.Backtrack.Reader
import TypedJson.Proofs.Text.Closing

namespace TypedJson.Backtrack.Reader

/-! ### Comments -/

/-- A comment takes at least its closing parenthesis. -/
theorem length_afterComment_lt {input rest : List Char} (found : afterComment input = some rest) :
    rest.length < input.length := by
  induction input using afterComment.induct with
  | case1 => exact nomatch found
  | case2 tail =>
      obtain rfl := Option.some.inj found
      exact Nat.lt_succ_self _
  | case3 char tail ih => exact Nat.lt_succ_of_lt (Nat.lt_succ_of_lt (ih found))
  | case4 char tail other escape ih =>
      rw [afterComment] at found
      · exact Nat.lt_succ_of_lt (ih found)
      · exact other
      · exact escape

/-- A line that is skipped leaves no more than there was. -/
theorem length_afterLine_le (input : List Char) :
    ((input.dropWhile (· != '\n')).drop 1).length ≤ input.length := by
  have shorter := (List.dropWhile_suffix (p := (· != '\n')) (l := input)).length_le
  rw [List.length_drop]
  omega

/-- Nothing is skipped of nothing. -/
theorem skipFrom_nil (extended : Bool) (fuel : Nat) : skipFrom extended fuel [] = some [] := by
  cases fuel <;> rfl

/-- A comment is skipped, and what may be skipped behind it. -/
theorem skipFrom_comment (extended : Bool) (fuel : Nat) (rest : List Char) :
    skipFrom extended (fuel + 1) ('(' :: '?' :: '#' :: rest) =
      (afterComment rest).bind (skipFrom extended fuel) := by
  rw [skipFrom]
  cases afterComment rest <;> rfl

/-- Whether a text starts with a comment in parentheses. -/
def Commented (input : List Char) : Prop := ∃ rest, input = '(' :: '?' :: '#' :: rest

/-- Without a comment, blanks and lines are skipped in extended mode alone. -/
theorem skipFrom_uncommented (extended : Bool) (fuel : Nat) {char : Char} {tail : List Char}
    (plain : ¬Commented (char :: tail)) : skipFrom extended (fuel + 1) (char :: tail) =
      if extended && char = '#' then
        skipFrom extended fuel ((tail.dropWhile (· != '\n')).drop 1)
      else if extended && (char = ' ' || char = '\r' || char = '\n' || char = '\t') then
        skipFrom extended fuel tail
      else some (char :: tail) := by
  rw [skipFrom.eq_def]
  dsimp only
  split
  · next rest same => exact absurd ⟨rest, same⟩ plain
  · next rest same =>
      obtain ⟨rfl, rfl⟩ := List.cons.inj same
      cases extended <;> simp
  · next first rest _ hash same =>
      obtain ⟨rfl, rfl⟩ := List.cons.inj same
      have other : char ≠ '#' := by
        rintro rfl
        exact hash rfl
      simp [other]
  · next same => exact absurd same (List.cons_ne_nil _ _)

/-- With fuel for each character, what is skipped does not depend on the fuel. -/
theorem skipFrom_of_le (extended : Bool) {fuel more : Nat} {input : List Char}
    (enough : input.length ≤ fuel) (plenty : input.length ≤ more) :
    skipFrom extended fuel input = skipFrom extended more input := by
  induction fuel generalizing more input with
  | zero =>
      obtain rfl := List.length_eq_zero_iff.mp (Nat.le_zero.mp enough)
      rw [skipFrom_nil, skipFrom_nil]
  | succ fuel ih =>
      match input, more with
      | [], more => rw [skipFrom_nil, skipFrom_nil]
      | char :: tail, more + 1 =>
          rw [List.length_cons] at enough plenty
          by_cases comment : Commented (char :: tail)
          · obtain ⟨rest, same⟩ := comment
            obtain ⟨rfl, rfl⟩ := List.cons.inj same
            rw [skipFrom_comment, skipFrom_comment]
            cases found : afterComment rest with
            | none => rfl
            | some left =>
                have shorter := length_afterComment_lt found
                simp only [List.length_cons] at enough plenty
                exact ih (by omega) (by omega)
          · rw [skipFrom_uncommented _ _ comment, skipFrom_uncommented _ _ comment]
            split
            · have shorter := length_afterLine_le tail
              exact ih (by omega) (by omega)
            split
            · exact ih (by omega) (by omega)
            · rfl

/-- Skipping leaves no more than there was. -/
theorem length_skipFrom_le {extended : Bool} {fuel : Nat} {input rest : List Char}
    (found : skipFrom extended fuel input = some rest) : rest.length ≤ input.length := by
  induction fuel generalizing input with
  | zero =>
      obtain rfl := Option.some.inj found
      exact Nat.le_refl _
  | succ fuel ih =>
      match input with
      | [] =>
          obtain rfl := Option.some.inj found
          exact Nat.le_refl _
      | char :: tail =>
          rw [List.length_cons]
          by_cases comment : Commented (char :: tail)
          · obtain ⟨more, same⟩ := comment
            obtain ⟨rfl, rfl⟩ := List.cons.inj same
            rw [skipFrom_comment] at found
            obtain ⟨left, here, there⟩ := Option.bind_eq_some_iff.mp found
            have shorter := length_afterComment_lt here
            have further := ih there
            simp only [List.length_cons]
            omega
          · rw [skipFrom_uncommented _ _ comment] at found
            split at found
            · have shorter := length_afterLine_le tail
              have further := ih found
              omega
            split at found
            · have further := ih found
              omega
            · obtain rfl := Option.some.inj found
              exact Nat.le_refl _

/-- Skipping leaves no more than there was. -/
theorem length_skip_le {memory : Memory} {input rest : List Char}
    (found : skip memory input = some rest) : rest.length ≤ input.length :=
  length_skipFrom_le found

/-- Nothing is skipped of nothing. -/
theorem skip_nil (memory : Memory) : skip memory [] = some [] := skipFrom_nil _ _

/-- What is left after comments and blanks starts with neither. -/
theorem skip_skip {memory : Memory} {input rest : List Char}
    (found : skip memory input = some rest) : skip memory rest = some rest := by
  have again (fuel : Nat) (input : List Char) (enough : input.length ≤ fuel)
      (found : skipFrom memory.extended fuel input = some rest) :
      skipFrom memory.extended (rest.length + 1) rest = some rest := by
    induction fuel generalizing input with
    | zero =>
        obtain rfl := List.length_eq_zero_iff.mp (Nat.le_zero.mp enough)
        obtain rfl := Option.some.inj found
        exact skipFrom_nil _ _
    | succ fuel ih =>
        match input with
        | [] =>
            obtain rfl := Option.some.inj found
            exact skipFrom_nil _ _
        | char :: tail =>
            rw [List.length_cons] at enough
            by_cases comment : Commented (char :: tail)
            · obtain ⟨more, same⟩ := comment
              obtain ⟨rfl, rfl⟩ := List.cons.inj same
              rw [skipFrom_comment] at found
              obtain ⟨left, here, there⟩ := Option.bind_eq_some_iff.mp found
              have shorter := length_afterComment_lt here
              simp only [List.length_cons] at enough
              exact ih left (by omega) there
            · rw [skipFrom_uncommented _ _ comment] at found
              split at found
              · have shorter := length_afterLine_le tail
                exact ih _ (by omega) found
              split at found
              · exact ih _ (by omega) found
              · next notLine notBlank =>
                  obtain rfl := Option.some.inj found
                  rw [skipFrom_uncommented _ _ comment, if_neg notLine, if_neg notBlank]
  exact again (input.length + 1) input (Nat.le_succ _) found

/-! ### Numbers and names -/

/-- A number takes at least one digit. -/
theorem length_decimal_lt {input rest : List Char} {value : Nat}
    (read : decimal input = some (value, rest)) : rest.length < input.length := by
  unfold decimal at read
  dsimp only at read
  split at read
  · exact nomatch read
  · next fits =>
      obtain ⟨-, rfl⟩ := Prod.mk.inj (Option.some.inj read)
      have positive : 0 < (input.takeWhile Char.isDigit).length := by
        rw [List.length_pos_iff]
        intro empty
        simp [empty] at fits
      have shorter := (List.takeWhile_prefix (l := input) Char.isDigit).length_le
      rw [List.length_drop]
      omega

/-- The lower bound of a repetition, which may be left out. -/
def lowBound (input : List Char) : Option (Nat × List Char) :=
  match input with
  | ',' :: _ => some (0, input)
  | _ => decimal input

/-- The upper bound of a repetition, given the lower one. -/
def highBound (memory : Memory) (low : Nat) (input : List Char) :
    Option (Option Nat × List Char) :=
  match input with
  | '}' :: _ => some (bound? low, input)
  | ',' :: rest =>
    (skip memory rest).bind fun rest =>
      match decimal rest with
      | some (high, rest) => some (bound? high, rest)
      | none => some (none, rest)
  | _ => none

/-- The brace that closes the bounds of a repetition. -/
def closeBounds (low : Nat) (high : Option Nat) :
    List Char → Option (Nat × Option Nat × List Char)
  | '}' :: rest => some (low, high, rest)
  | _ => none

/-- Bounds are a lower one, an upper one and a brace, each after what may be skipped. -/
theorem bounds_eq (memory : Memory) (input : List Char) : bounds memory input =
    (skip memory input).bind fun input => (lowBound input).bind fun (low, rest) =>
      (skip memory rest).bind fun rest => (highBound memory low rest).bind fun (high, rest) =>
        (skip memory rest).bind (closeBounds low high) := by
  have upper (low : Nat) (rest : List Char) : (do
      let rest ← skip memory rest
      let (high, rest) ← match rest with
        | '}' :: _ => some (bound? low, rest)
        | ',' :: rest => do
          let rest ← skip memory rest
          match decimal rest with
          | some (high, rest) => some (bound? high, rest)
          | none => some (none, rest)
        | _ => none
      match ← skip memory rest with
      | '}' :: rest => return (low, high, rest)
      | _ => none) =
      (skip memory rest).bind fun rest => (highBound memory low rest).bind fun (high, rest) =>
        (skip memory rest).bind (closeBounds low high) := by
    cases skip memory rest with
    | none => rfl
    | some mark =>
        simp only [Option.bind_eq_bind, Option.bind_some, highBound]
        split
        · rfl
        · next tail =>
            cases skip memory tail with
            | none => rfl
            | some digits =>
                simp only [Option.bind_some]
                cases decimal digits <;> rfl
        · rfl
  simp only [← upper]
  unfold bounds
  cases skip memory input with
  | none => rfl
  | some start =>
      match start with
      | [] => rfl
      | char :: tail =>
          by_cases comma : char = ','
          · subst comma
            rfl
          · have low : lowBound (char :: tail) = decimal (char :: tail) := by
              simp [lowBound, comma]
            simp only [Option.bind_eq_bind, Option.bind_some, List.cons.injEq, comma, false_and,
              imp_self, implies_true]
            exact (congrArg (Option.bind · _) low).symm

/-- Bounds take at least their closing brace. -/
theorem length_bounds_lt {memory : Memory} {input rest : List Char} {low : Nat}
    {high : Option Nat} (read : bounds memory input = some (low, high, rest)) :
    rest.length < input.length := by
  simp only [bounds_eq, Option.bind_eq_some_iff, Prod.exists] at read
  obtain ⟨start, one, low, left, two, mark, three, high, after, four, brace, five, six⟩ := read
  have skippedStart := length_skip_le one
  have skippedMark := length_skip_le three
  have skippedBrace := length_skip_le five
  have low : left.length ≤ start.length := by
    unfold lowBound at two
    split at two
    · obtain ⟨-, rfl⟩ := Prod.mk.inj (Option.some.inj two)
      exact Nat.le_refl _
    · exact Nat.le_of_lt (length_decimal_lt two)
  have high : after.length ≤ mark.length := by
    unfold highBound at four
    split at four
    · obtain ⟨-, rfl⟩ := Prod.mk.inj (Option.some.inj four)
      exact Nat.le_refl _
    · obtain ⟨digits, here, there⟩ := Option.bind_eq_some_iff.mp four
      have skipped := length_skip_le here
      rw [List.length_cons]
      split at there
      · next found =>
          have shorter := length_decimal_lt found
          obtain ⟨-, rfl⟩ := Prod.mk.inj (Option.some.inj there)
          omega
      · obtain ⟨-, rfl⟩ := Prod.mk.inj (Option.some.inj there)
        omega
    · exact nomatch four
  unfold closeBounds at six
  split at six
  · obtain ⟨-, -, rfl⟩ := Prod.mk.injEq .. ▸ Option.some.inj six
    rw [List.length_cons] at skippedBrace
    omega
  · exact nomatch six

/-- The characters of a name; a relative number may start with a hyphen. -/
def nameChars (relative : Bool) (input : List Char) : List Char :=
  let sign := if relative && input.head? == some '-' then ['-'] else []
  sign ++ (input.drop sign.length).takeWhile isNameChar

/-- A name up to the mark that closes it. -/
def nameUntil (closing : List Char) (relative : Bool) (input : List Char) :
    Option (List Char × List Char) :=
  let found := nameChars relative input
  let rest := input.drop found.length
  if !found.isEmpty && closing.isPrefixOf rest then some (found, rest.drop closing.length) else none

/-- A name is read between its marks. -/
theorem name_eq (opening closing : List Char) (relative : Bool) (input : List Char) :
    name opening closing relative input =
      if opening.isPrefixOf input then nameUntil closing relative (input.drop opening.length)
      else none := rfl

/-- The characters of a name are the start of the input. -/
theorem nameChars_starts (relative : Bool) (input : List Char) : nameChars relative input <+: input := by
  unfold nameChars
  dsimp only
  split
  · next signed =>
      match input with
      | [] => simp at signed
      | char :: rest =>
          obtain rfl : char = '-' := by
            simp only [List.head?_cons, Bool.and_eq_true, beq_iff_eq, Option.some.injEq] at signed
            exact signed.2
          exact List.prefix_cons_inj _ |>.mpr (List.takeWhile_prefix _)
  · exact List.takeWhile_prefix _

/-- A name takes at least one character. -/
theorem length_name_lt {opening closing found rest input : List Char} {relative : Bool}
    (read : name opening closing relative input = some (found, rest)) :
    rest.length < input.length := by
  rw [name_eq] at read
  split at read
  · unfold nameUntil at read
    dsimp only at read
    split at read
    · next filled =>
        obtain ⟨-, rfl⟩ := Prod.mk.inj (Option.some.inj read)
        have positive : 0 < (nameChars relative (input.drop opening.length)).length := by
          rw [List.length_pos_iff]
          intro empty
          simp [empty] at filled
        have within := (nameChars_starts relative (input.drop opening.length)).length_le
        simp only [List.length_drop] at within ⊢
        omega
    · exact nomatch read
  · exact nomatch read

/-- A reference by number takes at least one digit. -/
theorem length_numberedReference_lt {memory after : Memory} {input rest : List Char}
    {expression : Expression}
    (read : numberedReference memory input = some (expression, after, rest)) :
    rest.length < input.length := by
  simp only [numberedReference, Option.bind_eq_bind, Option.bind_eq_some_iff, Prod.exists] at read
  obtain ⟨group, left, digits, made⟩ := read
  have shorter := length_decimal_lt digits
  split at made
  · obtain ⟨found, -, same⟩ := Option.bind_eq_some_iff.mp made
    obtain ⟨-, -, rfl⟩ := Prod.mk.injEq .. ▸ Option.some.inj same
    exact shorter
  · exact nomatch made

/-! ### Escapes and classes -/

/-- A code leaves no more than there was. -/
theorem length_hexCode_le {count : Nat} {input rest : List Char} {char : Char}
    (read : hexCode count input = some (char, rest)) : rest.length ≤ input.length := by
  have braced (read : hexCode.braced input = some (char, rest)) : rest.length ≤ input.length := by
    unfold hexCode.braced at read
    split at read
    · next tail =>
        obtain ⟨digits, -, made⟩ := Option.bind_eq_some_iff.mp read
        split at made
        · exact nomatch made
        · obtain ⟨found, -, same⟩ := Option.bind_eq_some_iff.mp made
          obtain ⟨-, rfl⟩ := Prod.mk.injEq .. ▸ Option.some.inj same
          simp only [List.length_drop, List.length_cons]
          omega
    · exact nomatch read
  unfold hexCode at read
  dsimp only at read
  split at read
  · split at read
    · obtain ⟨found, -, same⟩ := Option.map_eq_some_iff.mp read
      obtain ⟨-, rfl⟩ := Prod.mk.injEq .. ▸ same
      rw [List.length_drop]
      omega
    · exact braced read
  · exact braced read

/-- The name of a property takes at least one character. -/
theorem length_propertyText_lt {input text rest : List Char}
    (read : propertyText input = some (text, rest)) : rest.length < input.length := by
  unfold propertyText at read
  split at read
  · dsimp only at read
    split at read
    · exact nomatch read
    · obtain ⟨-, rfl⟩ := Prod.mk.injEq .. ▸ Option.some.inj read
      simp only [List.length_drop, List.length_cons]
      omega
  · obtain ⟨-, rfl⟩ := Prod.mk.injEq .. ▸ Option.some.inj read
    exact Nat.lt_succ_self _
  · exact nomatch read

/-- The name of a group that is referred to, in quotes or in angles. -/
def referredName (input : List Char) : Option (List Char × List Char) :=
  if input.head? == some '\'' then name ['\''] ['\''] true input else name ['<'] ['>'] true input

/-- An escape that is a part of the pattern of its own, or the character itself. -/
def ownEscape (memory : Memory) (char : Char) (rest : List Char) : Option (Escaped × List Char) :=
  match char with
  | 'k' => (referredName rest).bind fun (found, rest) =>
    (namedReference memory found).map fun expression => (.expression expression memory, rest)
  | 'A' => some (.expression (.condition .textStart) memory, rest)
  | 'z' => some (.expression (.condition .textEnd) memory, rest)
  | 'b' =>
    if rest.head? == some '\x7b' then none
    else some (.expression (.condition (.wordBoundary .unicode)) memory, rest)
  | 'B' =>
    if rest.head? == some '\x7b' then none
    else some (.expression (.condition (.notWordBoundary .unicode)) memory, rest)
  | '<' => some (.expression (.condition (.wordStart .unicode)) memory, rest)
  | '>' => some (.expression (.condition (.wordEnd .unicode)) memory, rest)
  | 'K' => some (.expression .keepOut memory, rest)
  | 'G' => some (.expression .searchStart memory, rest)
  | _ => if char.isAlpha then none else some (.exact char, rest)

/-- An escape that is neither a code nor a character with a name. -/
def otherEscape (memory : Memory) (inClass : Bool) (char : Char) (rest : List Char) :
    Option (Escaped × List Char) :=
  if char.isDigit then
    if inClass then none
    else (numberedReference memory (char :: rest)).map fun (expression, memory, rest) =>
      (.expression expression memory, rest)
  else if "dDsSwW".toList.contains char then some (.text ['\\', char], rest)
  else if inClass then
    if char.isAlpha && !"kAzbBKG".toList.contains char then none else some (.char char, rest)
  else ownEscape memory char rest

/-- An escape for a code, a property or a character with a name. -/
def namedEscape (char : Char) (rest : List Char) : Option (Escaped × List Char) :=
  match char with
  | 'x' => (hexCode 2 rest).map fun (char, rest) => (.char char, rest)
  | 'u' => (hexCode 4 rest).map fun (char, rest) => (.char char, rest)
  | 'U' => (hexCode 8 rest).map fun (char, rest) => (.char char, rest)
  | 'a' => some (.char '\x07', rest)
  | 'f' => some (.char '\x0c', rest)
  | 'n' => some (.char '\n', rest)
  | 'r' => some (.char '\r', rest)
  | 't' => some (.char '\t', rest)
  | 'v' => some (.char '\x0b', rest)
  | 'e' => some (.char '\x1b', rest)
  | 'h' => some (.text "[0-9A-Fa-f]".toList, rest)
  | 'H' => some (.text "[^0-9A-Fa-f]".toList, rest)
  | 'p' => (propertyText rest).map fun (text, rest) => (.text ('\\' :: 'p' :: text), rest)
  | 'P' => (propertyText rest).map fun (text, rest) => (.text ('\\' :: 'P' :: text), rest)
  | _ => none

/-- The letters of those escapes. -/
def isNamedEscape (char : Char) : Bool := "xuUafnrtvehHpP".toList.contains char

/-- A reference by name is a name and the group that it stands for. -/
theorem bind_referredName (memory : Memory) (input : List Char) : (do
      let (found, rest) ←
        if input.head? == some '\'' then name ['\''] ['\''] true input
        else name ['<'] ['>'] true input
      let expression ← namedReference memory found
      return (Escaped.expression expression memory, rest)) =
      (referredName input).bind fun (found, rest) =>
        (namedReference memory found).map fun expression =>
          (.expression expression memory, rest) := by
  have goesOn (found : Option (List Char × List Char)) : (do
      let (found, rest) ← found
      let expression ← namedReference memory found
      return (Escaped.expression expression memory, rest)) =
      found.bind fun (found, rest) =>
        (namedReference memory found).map fun expression =>
          (.expression expression memory, rest) := by
    cases found with
    | none => rfl
    | some found =>
        simp only [Option.bind_eq_bind, Option.bind_some]
        cases namedReference memory found.1 <;> rfl
  unfold referredName
  split
  · exact goesOn _
  · exact goesOn _

/-- An escape is one with a name, or another one. -/
theorem escape_cons (memory : Memory) (inClass : Bool) (char : Char) (rest : List Char) :
    escape memory inClass (char :: rest) =
      if isNamedEscape char then namedEscape char rest else otherEscape memory inClass char rest := by
  unfold escape
  split
  case h_16 =>
    rename_i same
    obtain ⟨rfl, rfl⟩ := List.cons.inj same
    have other : isNamedEscape char = false := by simp_all [isNamedEscape]
    simp only [other, Bool.false_eq_true, if_false, otherEscape]
    split
    · rfl
    split
    · rfl
    split
    · rfl
    by_cases letter : char ∈ ['k', 'A', 'z', 'b', 'B', '<', '>', 'K', 'G']
    · simp only [List.mem_cons, List.not_mem_nil, or_false] at letter
      obtain rfl | rfl | rfl | rfl | rfl | rfl | rfl | rfl | rfl := letter
      · exact bind_referredName memory rest
      all_goals rfl
    · simp_all [ownEscape]
  · next same => exact absurd same (List.cons_ne_nil _ _)
  all_goals
    next same =>
      obtain ⟨rfl, rfl⟩ := List.cons.inj same
      rfl

/-- An escape that is a part of its own leaves no more than there was. -/
theorem length_ownEscape_le {memory : Memory} {char : Char} {input rest : List Char}
    {found : Escaped} (read : ownEscape memory char input = some (found, rest)) :
    rest.length ≤ input.length := by
  unfold ownEscape at read
  split at read
  · obtain ⟨⟨named, left⟩, here, there⟩ := Option.bind_eq_some_iff.mp read
    obtain ⟨expression, -, same⟩ := Option.map_eq_some_iff.mp there
    obtain ⟨-, rfl⟩ := Prod.mk.inj same
    unfold referredName at here
    split at here
    · exact Nat.le_of_lt (length_name_lt here)
    · exact Nat.le_of_lt (length_name_lt here)
  all_goals
    try split at read
    all_goals
      first
        | (obtain ⟨-, rfl⟩ := Prod.mk.inj (Option.some.inj read); exact Nat.le_refl _)
        | simp at read

/-- An escape without a name leaves no more than there was. -/
theorem length_otherEscape_le {memory : Memory} {inClass : Bool} {char : Char}
    {input rest : List Char} {found : Escaped}
    (read : otherEscape memory inClass char input = some (found, rest)) :
    rest.length ≤ input.length := by
  unfold otherEscape at read
  split at read
  · split at read
    · exact nomatch read
    · obtain ⟨⟨expression, after, left⟩, here, same⟩ := Option.map_eq_some_iff.mp read
      obtain ⟨-, rfl⟩ := Prod.mk.inj same
      exact Nat.le_of_lt_succ (length_numberedReference_lt here)
  split at read
  · obtain ⟨-, rfl⟩ := Prod.mk.inj (Option.some.inj read)
    exact Nat.le_refl _
  split at read
  · split at read
    · exact nomatch read
    · obtain ⟨-, rfl⟩ := Prod.mk.inj (Option.some.inj read)
      exact Nat.le_refl _
  · exact length_ownEscape_le read

/-- An escape with a name leaves no more than there was. -/
theorem length_namedEscape_le {char : Char} {input rest : List Char} {found : Escaped}
    (read : namedEscape char input = some (found, rest)) : rest.length ≤ input.length := by
  have code {count : Nat} (read : (hexCode count input).map
      (fun (char, rest) => (Escaped.char char, rest)) = some (found, rest)) :
      rest.length ≤ input.length := by
    obtain ⟨⟨char, left⟩, here, same⟩ := Option.map_eq_some_iff.mp read
    obtain ⟨-, rfl⟩ := Prod.mk.inj same
    exact length_hexCode_le here
  have property {letter : Char} (read : (propertyText input).map
      (fun (text, rest) => (Escaped.text ('\\' :: letter :: text), rest)) = some (found, rest)) :
      rest.length ≤ input.length := by
    obtain ⟨⟨text, left⟩, here, same⟩ := Option.map_eq_some_iff.mp read
    obtain ⟨-, rfl⟩ := Prod.mk.inj same
    exact Nat.le_of_lt (length_propertyText_lt here)
  unfold namedEscape at read
  split at read
  all_goals
    first
      | (obtain ⟨-, rfl⟩ := Prod.mk.inj (Option.some.inj read); exact Nat.le_refl _)
      | exact code read
      | exact property read
      | simp at read

/-- An escape takes at least its letter. -/
theorem length_escape_lt {memory : Memory} {inClass : Bool} {input rest : List Char}
    {found : Escaped} (read : escape memory inClass input = some (found, rest)) :
    rest.length < input.length := by
  match input with
  | [] => exact nomatch read
  | char :: tail =>
      rw [escape_cons] at read
      split at read
      · exact Nat.lt_succ_of_le (length_namedEscape_le read)
      · exact Nat.lt_succ_of_le (length_otherEscape_le read)

/-- The text of a class takes at least its closing bracket. -/
theorem length_classText_lt {memory : Memory} {fuel depth : Nat} {input text rest : List Char}
    (read : classText memory fuel depth input = some (text, rest)) : rest.length < input.length := by
  induction fuel generalizing depth input text with
  | zero => exact nomatch read
  | succ fuel ih =>
      have inner {depth : Nat} {tail : List Char} {make : List Char → List Char}
          (read : (classText memory fuel depth tail).map (fun (text, rest) => (make text, rest)) =
            some (text, rest)) : rest.length < tail.length := by
        obtain ⟨⟨body, left⟩, here, same⟩ := Option.map_eq_some_iff.mp read
        obtain ⟨-, rfl⟩ := Prod.mk.inj same
        exact ih here
      unfold classText at read
      split at read
      · exact nomatch read
      · split at read
        · next escaped => exact Nat.lt_trans (inner read) (Nat.lt_succ_of_lt (length_escape_lt escaped))
        · next escaped => exact Nat.lt_trans (inner read) (Nat.lt_succ_of_lt (length_escape_lt escaped))
        · exact nomatch read
      · exact Nat.lt_succ_of_lt (inner read)
      · split at read
        · obtain ⟨-, rfl⟩ := Prod.mk.inj (Option.some.inj read)
          exact Nat.lt_succ_self _
        · exact Nat.lt_succ_of_lt (inner read)
      · exact Nat.lt_succ_of_lt (inner read)

/-- The sign at the start of a class that excludes its members. -/
def negationStart (input : List Char) : List Char × List Char :=
  match input with
  | '^' :: rest => (['^'], rest)
  | _ => ([], input)

/-- A closing bracket that is the first member of a class. -/
def firstBracket (input : List Char) : List Char × List Char :=
  match input with
  | ']' :: rest => ([']'], rest)
  | _ => ([], input)

/-- The text of a class is its negation, a first bracket and the rest. -/
theorem bracketText_eq (memory : Memory) (input : List Char) : bracketText memory input =
    let start := negationStart input
    let first := firstBracket start.2
    (classText memory (first.2.length + 1) 0 first.2).map fun (text, rest) =>
      ('[' :: start.1 ++ first.1 ++ text, rest) := rfl

/-- The negation of a class leaves no more than there was. -/
theorem length_negationStart_le (input : List Char) :
    (negationStart input).2.length ≤ input.length := by
  unfold negationStart
  split
  · exact Nat.le_succ _
  · exact Nat.le_refl _

/-- A first bracket of a class leaves no more than there was. -/
theorem length_firstBracket_le (input : List Char) :
    (firstBracket input).2.length ≤ input.length := by
  unfold firstBracket
  split
  · exact Nat.le_succ _
  · exact Nat.le_refl _

/-- A class takes at least its closing bracket. -/
theorem length_bracketText_lt {memory : Memory} {input text rest : List Char}
    (read : bracketText memory input = some (text, rest)) : rest.length < input.length := by
  rw [bracketText_eq] at read
  obtain ⟨⟨body, left⟩, here, same⟩ := Option.map_eq_some_iff.mp read
  obtain ⟨-, rfl⟩ := Prod.mk.inj same
  exact Nat.lt_of_lt_of_le (length_classText_lt here)
    (Nat.le_trans (length_firstBracket_le _) (length_negationStart_le input))

/-- A simple expression takes at least one character. -/
theorem length_simple_lt {memory after : Memory} {input rest : List Char} {item : Expression}
    (read : simple memory input = some (item, after, rest)) : rest.length < input.length := by
  unfold simple at read
  split at read
  · exact nomatch read
  · obtain ⟨-, -, rfl⟩ := Prod.mk.injEq .. ▸ Option.some.inj read
    exact Nat.lt_succ_self _
  · obtain ⟨-, -, rfl⟩ := Prod.mk.injEq .. ▸ Option.some.inj read
    exact Nat.lt_succ_self _
  · obtain ⟨-, -, rfl⟩ := Prod.mk.injEq .. ▸ Option.some.inj read
    exact Nat.lt_succ_self _
  · split at read
    · next escaped =>
        obtain ⟨-, -, rfl⟩ := Prod.mk.injEq .. ▸ Option.some.inj read
        exact Nat.lt_succ_of_lt (length_escape_lt escaped)
    · next escaped =>
        obtain ⟨-, -, rfl⟩ := Prod.mk.injEq .. ▸ Option.some.inj read
        exact Nat.lt_succ_of_lt (length_escape_lt escaped)
    · next escaped =>
        obtain ⟨found, -, same⟩ := Option.map_eq_some_iff.mp read
        obtain ⟨-, -, rfl⟩ := Prod.mk.injEq .. ▸ same
        exact Nat.lt_succ_of_lt (length_escape_lt escaped)
    · next escaped =>
        obtain ⟨-, -, rfl⟩ := Prod.mk.injEq .. ▸ Option.some.inj read
        exact Nat.lt_succ_of_lt (length_escape_lt escaped)
    · exact nomatch read
  · simp only [Option.bind_eq_bind, Option.bind_eq_some_iff, Prod.exists] at read
    obtain ⟨text, left, bracket, found, -, same⟩ := read
    obtain ⟨-, -, rfl⟩ := Prod.mk.injEq .. ▸ Option.some.inj same
    exact Nat.lt_succ_of_lt (length_bracketText_lt bracket)
  · obtain ⟨-, -, rfl⟩ := Prod.mk.injEq .. ▸ Option.some.inj read
    exact Nat.lt_succ_self _

/-! ### Groups and repetitions -/

/-- Flags take at least the mark that ends them. -/
theorem length_flags_lt {negated opens : Bool} {count fuel : Nat} {memory after : Memory}
    {input rest : List Char} (read : flags negated count fuel memory input = some (after, opens, rest)) :
    rest.length < input.length := by
  induction fuel generalizing negated count memory input with
  | zero => exact nomatch read
  | succ fuel ih =>
      unfold flags at read
      split at read
      · exact nomatch read
      · next start skipped =>
          have shorter := length_skip_le skipped
          dsimp only at read
          split at read
          case h_10 => exact nomatch read
          case h_8 | h_9 =>
            split at read
            · exact nomatch read
            · obtain ⟨-, -, rfl⟩ := Prod.mk.injEq .. ▸ Option.some.inj read
              exact shorter
          case h_6 | h_7 =>
            split at read
            · exact nomatch read
            · exact Nat.lt_of_lt_of_le (ih read) (Nat.le_of_succ_le shorter)
          all_goals exact Nat.lt_of_lt_of_le (ih read) (Nat.le_of_succ_le shorter)

/-- The start of a group leaves no more than there was. -/
theorem length_opening_le {memory inner : Memory} {input rest : List Char} {start : Opening}
    (read : opening memory input = some (start, inner, rest)) : rest.length ≤ input.length := by
  have named {tail : List Char} (read : opening.named memory ('<' :: tail) = some (start, inner, rest)) :
      rest.length ≤ tail.length := by
    obtain ⟨⟨found, left⟩, here, same⟩ := Option.bind_eq_some_iff.mp read
    obtain ⟨-, -, rfl⟩ := Prod.mk.injEq .. ▸ Option.some.inj same
    exact Nat.le_of_lt_succ (length_name_lt here)
  obtain ⟨after, skipped, found⟩ := Option.bind_eq_some_iff.mp read
  have shorter := length_skip_le skipped
  split at found
  case h_5 | h_6 =>
    have further := named found
    simp only [List.length_cons] at shorter
    omega
  case h_7 =>
    simp only [Option.bind_eq_bind, Option.bind_eq_some_iff, Prod.exists] at found
    obtain ⟨named, left, here, expression, -, same⟩ := found
    obtain ⟨-, -, rfl⟩ := Prod.mk.injEq .. ▸ Option.some.inj same
    have further := length_name_lt here
    simp only [List.length_cons] at shorter
    omega
  case h_10 =>
    obtain ⟨⟨after, opens, left⟩, here, same⟩ := Option.bind_eq_some_iff.mp found
    obtain ⟨-, -, rfl⟩ := Prod.mk.injEq .. ▸ Option.some.inj same
    have further := length_flags_lt here
    simp only [List.length_cons] at shorter
    omega
  all_goals
    obtain ⟨-, -, rfl⟩ := Prod.mk.injEq .. ▸ Option.some.inj found
    first
      | exact shorter
      | (simp only [List.length_cons] at shorter; omega)

/-- A repetition takes at least its mark. -/
theorem length_repetition?_lt {memory : Memory} {input rest : List Char} {low : Nat}
    {high : Option Nat} (read : repetition? memory input = some (low, high, rest)) :
    rest.length < input.length := by
  unfold repetition? at read
  split at read
  case h_4 => exact Nat.lt_succ_of_lt (length_bounds_lt read)
  case h_5 => exact nomatch read
  all_goals
    obtain ⟨-, -, rfl⟩ := Prod.mk.injEq .. ▸ Option.some.inj read
    exact Nat.lt_succ_self _

/-- The mark for lazy rounds leaves no more than there was. -/
theorem length_preference_le (input : List Char) : (preference input).2.length ≤ input.length := by
  unfold preference
  split
  · exact Nat.le_succ _
  · exact Nat.le_refl _

/-- The mark for possessive rounds leaves no more than there was. -/
theorem length_possessive_le (rounds : Expression) (input : List Char) :
    (possessive rounds input).2.length ≤ input.length := by
  unfold possessive
  split
  · exact Nat.le_succ _
  · exact Nat.le_refl _

/-- A repetition leaves no more than there was. -/
theorem length_withRepetition_le {memory : Memory} {body item : Expression}
    {input rest : List Char} (read : withRepetition memory body input = some (item, rest)) :
    rest.length ≤ input.length := by
  obtain ⟨start, skipped, found⟩ := Option.bind_eq_some_iff.mp read
  have shorter := length_skip_le skipped
  split at found
  · obtain ⟨-, rfl⟩ := Prod.mk.inj (Option.some.inj found)
    exact shorter
  · next low high left counts =>
      have fewer := length_repetition?_lt counts
      split at found
      · obtain ⟨after, skippedAfter, made⟩ := Option.bind_eq_some_iff.mp found
        have further := length_skip_le skippedAfter
        have lazy := length_preference_le after
        have last := length_possessive_le (.rounds body low high
          ((preference after).1 != memory.swapGreed)) (preference after).2
        have same : possessive (.rounds body low high ((preference after).1 != memory.swapGreed))
            (preference after).2 = (item, rest) := Option.some.inj made
        rw [same] at last
        exact Nat.le_trans (Nat.le_trans last lazy)
          (Nat.le_trans further (Nat.le_trans (Nat.le_of_lt fewer) shorter))
      · exact nomatch found

/-- A closing parenthesis is taken. -/
theorem length_close_lt {memory : Memory} {input rest : List Char}
    (read : close memory input = some rest) : rest.length < input.length := by
  obtain ⟨start, skipped, closed⟩ := Option.bind_eq_some_iff.mp read
  have shorter := length_skip_le skipped
  split at closed
  · obtain rfl := Option.some.inj closed
    exact shorter
  · exact nomatch closed

end TypedJson.Backtrack.Reader
