import TypedJson.Regex.Reader

namespace TypedJson.Regex.Reader

/-! ### Parts -/

/-- Skipping blanks and comments leaves no more than there was. -/
theorem length_skipExtended_le (inComment : Bool) (input : List Char) :
    (skipExtended inComment input).length ≤ input.length := by
  induction input generalizing inComment with
  | nil => exact Nat.le_refl _
  | cons char rest ih =>
      rw [skipExtended]
      split
      · exact Nat.le_succ_of_le (ih _)
      · split
        · exact Nat.le_succ_of_le (ih _)
        · split
          · exact Nat.le_succ_of_le (ih _)
          · exact Nat.le_refl _

/-- Skipping leaves no more than there was, with and without the flag for it. -/
theorem length_skip_le (extended : Bool) (input : List Char) :
    (skip extended input).length ≤ input.length := by
  rw [skip]
  split
  · exact length_skipExtended_le false input
  · exact Nat.le_refl _

/-- Reading hexadecimal digits leaves no more than there was. -/
theorem length_hexDigits_le {extended : Bool} {count value code : Nat} {input rest : List Char}
    (read : hexDigits extended count value input = some (code, rest)) :
    rest.length ≤ input.length := by
  fun_induction hexDigits extended count value input with
  | case1 value input => simp_all
  | case2 => simp at read
  | case3 value count char tail digit known ih =>
      have skipped := length_skip_le extended tail
      have further := ih read
      simp only [List.length_cons]
      omega
  | case4 => simp at read

/-- Reading up to a brace takes the brace. -/
theorem length_untilBrace_lt {extended inComment : Bool} {input body rest : List Char}
    (read : untilBrace extended inComment input = some (body, rest)) :
    rest.length < input.length := by
  induction input generalizing inComment body with
  | nil => simp [untilBrace] at read
  | cons char tail ih =>
      rw [List.length_cons, Nat.lt_succ_iff]
      rw [untilBrace] at read
      split at read
      · exact Nat.le_of_lt (ih read)
      split at read
      · exact Nat.le_of_lt (ih read)
      split at read
      · exact Nat.le_of_lt (ih read)
      split at read
      · obtain ⟨-, rfl⟩ := Prod.mk.inj (Option.some.inj read)
        exact Nat.le_refl _
      · obtain ⟨⟨found, after⟩, here, same⟩ := Option.map_eq_some_iff.mp read
        obtain ⟨-, rfl⟩ := Prod.mk.inj same
        exact Nat.le_of_lt (ih here)

/-- Reading a code in hexadecimal leaves no more than there was. -/
theorem length_hexCode_le {extended : Bool} {count : Nat} {input rest : List Char} {atom : Atom}
    (read : hexCode extended count input = some (atom, rest)) : rest.length ≤ input.length := by
  have skipped := length_skip_le extended input
  unfold hexCode at read
  split at read
  · simp at read
  · next tail after =>
      simp only [Option.bind_eq_bind, Option.bind_eq_some_iff] at read
      obtain ⟨⟨body, found⟩, here, digits, -, read⟩ := read
      split at read
      · simp at read
      · obtain ⟨char, -, same⟩ := Option.bind_eq_some_iff.mp read
        obtain ⟨-, rfl⟩ := Prod.mk.inj (Option.some.inj same)
        have shorter := length_untilBrace_lt here
        rw [after, List.length_cons] at skipped
        exact Nat.le_trans (Nat.le_of_lt shorter) (Nat.le_of_succ_le skipped)
  · simp only [Option.bind_eq_bind, Option.bind_eq_some_iff] at read
    obtain ⟨⟨code, found⟩, here, char, -, same⟩ := read
    obtain ⟨-, rfl⟩ := Prod.mk.inj (Option.some.inj same)
    exact Nat.le_trans (length_hexDigits_le here) skipped

/-- Reading the name of a property leaves no more than there was. -/
theorem length_property_le {extended negated : Bool} {input rest : List Char} {atom : Atom}
    (read : property extended negated input = some (atom, rest)) : rest.length ≤ input.length := by
  have skipped := length_skip_le extended input
  unfold property at read
  split at read
  · simp at read
  · next tail after =>
      simp only [Option.bind_eq_bind, Option.bind_eq_some_iff] at read
      obtain ⟨⟨name, found⟩, here, ⟨excluded, ranges⟩, -, same⟩ := read
      obtain ⟨-, rfl⟩ := Prod.mk.inj (Option.some.inj same)
      have shorter := length_untilBrace_lt here
      rw [after, List.length_cons] at skipped
      exact Nat.le_trans (Nat.le_of_lt shorter) (Nat.le_of_succ_le skipped)
  · simp at read
  · next char tail _ _ after =>
      simp only [Option.bind_eq_bind, Option.bind_eq_some_iff] at read
      obtain ⟨ranges, -, same⟩ := read
      obtain ⟨-, rfl⟩ := Prod.mk.inj (Option.some.inj same)
      have more := length_skip_le extended tail
      rw [after, List.length_cons] at skipped
      exact Nat.le_trans more (Nat.le_of_succ_le skipped)

/-- Reading the kind of a boundary leaves no more than there was. -/
theorem length_boundary_le (input : List Char) :
    (escape.boundary input).2.length ≤ input.length := by
  unfold escape.boundary
  dsimp only
  split
  · exact List.length_drop ▸ Nat.sub_le _ _
  · exact Nat.le_refl _

/-- Reading an escape takes a character at least. -/
theorem length_escape_lt {extended : Bool} {input rest : List Char} {atom : Atom}
    (read : escape extended input = some (atom, rest)) : rest.length < input.length := by
  unfold escape at read
  split at read
  all_goals try
    (obtain ⟨-, rfl⟩ := Prod.mk.inj (Option.some.inj read)
     exact Nat.lt_succ_self _)
  · simp at read
  · exact Nat.lt_succ_of_le (length_hexCode_le read)
  · exact Nat.lt_succ_of_le (length_hexCode_le read)
  · exact Nat.lt_succ_of_le (length_hexCode_le read)
  · exact Nat.lt_succ_of_le (length_property_le read)
  · exact Nat.lt_succ_of_le (length_property_le read)
  · next tail =>
      have shorter := length_boundary_le tail
      rw [Option.some.inj read] at shorter
      exact Nat.lt_succ_of_le shorter
  · split at read
    · obtain ⟨-, rfl⟩ := Prod.mk.inj (Option.some.inj read)
      exact Nat.lt_succ_self _
    · simp at read

/-- Reading a named class of ASCII takes a character at least. -/
theorem length_asciiClass_lt {input rest : List Char} {item : ClassExpression}
    (read : asciiClass input = some (item, rest)) : rest.length < input.length := by
  have named {negated : Bool} {input : List Char}
      (read : asciiClass.named negated input = some (item, rest)) : rest.length < input.length := by
    unfold asciiClass.named at read
    dsimp only at read
    split at read
    · next tail after =>
        obtain ⟨ranges, -, same⟩ := Option.map_eq_some_iff.mp read
        obtain ⟨-, rfl⟩ := Prod.mk.inj same
        have shorter := congrArg List.length after
        rw [List.length_drop, List.length_cons, List.length_cons] at shorter
        omega
    · simp at read
  unfold asciiClass at read
  split at read
  · exact Nat.lt_succ_of_lt (Nat.lt_succ_of_lt (named read))
  · exact Nat.lt_succ_of_lt (named read)
  · simp at read

/-- Reading one end of a range takes a character at least. -/
theorem length_classAtom_lt {extended : Bool} {input rest : List Char} {atom : Atom}
    (read : classAtom extended input = some (atom, rest)) : rest.length < input.length := by
  unfold classAtom at read
  split at read
  · simp at read
  · exact Nat.lt_succ_of_lt (length_escape_lt read)
  · obtain ⟨-, rfl⟩ := Prod.mk.inj (Option.some.inj read)
    exact Nat.lt_succ_self _

/-- Reading an item of a class takes a character at least. -/
theorem length_classItem_lt {extended : Bool} {input rest : List Char} {item : ClassExpression}
    (read : classItem extended input = some (item, rest)) : rest.length < input.length := by
  simp only [classItem, Option.bind_eq_bind, Option.bind_eq_some_iff] at read
  obtain ⟨⟨first, found⟩, here, read⟩ := read
  have shorter := length_classAtom_lt here
  have skipped := length_skip_le extended found
  dsimp only at read
  split at read
  · simp at read
  · next after hyphen =>
      rw [hyphen, List.length_cons] at skipped
      split at read
      · obtain ⟨set, -, same⟩ := Option.bind_eq_some_iff.mp read
        obtain ⟨-, rfl⟩ := Prod.mk.inj (Option.some.inj same)
        rw [List.length_cons]
        omega
      · obtain ⟨⟨last, tail⟩, there, read⟩ := Option.bind_eq_some_iff.mp read
        have more := length_skip_le extended after
        have further := length_classAtom_lt there
        dsimp only at read
        split at read
        · split at read
          · obtain ⟨-, rfl⟩ := Prod.mk.inj (Option.some.inj read)
            omega
          · simp at read
        · simp at read
  · obtain ⟨set, -, same⟩ := Option.bind_eq_some_iff.mp read
    obtain ⟨-, rfl⟩ := Prod.mk.inj (Option.some.inj same)
    omega

/-- Reading the hyphens at the start of a class leaves no more than there was. -/
theorem length_leadingHyphens_le (extended : Bool) (fuel : Nat) (input : List Char) :
    (leadingHyphens extended fuel input).2.length ≤ input.length := by
  induction fuel generalizing input with
  | zero => exact Nat.le_refl _
  | succ fuel ih =>
      unfold leadingHyphens
      split
      · next tail =>
          have skipped := length_skip_le extended tail
          exact Nat.le_succ_of_le (Nat.le_trans (ih _) skipped)
      · exact Nat.le_refl _

/-- Whether a class is negated, and what follows the mark for it. -/
def classNegation (extended : Bool) (input : List Char) : Bool × List Char :=
  match skip extended input with
  | '^' :: rest => (true, skip extended rest)
  | rest => (false, rest)

/-- The first members of a class, hyphens or a bracket, and what follows them. -/
def classFirst (extended : Bool) (input : List Char) : OpenClass × List Char :=
  match leadingHyphens extended input.length input with
  | ([], ']' :: rest) => (⟨none, [.literal ']' false]⟩, skip extended rest)
  | (hyphens, rest) => (⟨none, hyphens.reverse⟩, rest)

/-- The first items of a class are its hyphens, or a bracket in their absence. -/
theorem classFirst_eq (extended negated : Bool) (input : List Char) :
    (negated, classFirst extended input) =
      match (leadingHyphens extended input.length input).1,
          (leadingHyphens extended input.length input).2 with
      | [], ']' :: rest => (negated, ⟨none, [.literal ']' false]⟩, skip extended rest)
      | _, _ => (negated, ⟨none, (leadingHyphens extended input.length input).1.reverse⟩,
          (leadingHyphens extended input.length input).2) := by
  rw [classFirst]
  split <;> split <;> simp_all

/-- The opening of a class is its negation and then its first items. -/
theorem classOpen_eq (extended : Bool) (input : List Char) :
    classOpen extended input =
      ((classNegation extended input).1, classFirst extended (classNegation extended input).2) := by
  unfold classOpen classNegation
  generalize skip extended input = start
  cases start with
  | nil => rfl
  | cons char rest =>
      by_cases mark : char = '^'
      · subst mark
        exact (classFirst_eq extended true (skip extended rest)).symm
      · simp only [List.cons.injEq, mark, false_and, imp_self, implies_true]
        exact (classFirst_eq extended false (char :: rest)).symm

/-- Reading whether a class is negated leaves no more than there was. -/
theorem length_classNegation_le (extended : Bool) (input : List Char) :
    (classNegation extended input).2.length ≤ input.length := by
  have skipped := length_skip_le extended input
  rw [classNegation]
  split
  · next tail mark =>
      have more := length_skip_le extended tail
      rw [mark, List.length_cons] at skipped
      exact Nat.le_trans more (Nat.le_of_succ_le skipped)
  · exact skipped

/-- Reading the first items of a class leaves no more than there was. -/
theorem length_classFirst_le (extended : Bool) (input : List Char) :
    (classFirst extended input).2.length ≤ input.length := by
  have hyphens := length_leadingHyphens_le extended input.length input
  rw [classFirst]
  split
  · next tail bracket =>
      have more := length_skip_le extended tail
      rw [bracket, List.length_cons] at hyphens
      exact Nat.le_trans more (Nat.le_of_succ_le hyphens)
  · next found =>
      rw [found] at hyphens
      exact hyphens

/-- Reading the opening of a class leaves no more than there was. -/
theorem length_classOpen_le (extended : Bool) (input : List Char) :
    (classOpen extended input).2.2.length ≤ input.length := by
  rw [classOpen_eq]
  exact Nat.le_trans (length_classFirst_le _ _) (length_classNegation_le _ _)

/-- Reading the digits of a count leaves no more than there was. -/
theorem length_countDigits_le (extended inComment : Bool) (input : List Char) :
    (countDigits extended inComment input).2.length ≤ input.length := by
  induction input generalizing inComment with
  | nil => exact Nat.le_refl _
  | cons char rest ih =>
      rw [countDigits]
      split
      · exact Nat.le_succ_of_le (ih _)
      split
      · exact Nat.le_succ_of_le (ih _)
      split
      · exact Nat.le_succ_of_le (ih _)
      split
      · exact Nat.le_succ_of_le (ih _)
      · exact Nat.le_refl _

/-- Dropping characters from the start leaves no more than there was. -/
theorem length_dropWhile_le (test : Char → Bool) (input : List Char) :
    (input.dropWhile test).length ≤ input.length :=
  (List.dropWhile_suffix test).length_le

/-- Reading a count leaves no more than there was. -/
theorem length_count_le {extended : Bool} {input rest : List Char} {value : Nat}
    (read : count extended input = some (value, rest)) : rest.length ≤ input.length := by
  unfold count at read
  dsimp only at read
  split at read
  · simp at read
  · obtain ⟨-, rfl⟩ := Prod.mk.inj (Option.some.inj read)
    exact Nat.le_trans (length_dropWhile_le _ _)
      (Nat.le_trans (length_countDigits_le _ _ _) (length_dropWhile_le _ _))

/-- Reading the bounds of a repetition takes the closing brace. -/
theorem length_bounds_lt {extended : Bool} {input rest : List Char} {low : Nat} {high : Option Nat}
    (read : bounds extended input = some (low, high, rest)) : rest.length < input.length := by
  have skipped := length_skip_le extended input
  simp only [bounds, Option.bind_eq_bind, Option.bind_eq_some_iff] at read
  obtain ⟨⟨least, found⟩, here, read⟩ := read
  have shorter := Nat.le_trans (length_count_le here) skipped
  dsimp only at read
  split at read
  · obtain ⟨-, -, rfl⟩ := read
    exact shorter
  · next tail =>
      have more := length_skip_le extended tail
      split at read
      · next after close =>
          obtain ⟨-, -, rfl⟩ := read
          rw [close] at more
          exact Nat.lt_trans (Nat.lt_of_succ_le more) shorter
      · obtain ⟨⟨greatest, after⟩, there, read⟩ := Option.bind_eq_some_iff.mp read
        have further := Nat.le_trans (length_count_le there) more
        dsimp only at read
        split at read
        · split at read
          · obtain ⟨-, -, rfl⟩ := read
            exact Nat.lt_trans (Nat.lt_of_succ_le further) shorter
          · simp at read
        · simp at read
  · simp at read

/-- Reading flags takes the character that ends them. -/
theorem length_flags_lt {negated hyphenLast opens : Bool} {done list : FlagList}
    {input rest : List Char}
    (read : flags negated hyphenLast done input = some (list, opens, rest)) :
    rest.length < input.length := by
  fun_induction flags negated hyphenLast done input generalizing list opens with
  | case1 => simp at read
  | case2 => simp at read
  | case3 =>
      obtain ⟨-, -, rfl⟩ := read
      exact Nat.lt_succ_self _
  | case4 => simp at read
  | case5 =>
      obtain ⟨-, -, rfl⟩ := read
      exact Nat.lt_succ_self _
  | case6 => simp at read
  | case7 =>
      rename_i ih
      exact Nat.lt_succ_of_lt (ih read)
  | case8 => simp at read
  | case9 => simp at read
  | case10 =>
      rename_i ih
      exact Nat.lt_succ_of_lt (ih read)

/-- Reading the name of a group takes the character that ends it. -/
theorem length_groupName_lt {input name rest : List Char}
    (read : groupName input = some (name, rest)) : rest.length < input.length := by
  unfold groupName at read
  dsimp only at read
  split at read
  · next after =>
      split at read
      · obtain ⟨-, rfl⟩ := Prod.mk.inj (Option.some.inj read)
        have shorter := congrArg List.length after
        rw [List.length_drop, List.length_cons] at shorter
        omega
      · simp at read
  · simp at read

/-- Reading what follows an opening parenthesis leaves no more than there was. -/
theorem length_opening_le {memory inner : Memory} {input rest : List Char} {start : Opening}
    (read : opening memory input = some (start, inner, rest)) : rest.length ≤ input.length := by
  have skipped := length_skip_le memory.extended input
  have named {input : List Char}
      (read : opening.named memory input = some (start, inner, rest)) :
      rest.length ≤ input.length := by
    simp only [opening.named, Option.bind_eq_bind, Option.bind_eq_some_iff] at read
    obtain ⟨⟨name, found⟩, here, read⟩ := read
    dsimp only at read
    split at read
    · simp at read
    · obtain ⟨-, -, rfl⟩ := read
      exact Nat.le_of_lt (length_groupName_lt here)
  unfold opening at read
  split at read
  · simp at read
  · simp at read
  · simp at read
  · simp at read
  · next tail mark =>
      rw [mark] at skipped
      exact Nat.le_trans (named read) (Nat.le_of_add_right_le (k := 3) skipped)
  · next tail _ _ mark =>
      rw [mark] at skipped
      exact Nat.le_trans (named read) (Nat.le_of_add_right_le (k := 2) skipped)
  · next tail _ _ _ _ _ _ mark =>
      rw [mark] at skipped
      simp only [Option.bind_eq_bind, Option.bind_eq_some_iff] at read
      obtain ⟨⟨list, opens, found⟩, here, same⟩ := read
      obtain ⟨-, -, rfl⟩ := same
      exact Nat.le_trans (Nat.le_of_lt (length_flags_lt here)) (Nat.le_of_succ_le skipped)
  · obtain ⟨-, -, rfl⟩ := read
    exact skipped

/-- Reading a single item takes a character at least. -/
theorem length_simple_lt {extended : Bool} {input rest : List Char} {item : Expression}
    (read : simple extended input = some (item, rest)) : rest.length < input.length := by
  unfold simple at read
  split at read
  · simp at read
  · obtain ⟨⟨atom, found⟩, here, same⟩ := Option.map_eq_some_iff.mp read
    obtain ⟨-, rfl⟩ := Prod.mk.inj same
    exact Nat.lt_succ_of_lt (length_escape_lt here)
  all_goals
    obtain ⟨-, rfl⟩ := Prod.mk.inj (Option.some.inj read)
    exact Nat.lt_succ_self _

/-- Putting a repetition to the last item leaves no more than there was. -/
theorem length_repeated_le {extended : Bool} {low : Nat} {high : Option Nat}
    {done items : List Expression} {input rest : List Char}
    (read : repeated extended low high done input = some (items, rest)) :
    rest.length ≤ input.length := by
  have skipped := length_skip_le extended input
  unfold repeated at read
  split at read
  · split at read
    · split at read
      · next tail mark =>
          obtain ⟨-, rfl⟩ := Prod.mk.inj (Option.some.inj read)
          rw [mark] at skipped
          exact Nat.le_of_succ_le skipped
      · obtain ⟨-, rfl⟩ := Prod.mk.inj (Option.some.inj read)
        exact Nat.le_refl _
    · simp at read
  · simp at read

/-! ### Classes -/

/-- A class is read whenever the fuel is enough for the characters that it takes. -/
theorem classRest_enough {extended : Bool} {fuel : Nat} {negated : Bool} {pending : OpenClass}
    {input rest : List Char} {set : ClassExpression}
    (read : classRest extended fuel negated pending input = some (set, rest)) :
    rest.length < input.length ∧ ∀ enough : Nat, input.length ≤ rest.length + enough →
      classRest extended enough negated pending input = some (set, rest) := by
  induction fuel generalizing negated pending input set rest with
  | zero => simp [classRest] at read
  | succ fuel ih =>
      have skipped := length_skip_le extended input
      -- What follows one more item is read with one less of the fuel.
      have goesOn {next : OpenClass} {after : List Char} (shorter : after.length < input.length)
          (read : classRest extended fuel negated next after = some (set, rest))
          (one : ∀ enough : Nat, input.length ≤ rest.length + (enough + 1) →
            classRest extended (enough + 1) negated pending input =
              classRest extended enough negated next after) :
          rest.length < input.length ∧ ∀ enough : Nat, input.length ≤ rest.length + enough →
            classRest extended enough negated pending input = some (set, rest) := by
        obtain ⟨left, same⟩ := ih read
        refine ⟨Nat.lt_trans left shorter, fun enough room => ?_⟩
        match enough with
        | 0 => omega
        | enough + 1 =>
            rw [one enough room]
            exact same enough (by omega)
      unfold classRest at read
      split at read
      · simp at read
      · next tail mark =>
          obtain ⟨rfl, rfl⟩ := Prod.mk.inj (Option.some.inj read)
          rw [mark, List.length_cons] at skipped
          refine ⟨skipped, fun enough room => ?_⟩
          match enough with
          | 0 => omega
          | enough + 1 => simp [classRest, mark]
      · next tail mark =>
          rw [mark] at skipped
          refine goesOn (Nat.lt_of_succ_lt skipped) read fun enough room => ?_
          simp only [classRest, mark]
      · next tail mark =>
          rw [mark] at skipped
          refine goesOn (Nat.lt_of_succ_lt skipped) read fun enough room => ?_
          simp only [classRest, mark]
      · next tail mark =>
          rw [mark] at skipped
          refine goesOn (Nat.lt_of_succ_lt skipped) read fun enough room => ?_
          simp only [classRest, mark]
      · next tail mark =>
          rw [mark, List.length_cons] at skipped
          split at read
          · next item after found =>
              have shorter := length_asciiClass_lt found
              refine goesOn (by omega) read fun enough room => ?_
              simp only [classRest, mark, found]
          · next unnamed =>
              have opened := length_classOpen_le extended tail
              split at read
              next innerNegated inner start found =>
              rw [found] at opened
              split at read
              · next item after here =>
                  obtain ⟨shorter, same⟩ := ih here
                  have left := (ih read).1
                  dsimp only at opened
                  refine goesOn (by omega) read fun enough room => ?_
                  simp only [classRest, mark, unnamed, found, same enough (by omega)]
              · simp at read
      · next found _ _ _ _ _ _ =>
          split at read
          · next item after here =>
              have shorter := length_classItem_lt here
              refine goesOn (by omega) read fun enough room => ?_
              rw [classRest]
              split
              all_goals simp_all
          · simp at read

/-- Reading a class in brackets takes a character at least. -/
theorem length_bracketClass_lt {extended : Bool} {input rest : List Char} {set : ClassExpression}
    (read : bracketClass extended input = some (set, rest)) : rest.length < input.length :=
  Nat.lt_of_lt_of_le (classRest_enough read).1 (length_classOpen_le extended input)

end TypedJson.Regex.Reader
