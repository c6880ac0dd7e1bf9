import TypedJson.Proofs.Regex.Closing

namespace TypedJson.Regex.Reader

open HasRest

/-- A class of ASCII is read the same, and the parenthesis is left. -/
theorem asciiClass_close (input : List Char) :
    asciiClass (input ++ [')']) = (asciiClass input).map close := by
  have named (negated : Bool) (input : List Char) : asciiClass.named negated (input ++ [')']) =
      (asciiClass.named negated input).map close := by
    unfold asciiClass.named
    simp only [drop_length_takeWhile]
    cases found : input.dropWhile (· != ':') with
    | nil => rw [List.dropWhile_append, found]; rfl
    | cons mark tail =>
        rw [takeWhile_close found, dropWhile_close_of_cons found]
        match tail with
        | [] =>
            by_cases colon : mark = ':'
            · subst colon
              rfl
            · simp [colon]
        | second :: rest =>
            by_cases ending : mark = ':' ∧ second = ']'
            · obtain ⟨rfl, rfl⟩ := ending
              simp only [List.cons_append]
              cases AsciiClass.named? (input.takeWhile (· != ':')) <;> rfl
            · rw [not_and] at ending
              by_cases colon : mark = ':'
              · subst colon
                simp [ending rfl]
              · simp [colon]
  match input with
  | [] => rfl
  | [first] =>
      by_cases colon : first = ':'
      · subst colon
        rfl
      · simp [asciiClass, colon]
  | first :: second :: rest =>
      by_cases colon : first = ':'
      · subst colon
        by_cases caret : second = '^'
        · subst caret
          exact named true rest
        · simpa [asciiClass, caret] using named false (second :: rest)
      · simp [asciiClass, colon]

/-- A member of a class is read the same, unless it would be the parenthesis. -/
theorem classAtom_carried (extended : Bool) (input : List Char) :
    Carried (classAtom extended input) (classAtom extended (input ++ [')'])) := by
  match input with
  | [] =>
      refine .inr (.inr ⟨rfl, fun found same => ?_⟩)
      exact congrArg Prod.snd (Option.some.inj same).symm
  | char :: tail =>
      by_cases slash : char = '\\'
      · subst slash
        exact escape_carried extended tail
      · simp only [List.cons_append, classAtom]
        exact .some (Atom.literal char false, tail)

/-- What follows a hyphen is no parenthesis, so the parenthesis behind the input changes nothing. -/
theorem afterHyphen_close (extended : Bool) (input : List Char) {char : Char}
    (other : char ≠ ')') (filled : Unicode.isBlank char = false) (mark : char ≠ '#') :
    (afterHyphen extended (input ++ [')']) == some char) =
      (afterHyphen extended input == some char) := by
  have goes (left before : List Char) (inComment : Bool) (split : input = before ++ left)
      (others : char ∉ before) :
      (afterHyphen.go (input ++ [')']) inComment (left ++ [')']) == some char) =
        (afterHyphen.go input inComment left == some char) := by
    induction left generalizing before inComment with
    | nil =>
        have closing : afterHyphen.go (input ++ [')']) inComment [')'] = some ')' := by
          cases inComment <;> rfl
        rw [List.nil_append, closing, afterHyphen.go]
        have head : input.head? ≠ some char := fun same =>
          others (by rw [split, List.append_nil] at same; exact List.mem_of_mem_head? same)
        have ending : (some ')' == some char) = false :=
          beq_false_of_ne fun same => other (Option.some.inj same).symm
        rw [ending, beq_false_of_ne head]
    | cons first rest ih =>
        have further (blank : first ≠ char) : input = (before ++ [first]) ++ rest ∧
            char ∉ before ++ [first] := by
          refine ⟨by rw [split, List.append_assoc]; rfl, ?_⟩
          simp [others, Ne.symm blank]
        rw [List.cons_append, afterHyphen.go, afterHyphen.go]
        split
        · next blank =>
            have apart : first ≠ char := by
              rintro rfl
              simp [blank] at filled
            exact ih _ _ (further apart).1 (further apart).2
        split
        · next comment =>
            have apart : first ≠ char := by
              rintro rfl
              simp [mark] at comment
            exact ih _ _ (further apart).1 (further apart).2
        · rfl
  rw [afterHyphen, afterHyphen]
  split
  · exact goes input [] false rfl (List.not_mem_nil)
  · cases input with
    | nil => simp [Ne.symm other]
    | cons first rest => rfl

/--
An item of a class is read as before, or not at all as long as the class does not go on. With the
parenthesis it is then either the last item or the item before the parenthesis.
-/
def CarriedOrLast {item : Type} (before after : Option (item × List Char)) : Prop :=
  (∃ found rest, before = some (found, rest) ∧ after = some (found, rest ++ [')'])) ∨
    (∃ found, before = some (found, []) ∧ after = some (found, [])) ∨
    (before = none ∧ ∀ found rest, after = some (found, rest) → rest = [] ∨ rest = [')'])

theorem CarriedOrLast.none {item : Type} :
    CarriedOrLast (none : Option (item × List Char)) none :=
  .inr (.inr ⟨rfl, fun _ _ same => nomatch same⟩)

/-- What is carried is carried or comes last. -/
theorem CarriedOrLast.of_carried {item : Type} {before after : Option (item × List Char)}
    (carried : Carried before after) : CarriedOrLast before after := by
  obtain ⟨⟨found, rest⟩, here, there⟩ | ⟨⟨found, rest⟩, here, there, nothing⟩ | ⟨here, there⟩ :=
    carried
  · exact .inl ⟨found, rest, here, there⟩
  · obtain rfl : rest = [] := nothing
    exact .inr (.inl ⟨found, here, there⟩)
  · exact .inr (.inr ⟨here, fun found rest same => .inl (there (found, rest) same)⟩)

/-- An item of a class is read the same, unless it is the parenthesis. -/
theorem classItem_carriedOrLast (extended : Bool) (input : List Char) :
    CarriedOrLast (classItem extended input) (classItem extended (input ++ [')'])) := by
  obtain ⟨⟨first, rest⟩, here, there⟩ | ⟨⟨first, rest⟩, here, there, nothing⟩ | ⟨here, there⟩ :=
    classAtom_carried extended input
  · simp only [classItem, here, there, Option.bind_eq_bind, Option.bind_some, close]
    have alone (left : List Char) : CarriedOrLast
        (first.toClass?.bind fun item => pure (item, left))
        (first.toClass?.bind fun item => pure (item, left ++ [')'])) := by
      cases first.toClass? with
      | none => exact .none
      | some item => exact .inl ⟨item, left, rfl, rfl⟩
    obtain same | ⟨here, there⟩ := skip_close extended rest
    · rw [same]
      generalize skip extended rest = start
      cases start with
      | nil =>
          refine .inr (.inr ⟨rfl, fun item left same => .inr ?_⟩)
          obtain ⟨found, -, same⟩ := Option.bind_eq_some_iff.mp same
          exact congrArg Prod.snd (Option.some.inj same).symm
      | cons char tail =>
          by_cases hyphen : char = '-'
          · subst hyphen
            have bracket : (afterHyphen extended (tail ++ [')']) == some ']') = _ :=
              afterHyphen_close extended tail (by decide) rfl (by decide)
            have another : (afterHyphen extended (tail ++ [')']) == some '-') = _ :=
              afterHyphen_close extended tail (by decide) rfl (by decide)
            simp only [List.cons_append, bracket, another]
            split
            · exact alone ('-' :: tail)
            · refine .of_carried ?_
              obtain same | ⟨here, there⟩ := skip_close extended tail
              · rw [same]
                refine (classAtom_carried extended (skip extended tail)).values fun last => ?_
                dsimp only
                split
                · split
                  · exact .inr ⟨_, fun _ => rfl⟩
                  · exact .inl fun _ => rfl
                · exact .inl fun _ => rfl
              · rw [here, there]
                exact .none
          · simp only [List.cons_append, List.cons.injEq, hyphen, false_and, imp_self, implies_true]
            exact alone (char :: tail)
    · rw [here, there]
      exact .none
  · obtain rfl : rest = [] := nothing
    simp only [classItem, here, there, Option.bind_eq_bind, Option.bind_some, skip_nil]
    exact .none
  · refine .inr (.inr ⟨by simp [classItem, here], fun item rest same => ?_⟩)
    simp only [classItem, Option.bind_eq_bind, Option.bind_eq_some_iff] at same
    obtain ⟨⟨first, left⟩, found, same⟩ := same
    obtain rfl : left = [] := there _ found
    simp [skip_nil] at same

/-- A class is not closed by the end of the text. -/
theorem classRest_nil (extended : Bool) (fuel : Nat) (negated : Bool) (pending : OpenClass) :
    classRest extended fuel negated pending [] = none := by
  cases fuel with
  | zero => rfl
  | succ fuel => simp [classRest, skip_nil]

/-- A class is not closed by a parenthesis. -/
theorem classRest_parenthesis (extended : Bool) (fuel : Nat) (negated : Bool)
    (pending : OpenClass) : classRest extended fuel negated pending [')'] = none := by
  cases fuel with
  | zero => rfl
  | succ fuel => cases extended <;> rfl

/-- Nothing has no hyphens. -/
theorem leadingHyphens_nil (extended : Bool) (fuel : Nat) :
    leadingHyphens extended fuel [] = ([], []) := by cases fuel <;> rfl

/-- Another character starts with no hyphen. -/
theorem leadingHyphens_other (extended : Bool) (fuel : Nat) {char : Char} (other : char ≠ '-')
    (rest : List Char) : leadingHyphens extended fuel (char :: rest) = ([], char :: rest) := by
  cases fuel with
  | zero => rfl
  | succ fuel => simp [leadingHyphens, other]

/-- Hyphens at the front of a class are read the same. -/
theorem leadingHyphens_kept (extended : Bool) {fuel more : Nat} {input : List Char}
    (enough : input.length ≤ fuel) (plenty : input.length ≤ more) :
    Kept (leadingHyphens extended fuel input)
      (leadingHyphens extended more (input ++ [')'])) := by
  induction fuel generalizing more input with
  | zero =>
      obtain rfl := List.length_eq_zero_iff.mp (Nat.le_zero.mp enough)
      exact .inl (leadingHyphens_other extended more (by decide) [])
  | succ fuel ih =>
      match input, more with
      | [], more =>
          rw [leadingHyphens_nil]
          exact .inl (leadingHyphens_other extended more (by decide) [])
      | char :: tail, more + 1 =>
          by_cases hyphen : char = '-'
          · subst hyphen
            rw [List.length_cons] at enough plenty
            have shorter := length_skip_le extended tail
            simp only [List.cons_append, leadingHyphens]
            obtain same | ⟨here, there⟩ := skip_close extended tail
            · rw [same]
              have kept : Kept (leadingHyphens extended fuel (skip extended tail))
                  (leadingHyphens extended more (skip extended tail ++ [')'])) :=
                ih (by omega) (by omega)
              obtain left | ⟨nothing, left⟩ := kept
              · rw [left]
                exact .inl rfl
              · rw [left]
                exact .inr ⟨nothing, rfl⟩
            · rw [here, there, leadingHyphens_nil, leadingHyphens_nil]
              exact .inr ⟨rfl, rfl⟩
          · rw [List.cons_append, leadingHyphens_other _ _ hyphen, leadingHyphens_other _ _ hyphen]
            exact .inl rfl

/-- The negation of a class is read the same. -/
theorem classNegation_kept (extended : Bool) (input : List Char) :
    Kept (classNegation extended input) (classNegation extended (input ++ [')'])) := by
  unfold classNegation
  obtain same | ⟨here, there⟩ := skip_close extended input
  · rw [same]
    generalize skip extended input = start
    match start with
    | [] => exact .inl rfl
    | char :: tail =>
        by_cases caret : char = '^'
        · subst caret
          simp only [List.cons_append]
          obtain same | ⟨here, there⟩ := skip_close extended tail
          · rw [same]
            exact .inl rfl
          · rw [here, there]
            exact .inr ⟨rfl, rfl⟩
        · simp only [List.cons_append, List.cons.injEq, caret, false_and, imp_self, implies_true]
          exact .inl rfl
  · rw [here, there]
    exact .inr ⟨rfl, rfl⟩

/-- The first members of a class are read the same. -/
theorem classFirst_kept (extended : Bool) (input : List Char) :
    Kept (classFirst extended input) (classFirst extended (input ++ [')'])) := by
  unfold classFirst
  have longer : input.length ≤ (input ++ [')']).length := by simp
  obtain same | ⟨nothing, same⟩ := leadingHyphens_kept extended (Nat.le_refl input.length) longer
  · rw [same]
    generalize leadingHyphens extended input.length input = found
    match found with
    | (hyphen :: hyphens, left) => exact .inl rfl
    | ([], []) => exact .inl rfl
    | ([], char :: tail) =>
        by_cases bracket : char = ']'
        · subst bracket
          simp only [close, List.cons_append]
          obtain same | ⟨here, there⟩ := skip_close extended tail
          · rw [same]
            exact .inl rfl
          · rw [here, there]
            exact .inr ⟨rfl, rfl⟩
        · simp only [close, List.cons_append, List.cons.injEq, bracket, false_and, imp_self,
            implies_true]
          exact .inl rfl
  · rw [same]
    generalize leadingHyphens extended input.length input = found at nothing
    obtain ⟨hyphens, left⟩ := found
    obtain rfl : left = [] := nothing
    cases hyphens with
    | nil => exact .inr ⟨rfl, rfl⟩
    | cons hyphen hyphens => exact .inr ⟨rfl, rfl⟩

/-- The start of a class is read the same. -/
theorem classOpen_kept (extended : Bool) (input : List Char) :
    Kept (classOpen extended input) (classOpen extended (input ++ [')'])) := by
  rw [classOpen_eq, classOpen_eq]
  obtain same | ⟨nothing, same⟩ := classNegation_kept extended input
  · rw [same]
    obtain left | ⟨nothing, left⟩ := classFirst_kept extended (classNegation extended input).2
    · exact .inl (congrArg (_, ·) left)
    · exact .inr ⟨nothing, congrArg (_, ·) left⟩
  · rw [same]
    refine .inr ⟨?_, rfl⟩
    have empty : (classNegation extended input).2 = [] := nothing
    rw [empty]
    rfl

/-- What follows an item of a class. -/
def afterItem (extended : Bool) (fuel : Nat) (negated : Bool) (pending : OpenClass) :
    ClassExpression × List Char → Option (ClassExpression × List Char)
  | (item, rest) => classRest extended fuel negated (pending.push item) rest

/-- An item of a class is read, and the class goes on. -/
theorem bind_afterItem (extended : Bool) (fuel : Nat) (negated : Bool) (pending : OpenClass)
    (found : Option (ClassExpression × List Char)) :
    (match found with
      | some (item, rest) => classRest extended fuel negated (pending.push item) rest
      | none => none) = found.bind (afterItem extended fuel negated pending) := by
  cases found <;> rfl

/-- The rest of a class is read the same, for it ends in a bracket. -/
theorem classRest_close (extended : Bool) (fuel : Nat) (negated : Bool) (pending : OpenClass)
    (input : List Char) : classRest extended fuel negated pending (input ++ [')']) =
      (classRest extended fuel negated pending input).map close := by
  induction fuel generalizing negated pending input with
  | zero => rfl
  | succ fuel ih =>
      obtain same | ⟨here, there⟩ := skip_close extended input
      · rw [classRest.eq_def extended (fuel + 1) negated pending input]
        dsimp only
        split
        · next mark =>
            rw [classRest, same, mark]
            cases extended <;> rfl
        · next tail mark =>
            rw [classRest, same, mark]
            rfl
        · next tail mark =>
            rw [classRest, same, mark]
            exact ih _ _ _
        · next tail mark =>
            rw [classRest, same, mark]
            exact ih _ _ _
        · next tail mark =>
            rw [classRest, same, mark]
            exact ih _ _ _
        · next tail mark =>
            rw [classRest, same, mark]
            simp only [List.cons_append, asciiClass_close]
            cases asciiClass tail with
            | some found => exact ih _ _ _
            | none =>
                simp only [Option.map_none]
                obtain opened | ⟨nothing, opened⟩ := classOpen_kept extended tail
                · rw [opened]
                  generalize classOpen extended tail = found
                  obtain ⟨innerNegated, inner, start⟩ := found
                  simp only [close, ih]
                  cases classRest extended fuel innerNegated inner start with
                  | some found => exact ih _ _ _
                  | none => rfl
                · rw [opened]
                  generalize classOpen extended tail = found at nothing
                  obtain ⟨innerNegated, inner, start⟩ := found
                  obtain rfl : start = [] := nothing
                  simp only [classRest_nil]
                  rfl
        · next start closing _ _ _ _ _ =>
            have items : classRest extended (fuel + 1) negated pending (input ++ [')']) =
                (classItem extended (skip extended input ++ [')'])).bind
                  (afterItem extended fuel negated pending) := by
              rw [classRest, same]
              generalize skip extended input = start at *
              rcases start with _ | ⟨first, _ | ⟨second, rest⟩⟩ <;> split <;> simp_all
              all_goals exact bind_afterItem extended fuel negated pending _
            rw [items]
            obtain ⟨item, rest, here, there⟩ | ⟨item, here, there⟩ | ⟨here, there⟩ :=
              classItem_carriedOrLast extended (skip extended input)
            · rw [here, there]
              exact ih _ _ _
            · simp only [here, there, Option.bind_some, afterItem, classRest_nil]
              rfl
            · rw [here]
              cases found : classItem extended (skip extended input ++ [')']) with
              | none => rfl
              | some result =>
                  obtain ⟨item, rest⟩ := result
                  obtain rfl | rfl := there item rest found
                  · exact classRest_nil _ _ _ _
                  · exact classRest_parenthesis _ _ _ _
      · simp only [classRest, here, there]
        rfl

/-- A class is read the same, for it ends in a bracket. -/
theorem bracketClass_close (extended : Bool) (input : List Char) :
    bracketClass extended (input ++ [')']) = (bracketClass extended input).map close := by
  have same {fuel more : Nat} {negated : Bool} {pending : OpenClass} {left : List Char}
      (enough : left.length ≤ fuel) (plenty : left.length ≤ more) :
      classRest extended fuel negated pending left = classRest extended more negated pending left := by
    cases one : classRest extended fuel negated pending left with
    | some result =>
        exact ((classRest_enough one).2 more (by omega)).symm
    | none =>
        cases other : classRest extended more negated pending left with
        | some result =>
            rw [(classRest_enough other).2 fuel (by omega)] at one
            exact nomatch one
        | none => rfl
  have shorter := length_classOpen_le extended input
  unfold bracketClass
  obtain opened | ⟨nothing, opened⟩ := classOpen_kept extended input
  · rw [opened]
    generalize classOpen extended input = found at shorter
    obtain ⟨negated, pending, left⟩ := found
    dsimp only at shorter
    simp only [close]
    have fuels : classRest extended ((input ++ [')']).length + 1) negated pending left =
        classRest extended (input.length + 1) negated pending left :=
      same (by simp; omega) (by omega)
    rw [classRest_close, fuels]
    rfl
  · rw [opened]
    generalize classOpen extended input = found at nothing
    obtain ⟨negated, pending, left⟩ := found
    obtain rfl : left = [] := nothing
    simp only [classRest_nil]
    rfl

end TypedJson.Regex.Reader
