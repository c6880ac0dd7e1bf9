import TypedJson.Proofs.Regex.Left
import TypedJson.Proofs.Text.Closing

namespace TypedJson.Regex.Reader

open HasRest

/-! ### Parts -/

/-- Blanks are skipped up to the parenthesis, unless a comment takes it. -/
theorem skipExtended_close (inComment : Bool) (input : List Char) :
    skipExtended inComment (input ++ [')']) = skipExtended inComment input ++ [')'] ∨
      skipExtended inComment input = [] ∧ skipExtended inComment (input ++ [')']) = [] := by
  induction input generalizing inComment with
  | nil =>
      cases inComment with
      | true => exact .inr ⟨rfl, rfl⟩
      | false => exact .inl rfl
  | cons char tail ih =>
      simp only [List.cons_append, skipExtended]
      split
      · exact ih _
      split
      · exact ih _
      split
      · exact ih _
      · exact .inl rfl

/-- Blanks and comments end before the parenthesis, or a comment takes it along. -/
theorem skip_close (extended : Bool) (input : List Char) :
    skip extended (input ++ [')']) = skip extended input ++ [')'] ∨
      skip extended input = [] ∧ skip extended (input ++ [')']) = [] := by
  rw [skip, skip]
  split
  · exact skipExtended_close false input
  · exact .inl rfl

/-- Nothing is skipped of nothing. -/
theorem skip_nil (extended : Bool) : skip extended [] = [] := by cases extended <;> rfl

/-- A name up to a brace is read the same. -/
theorem untilBrace_close (extended inComment : Bool) (input : List Char) :
    untilBrace extended inComment (input ++ [')']) =
      (untilBrace extended inComment input).map close := by
  induction input generalizing inComment with
  | nil => cases extended <;> cases inComment <;> rfl
  | cons char tail ih =>
      simp only [List.cons_append, untilBrace]
      split
      · exact ih _
      split
      · exact ih _
      split
      · exact ih _
      split
      · rfl
      · rw [ih, Option.map_map, Option.map_map]
        rfl

/-- Digits of a code are read the same. -/
theorem hexDigits_carried (extended : Bool) (count value : Nat) (input : List Char) :
    Carried (hexDigits extended count value input)
      (hexDigits extended count value (input ++ [')'])) := by
  induction count generalizing value input with
  | zero => exact .some (value, input)
  | succ count ih =>
      cases input with
      | nil => exact .none
      | cons char tail =>
          simp only [List.cons_append, hexDigits]
          cases hexDigit? char with
          | none => exact .none
          | some digit =>
              obtain same | ⟨here, there⟩ := skip_close extended tail
              · rw [same]
                exact ih _ _
              · dsimp only
                rw [here, there]
                refine .of_eq fun found same => ?_
                have shorter : found.2.length ≤ ([] : List Char).length := length_hexDigits_le same
                exact List.length_eq_zero_iff.mp (Nat.le_zero.mp shorter)

/-- A code is read the same. -/
theorem hexCode_carried (extended : Bool) (count : Nat) (input : List Char) :
    Carried (hexCode extended (count + 1) input) (hexCode extended (count + 1) (input ++ [')'])) := by
  unfold hexCode
  obtain same | ⟨here, there⟩ := skip_close extended input
  · rw [same]
    generalize skip extended input = start
    match start with
    | [] => exact .none
    | char :: tail =>
        by_cases brace : char = '{'
        · subst brace
          refine (Carried.of_map (untilBrace_close extended false tail)).values fun body => ?_
          dsimp only
          cases body.mapM hexDigit? with
          | none => exact .inl fun _ => rfl
          | some digits =>
              dsimp only [Option.bind_eq_bind, Option.bind_some]
              split
              · exact .inl fun _ => rfl
              · cases scalar? (digits.foldl (fun value digit => value * 16 + digit) 0) with
                | none => exact .inl fun _ => rfl
                | some char => exact .inr ⟨_, fun _ => rfl⟩
        · simp only [List.cons_append, List.cons.injEq, brace, false_and, imp_self, implies_true]
          refine (hexDigits_carried extended (count + 1) 0 (char :: tail)).values fun code => ?_
          dsimp only
          cases scalar? code with
          | none => exact .inl fun _ => rfl
          | some char => exact .inr ⟨_, fun _ => rfl⟩
  · rw [here, there]
    exact .none

/-- The name of a property is read the same, unless it is missing. -/
theorem property_carried (extended negated : Bool) (input : List Char) :
    Carried (property extended negated input) (property extended negated (input ++ [')'])) := by
  unfold property
  obtain same | ⟨here, there⟩ := skip_close extended input
  · rw [same]
    generalize skip extended input = start
    match start with
    | [] =>
        refine .inr (.inr ⟨rfl, fun found same => ?_⟩)
        obtain ⟨ranges, -, same⟩ := Option.bind_eq_some_iff.mp same
        obtain rfl := Option.some.inj same
        exact skip_nil extended
    | char :: tail =>
        by_cases brace : char = '{'
        · subst brace
          refine (Carried.of_map (untilBrace_close extended false tail)).values fun name => ?_
          dsimp only
          cases propertyNamed? name with
          | none => exact .inl fun _ => rfl
          | some found => exact .inr ⟨_, fun _ => rfl⟩
        · by_cases slash : char = '\\'
          · subst slash
            exact .none
          · simp only [List.cons_append]
            cases Unicode.property? [char] with
            | none => exact .none
            | some ranges =>
                obtain same | ⟨here, there⟩ := skip_close extended tail
                · dsimp only [Option.bind_eq_bind, Option.bind_some]
                  rw [same]
                  exact .some (Atom.property negated ranges, skip extended tail)
                · dsimp only [Option.bind_eq_bind, Option.bind_some]
                  rw [here, there]
                  exact .of_eq fun found same => congrArg Prod.snd (Option.some.inj same).symm
  · rw [here, there]
    exact .none

/-- A keyword is found at the front with the parenthesis behind. -/
theorem find?_isPrefixOf_close {kind : Type} {sides : List (String × kind)}
    (plain : ∀ side ∈ sides, ')' ∉ side.1.toList) (input : List Char) :
    sides.find? (fun side => side.1.toList.isPrefixOf (input ++ [')'])) =
      sides.find? fun side => side.1.toList.isPrefixOf input := by
  induction sides with
  | nil => rfl
  | cons side others ih =>
      rw [List.forall_mem_cons] at plain
      rw [List.find?_cons, List.find?_cons, isPrefixOf_close plain.1, ih plain.2]

/-- A boundary is read the same, and the parenthesis is left. -/
theorem boundary_close (input : List Char) :
    escape.boundary (input ++ [')']) =
      ((escape.boundary input).1, (escape.boundary input).2 ++ [')']) := by
  unfold escape.boundary
  dsimp only
  rw [find?_isPrefixOf_close (by simp) input]
  split
  · next name kind found =>
      have starts := List.isPrefixOf_iff_prefix.mp
        (List.find?_some (p := fun side : String × Anchor => side.1.toList.isPrefixOf input) found)
      have short : name.length ≤ input.length := String.length_toList ▸ starts.length_le
      rw [List.drop_append_of_le_length short]
  · rfl

/-- An escape is read the same, unless its backslash comes last and takes the parenthesis. -/
theorem escape_carried (extended : Bool) (input : List Char) :
    Carried (escape extended input) (escape extended (input ++ [')'])) := by
  match input with
  | [] =>
      refine .inr (.inr ⟨rfl, fun found same => ?_⟩)
      exact congrArg Prod.snd (Option.some.inj same).symm
  | char :: tail =>
      rw [List.cons_append, escape.eq_def extended (char :: tail)]
      split
      · next same => exact absurd same (List.cons_ne_nil _ _)
      case h_25 =>
        rename_i same
        obtain ⟨rfl, rfl⟩ := List.cons.inj same
        have longer : escape extended (char :: (tail ++ [')'])) =
            if isEscapable char then some (.literal char false, tail ++ [')']) else none := by
          simp_all [escape]
        rw [longer]
        split
        · exact .some _
        · exact .none
      all_goals
        next same =>
          obtain ⟨rfl, rfl⟩ := List.cons.inj same
          first
            | exact .some _
            | exact hexCode_carried _ _ _
            | exact property_carried _ _ _
            | (rw [escape, boundary_close]; exact .some _)

/-! ### Counts -/

/-- The digits of a count are read the same. -/
theorem countDigits_kept (extended inComment : Bool) (input : List Char) :
    Kept (countDigits extended inComment input)
      (countDigits extended inComment (input ++ [')'])) := by
  induction input generalizing inComment with
  | nil =>
      cases inComment with
      | true => exact .inr ⟨rfl, rfl⟩
      | false => cases extended <;> exact .inl rfl
  | cons char tail ih =>
      simp only [List.cons_append, countDigits]
      split
      · exact ih _
      split
      · exact ih _
      split
      · exact ih _
      split
      · obtain same | ⟨nothing, same⟩ := ih false
        · rw [same]
          exact .inl rfl
        · rw [same]
          exact .inr ⟨nothing, rfl⟩
      · exact .inl rfl

/-- A count is read the same. -/
theorem count_carried (extended : Bool) (input : List Char) :
    Carried (count extended input) (count extended (input ++ [')'])) := by
  have blank : Unicode.isBlank ')' = false := rfl
  unfold count
  rw [dropWhile_close blank]
  obtain same | ⟨nothing, same⟩ :=
    countDigits_kept extended false (input.dropWhile Unicode.isBlank)
  · rw [same]
    generalize countDigits extended false (input.dropWhile Unicode.isBlank) = found
    obtain ⟨digits, left⟩ := found
    simp only [close, dropWhile_close blank]
    split
    · exact .none
    · exact .some (digits.foldl (fun value digit => value * 10 + digit) 0,
        left.dropWhile Unicode.isBlank)
  · rw [same]
    refine .of_eq fun result same => ?_
    have empty : (countDigits extended false (input.dropWhile Unicode.isBlank)).2 = [] := nothing
    dsimp only at same
    split at same
    · exact nomatch same
    · obtain rfl := Option.some.inj same
      simp [rest, empty]

/-- Nothing is no count. -/
theorem count_nil (extended : Bool) : count extended [] = none := by cases extended <;> rfl

/-- Bounds are read the same, since they end in a brace. -/
theorem bounds_close (extended : Bool) (input : List Char) :
    bounds extended (input ++ [')']) = (bounds extended input).map close := by
  unfold bounds
  obtain same | ⟨here, there⟩ := skip_close extended input
  · rw [same]
    refine (count_carried extended (skip extended input)).bind_close (fun (low, left) => ?_) ?_
    · match left with
      | [] => rfl
      | char :: tail =>
          by_cases brace : char = '}'
          · subst brace
            rfl
          · by_cases comma : char = ','
            · subst comma
              simp only [close, List.cons_append]
              obtain same | ⟨here, there⟩ := skip_close extended tail
              · rw [same]
                generalize skip extended tail = start
                match start with
                | [] => cases extended <;> rfl
                | char :: more =>
                    by_cases brace : char = '}'
                    · subst brace
                      rfl
                    · simp only [List.cons_append, List.cons.injEq, brace, false_and, imp_self,
                        implies_true]
                      refine (count_carried extended (char :: more)).bind_close
                        (fun (high, left) => ?_) ?_
                      · match left with
                        | [] => rfl
                        | char :: rest =>
                            by_cases brace : char = '}'
                            · subst brace
                              simp only [close, List.cons_append]
                              split <;> rfl
                            · simp only [close, List.cons_append, List.cons.injEq, brace,
                                false_and, imp_self, implies_true]
                              rfl
                      · rintro ⟨high, left⟩ rfl
                        rfl
              · rw [here, there]
                simp only [count_nil]
                rfl
            · simp only [close, List.cons_append, List.cons.injEq, brace, comma, false_and,
                imp_self, implies_true]
              rfl
    · rintro ⟨low, left⟩ rfl
      rfl
  · rw [here, there, count_nil]
    rfl

/-- Flags are read the same, unless a closing parenthesis was missing. -/
theorem flags_carried (negated hyphenLast : Bool) (done : FlagList) (input : List Char) :
    Carried (flags negated hyphenLast done input)
      (flags negated hyphenLast done (input ++ [')'])) := by
  induction input generalizing negated hyphenLast done with
  | nil =>
      refine .inr (.inr ⟨rfl, fun found same => ?_⟩)
      rw [List.nil_append, flags] at same
      split at same
      · exact nomatch same
      · obtain rfl := Option.some.inj same
        rfl
  | cons char tail ih =>
      rw [List.cons_append]
      by_cases colon : char = ':'
      · subst colon
        simp only [flags]
        split
        · exact .none
        · exact .some (done.reverse, true, tail)
      by_cases closing : char = ')'
      · subst closing
        simp only [flags]
        split
        · exact .none
        · exact .some (done.reverse, false, tail)
      by_cases hyphen : char = '-'
      · subst hyphen
        simp only [flags]
        split
        · exact .none
        · exact ih true true done
      · simp only [flags]
        cases flagNamed? char with
        | none => exact .none
        | some flag =>
            dsimp only
            split
            · exact .none
            · exact ih _ _ _

/-- The name of a group is read the same. -/
theorem groupName_close (input : List Char) :
    groupName (input ++ [')']) = (groupName input).map close := by
  unfold groupName
  simp only [drop_length_takeWhile]
  cases found : input.dropWhile (· != '>') with
  | nil =>
      rw [List.dropWhile_append, found]
      cases (input ++ [')']).takeWhile (· != '>') <;> cases input.takeWhile (· != '>') <;> rfl
  | cons mark tail =>
      rw [takeWhile_close found, dropWhile_close_of_cons found]
      cases input.takeWhile (· != '>') with
      | nil => rfl
      | cons first others =>
          by_cases angle : mark = '>'
          · subst angle
            cases named : isNameChar true first && others.all (isNameChar false) <;>
              simp [named, close]
          · simp [angle]

/-- What the flags of a group open. -/
def ofFlags (memory : Memory) : FlagList × Bool × List Char → Opening × Memory × List Char
  | (list, opens, rest) =>
    let extended := (list.lookup .extended).getD memory.extended
    (if opens then .group list else .flags list, { memory with extended }, rest)

/-- The start of a group is read the same, unless a closing parenthesis was missing. -/
theorem opening_carried (memory : Memory) (input : List Char) :
    Carried (opening memory input) (opening memory (input ++ [')'])) := by
  have named (input : List Char) :
      Carried (opening.named memory input) (opening.named memory (input ++ [')'])) := by
    refine (Carried.of_map (groupName_close input)).bind (fun (name, left) => ?_) ?_
    · dsimp only [close]
      split
      · exact .none
      · exact .some _
    · rintro ⟨name, left⟩ made rfl same
      dsimp only at same
      split at same
      · exact nomatch same
      · obtain rfl := Option.some.inj same
        rfl
  rw [opening.eq_def memory input]
  obtain same | ⟨here, there⟩ := skip_close memory.extended input
  · split
    · next mark =>
        rw [opening, same, mark]
        exact .none
    · next mark =>
        rw [opening, same, mark]
        exact .none
    · next mark =>
        rw [opening, same, mark]
        exact .none
    · next mark =>
        rw [opening, same, mark]
        exact .none
    · next mark =>
        rw [opening, same, mark]
        exact named _
    · next tail _ _ mark =>
        have longer : opening memory (input ++ [')']) = opening.named memory (tail ++ [')']) := by
          rw [opening, same, mark]
          cases tail <;> simp_all
        rw [longer]
        exact named _
    · next tail _ _ _ _ _ _ mark =>
        have longer : opening memory (input ++ [')']) =
            (flags false false [] (tail ++ [')'])).bind (some ∘ ofFlags memory) := by
          rw [opening, same, mark]
          rcases tail with _ | ⟨second, _ | ⟨third, more⟩⟩ <;> simp_all <;> rfl
        rw [longer]
        refine (flags_carried false false [] tail).bind (fun found => ?_) ?_
        · exact .some (ofFlags memory found)
        · rintro ⟨list, opens, left⟩ made rfl same
          obtain rfl := Option.some.inj same
          rfl
    · next start _ _ _ _ _ _ _ =>
        have longer : opening memory (input ++ [')']) =
            some (.capture, { memory with opened := memory.opened + 1 },
              skip memory.extended input ++ [')']) := by
          rw [opening, same]
          generalize skip memory.extended input = start at *
          cases start <;> simp_all
        rw [longer]
        exact .some _
  · rw [opening, here, there]
    exact .of_eq fun found same => by obtain rfl := Option.some.inj same; rfl

/-- A simple expression is read the same, unless it would be the parenthesis. -/
theorem simple_carried (extended : Bool) (input : List Char) :
    Carried (simple extended input) (simple extended (input ++ [')'])) := by
  match input with
  | [] =>
      refine .inr (.inr ⟨rfl, fun found same => ?_⟩)
      exact congrArg Prod.snd (Option.some.inj same).symm
  | char :: tail =>
      by_cases slash : char = '\\'
      · subst slash
        exact (escape_carried extended tail).map (fun _ => rfl) (fun _ => rfl)
      by_cases dot : char = '.'
      · subst dot
        exact .some (Expression.dot, tail)
      by_cases caret : char = '^'
      · subst caret
        exact .some (Expression.anchor .lineStart, tail)
      by_cases dollar : char = '$'
      · subst dollar
        exact .some (Expression.anchor .lineEnd, tail)
      · have literal (left : List Char) :
            simple extended (char :: left) = some (.literal char false, left) := by
          simp [simple]
        rw [List.cons_append, literal, literal]
        exact .some (Expression.literal char false, tail)

/-- The mark for lazy rounds is read the same. -/
theorem repeated_close (extended : Bool) (low : Nat) (high : Option Nat) (done : List Expression)
    (input : List Char) : repeated extended low high done (input ++ [')']) =
      (repeated extended low high done input).map close := by
  cases done with
  | nil => rfl
  | cons body done =>
      simp only [repeated]
      split
      · obtain same | ⟨here, there⟩ := skip_close extended input
        · rw [same]
          match skip extended input with
          | [] => rfl
          | char :: tail =>
              by_cases lazy : char = '?'
              · subst lazy
                rfl
              · simp only [List.cons_append, List.cons.injEq, lazy, false_and, imp_self,
                  implies_true]
                rfl
        · rw [here, there]
          rfl
      · rfl

end TypedJson.Regex.Reader
