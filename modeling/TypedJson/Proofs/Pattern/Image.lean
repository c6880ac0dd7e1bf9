import TypedJson.Proofs.Pattern.Body

namespace TypedJson.Pattern

/-- The text for an engine that becomes of some text, outside of classes or inside of one. -/
def translated (engine : Engine) (inClass : Bool) (input : List Char) : List Char :=
  Token.imageAll engine inClass (Token.readAll input)

variable {engine : Engine} {inClass : Bool} {rest : List Char}

/-- A pair with a backslash is translated as an escape. -/
theorem translated_pair (escaped : Char) :
    translated engine inClass ('\\' :: escaped :: rest) =
      Token.escapeText engine inClass escaped ++ translated engine inClass rest := rfl

/-- Another character than a backslash is a token of its own. -/
theorem readAll_cons {char : Char} (single : char ≠ '\\') :
    Token.readAll (char :: rest) = .single char :: Token.readAll rest := by
  rw [Token.readAll]
  intro escaped others same
  exact absurd same single

/-- Another character than a backslash is translated to itself. -/
theorem translated_cons {char : Char} (single : char ≠ '\\') :
    translated engine inClass (char :: rest) =
      char :: translated engine ((Token.single char).classAfter inClass) rest := by
  rw [translated, readAll_cons single]
  rfl

/-- Outside of classes a character changes nothing unless it opens a class. -/
theorem translated_plain {char : Char} (single : char ≠ '\\') (closed : char ≠ '[') :
    translated engine false (char :: rest) = char :: translated engine false rest := by
  have stays : (Token.single char).classAfter false = false := by
    unfold Token.classAfter
    split
    · rfl
    · next same => exact absurd (Token.single.inj same) closed
    · rfl
    · rfl
  rw [translated_cons single, stays]

/-- Inside of a class a character changes nothing unless it closes the class. -/
theorem translated_inside {char : Char} (single : char ≠ '\\') (opened : char ≠ ']') :
    translated engine true (char :: rest) = char :: translated engine true rest := by
  have stays : (Token.single char).classAfter true = true := by
    unfold Token.classAfter
    split
    · rfl
    · rfl
    · next same => exact absurd (Token.single.inj same) opened
    · rfl
  rw [translated_cons single, stays]

/-- A bare member is translated to itself. -/
theorem translated_member {char : Char} (allowed : isMember char = true) :
    translated engine true (char :: rest) = char :: translated engine true rest :=
  translated_inside (ne_of_test allowed (by decide)) (ne_of_test allowed (by decide))

/-- Characters that open no class are translated to themselves. -/
theorem translated_plains {chars : List Char}
    (plain : ∀ char ∈ chars, char ≠ '\\' ∧ char ≠ '[') :
    translated engine false (chars ++ rest) = chars ++ translated engine false rest := by
  induction chars with
  | nil => rfl
  | cons char others ih =>
      rw [List.forall_mem_cons] at plain
      rw [List.cons_append, translated_plain plain.1.1 plain.1.2, ih plain.2, List.cons_append]

/-- A character that stands for itself after a backslash stays as it is written. -/
theorem escapeText_escapable {char : Char} (allowed : Regex.Reader.isEscapable char = true) :
    Token.escapeText engine inClass char = ['\\', char] := by
  unfold Token.escapeText
  split
  all_goals first
    | rfl
    | exact absurd allowed (by decide)

/-- The escape of a control character stays. -/
theorem escapeText_control (kind : Control) :
    Token.escapeText engine inClass kind.letter = ['\\', kind.letter] := by
  cases kind <;> rfl

/-- Class escapes inside of a class, and what they stand for, do not depend on the engine. -/
theorem escapeText_common (negated : Bool) (kind : Regex.CommonClass) :
    Token.escapeText engine true (kindLetter negated kind) =
      Token.escapeText .linear true (kindLetter negated kind) := by
  cases kind <;> cases negated <;> rfl

/-- A literal is translated to itself. -/
theorem translated_literal {isBare : Char → Bool}
    (stays : ∀ char rest, isBare char = true →
      translated engine inClass (char :: rest) = char :: translated engine inClass rest)
    (literal : Literal isBare) :
    translated engine inClass (literal.text ++ rest) =
      literal.text ++ translated engine inClass rest := by
  cases literal with
  | bare char allowed => exact stays char rest allowed
  | quoted char allowed =>
      show translated engine inClass ('\\' :: char :: rest) = _
      rw [translated_pair, escapeText_escapable allowed]
      rfl
  | control kind =>
      show translated engine inClass ('\\' :: kind.letter :: rest) = _
      rw [translated_pair, escapeText_control]
      rfl

namespace Member

/-- A member is translated to its image. -/
theorem translated_text (member : Member) :
    translated engine true (member.text ++ rest) =
      member.image ++ translated engine true rest := by
  cases member with
  | one literal => exact translated_literal (fun _ _ => translated_member) literal
  | range first last firstAllowed lastAllowed ordered =>
      show translated engine true (first :: '-' :: last :: rest) = _
      have hyphen : translated engine true ('-' :: last :: rest) =
          '-' :: translated engine true (last :: rest) := translated_cons (by decide)
      rw [translated_member firstAllowed, hyphen, translated_member lastAllowed]
      rfl
  | common negated kind =>
      show translated engine true ('\\' :: kindLetter negated kind :: rest) = _
      rw [translated_pair, escapeText_common]
      rfl
  | backspace => rfl

/-- Members are translated one by one. -/
theorem translated_texts (members : List Member) :
    translated engine true ((members.map text).flatten ++ rest) =
      (members.map image).flatten ++ translated engine true rest := by
  induction members with
  | nil => rfl
  | cons member others ih =>
      rw [List.map_cons, List.flatten_cons, List.append_assoc, translated_text, ih, List.map_cons,
        List.flatten_cons, List.append_assoc]

end Member

/-- A leaf is translated to its image. -/
theorem Leaf.translated_text (leaf : Leaf) :
    translated engine false (leaf.text ++ rest) =
      leaf.image engine ++ translated engine false rest := by
  cases leaf with
  | one literal =>
      apply translated_literal
      intro char others allowed
      apply translated_plain
      · exact ne_of_test allowed (by decide)
      · exact ne_of_test allowed (by decide)
  | dot => exact translated_plain (by decide) (by decide)
  | start => exact translated_plain (by decide) (by decide)
  | stop => exact translated_plain (by decide) (by decide)
  | common negated kind => exact translated_pair _
  | boundary negated => exact translated_pair _
  | set negated first others =>
      have closes : translated engine true (']' :: rest) = ']' :: translated engine false rest :=
        translated_cons (by decide)
      have members : translated engine true
          (((first :: others).map Member.text).flatten ++ ']' :: rest) =
            ((first :: others).map Member.image).flatten ++ ']' :: translated engine false rest := by
        rw [Member.translated_texts, closes]
      have opens (input : List Char) : translated engine false ('[' :: input) =
          '[' :: translated engine true input := translated_cons (by decide)
      cases negated with
      | false =>
          simp only [text, image, setText, Bool.false_eq_true, if_false, List.append_assoc,
            List.cons_append, List.nil_append]
          rw [opens, members]
      | true =>
          have caret (input : List Char) : translated engine true ('^' :: input) =
              '^' :: translated engine true input := translated_cons (by decide)
          simp only [text, image, setText, if_true, List.append_assoc,
            List.cons_append, List.nil_append]
          rw [opens, caret, members]

/-- The digits of a number are neither backslashes nor brackets. -/
theorem digits_plain (number : Nat) {char : Char} (inside : char ∈ Nat.toDigits 10 number) :
    char ≠ '\\' ∧ char ≠ '[' := by
  have digit : char.isDigit = true := Nat.isDigit_of_mem_toDigits (by decide) (by decide) inside
  constructor
  · exact ne_of_test digit (by decide)
  · exact ne_of_test digit (by decide)

/-- A repetition has no signs of a class. -/
theorem Times.text_plain (times : Times) {char : Char} (inside : char ∈ times.text) :
    char ≠ '\\' ∧ char ≠ '[' := by
  have mark {other : Char} (single : other ≠ '\\') (closed : other ≠ '[') (same : char = other) :
      char ≠ '\\' ∧ char ≠ '[' := by
    subst same
    exact ⟨single, closed⟩
  cases times with
  | optional => exact mark (by decide) (by decide) (List.mem_singleton.mp inside)
  | star => exact mark (by decide) (by decide) (List.mem_singleton.mp inside)
  | plus => exact mark (by decide) (by decide) (List.mem_singleton.mp inside)
  | exactly count small =>
      simp only [text, List.cons_append, List.mem_cons, List.mem_append, List.not_mem_nil,
        or_false] at inside
      rcases inside with opens | digit | closes
      · exact mark (by decide) (by decide) opens
      · exact digits_plain count digit
      · exact mark (by decide) (by decide) closes
  | atLeast low small =>
      simp only [text, List.cons_append, List.mem_cons, List.mem_append, List.not_mem_nil,
        or_false] at inside
      rcases inside with opens | digit | comma | closes
      · exact mark (by decide) (by decide) opens
      · exact digits_plain low digit
      · exact mark (by decide) (by decide) comma
      · exact mark (by decide) (by decide) closes
  | between low high ordered small =>
      simp only [text, List.cons_append, List.append_assoc, List.mem_cons, List.mem_append,
        List.not_mem_nil, or_false] at inside
      rcases inside with opens | digit | comma | digit | closes
      · exact mark (by decide) (by decide) opens
      · exact digits_plain low digit
      · exact mark (by decide) (by decide) comma
      · exact digits_plain high digit
      · exact mark (by decide) (by decide) closes

/-- A count has no signs of a class. -/
theorem countText_plain (count : Option Count) {char : Char} (inside : char ∈ countText count) :
    char ≠ '\\' ∧ char ≠ '[' := by
  cases count with
  | none => exact absurd inside List.not_mem_nil
  | some count =>
      have parts : char ∈ count.times.text ++ if count.lazy then ['?'] else [] := inside
      rcases List.mem_append.mp parts with times | mark
      · exact count.times.text_plain times
      · split at mark
        · rw [List.mem_singleton.mp mark]
          decide
        · exact absurd mark List.not_mem_nil

namespace Body

/-- What becomes of the text of a body for an engine. -/
theorem translated_text (body : Body) (rest : List Char) :
    translated engine false (body.text ++ rest) =
      body.image engine ++ translated engine false rest := by
  have counted (count : Option Count) (input : List Char) :
      translated engine false (countText count ++ input) =
        countText count ++ translated engine false input :=
    translated_plains fun _ inside => countText_plain count inside
  have opened (captures : Bool) (input : List Char) :
      translated engine false (openText captures ++ input) =
        openText captures ++ translated engine false input := by
    cases captures <;> rfl
  have single {char : Char} (one : char ≠ '\\') (closed : char ≠ '[') (input : List Char) :
      translated engine false (char :: input) = char :: translated engine false input :=
    translated_plain one closed
  induction body generalizing rest with
  | done => rfl
  | or others ih =>
      rw [text, image, List.cons_append, single (by decide) (by decide), ih, List.cons_append]
  | item leaf count others ih =>
      simp only [text, image, List.append_assoc]
      rw [Leaf.translated_text, counted, ih]
  | group captures inner count others innerIh ih =>
      simp only [text, image, List.append_assoc, List.cons_append, List.nil_append]
      rw [opened, innerIh, single (by decide) (by decide), counted, ih]

end Body

end TypedJson.Pattern
