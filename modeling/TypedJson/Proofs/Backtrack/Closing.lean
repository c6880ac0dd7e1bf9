import TypedJson.Proofs.Backtrack.Left

namespace TypedJson.Backtrack.Reader

open HasRest

/-! ### Comments -/

/-- A parenthesis ends a comment that nothing else ends. -/
theorem afterComment_carried (input : List Char) :
    Carried (afterComment input) (afterComment (input ++ [')'])) := by
  induction input using afterComment.induct with
  | case1 => exact .inr (.inr ⟨rfl, fun found same => (Option.some.inj same).symm⟩)
  | case2 rest => exact .some rest
  | case3 char rest ih => exact ih
  | case4 char rest other escape ih =>
      have goesOn : afterComment (char :: rest) = afterComment rest := by
        rw [afterComment]
        · exact other
        · exact escape
      rw [goesOn]
      by_cases backslash : char = '\\'
      · subst backslash
        cases rest with
        | nil => exact .none
        | cons next rest => exact (escape next rest rfl rfl).elim
      · have longer : afterComment (char :: (rest ++ [')'])) = afterComment (rest ++ [')']) := by
          rw [afterComment]
          · exact other
          · rintro next tail same -
            exact backslash same
        rw [List.cons_append, longer]
        exact ih

/-- The parenthesis that was put behind starts no comment. -/
theorem commented_close {char : Char} {tail : List Char}
    (comment : Commented (char :: (tail ++ [')']))) : Commented (char :: tail) := by
  obtain ⟨rest, same⟩ := comment
  match tail with
  | [] => simp at same
  | [second] => simp at same
  | second :: third :: more =>
      simp only [List.cons_append, List.cons.injEq] at same
      obtain ⟨rfl, rfl, rfl, -⟩ := same
      exact ⟨more, rfl⟩

/-- Skipping goes the same way with the parenthesis behind, unless a comment takes it. -/
theorem skipFrom_carried (extended : Bool) (fuel : Nat) (input : List Char) :
    Carried (skipFrom extended fuel input) (skipFrom extended fuel (input ++ [')'])) := by
  induction fuel generalizing input with
  | zero => exact .some input
  | succ fuel ih =>
      have ends (found made : List Char) (nothing : rest found = [])
          (same : skipFrom extended fuel found = some made) : rest made = [] := by
        obtain rfl : found = [] := nothing
        rw [skipFrom_nil] at same
        exact (Option.some.inj same).symm
      match input with
      | [] =>
          have closing : skipFrom extended (fuel + 1) [')'] = some [')'] := by simp [skipFrom]
          rw [List.nil_append, closing]
          exact .some ([] : List Char)
      | char :: tail =>
          by_cases comment : Commented (char :: tail)
          · obtain ⟨rest, same⟩ := comment
            simp only [same, List.cons_append, skipFrom_comment]
            exact (afterComment_carried rest).bind ih ends
          · rw [List.cons_append, skipFrom_uncommented extended fuel comment,
              skipFrom_uncommented extended fuel (mt commented_close comment)]
            split
            · cases found : tail.dropWhile (· != '\n') with
              | nil =>
                  rw [List.dropWhile_append, found]
                  exact .of_eq fun made same => ends [] made rfl same
              | cons feed more =>
                  rw [dropWhile_close_of_cons found]
                  exact ih more
            split
            · exact ih tail
            · exact .some (char :: tail)

/-- Blanks and comments end before the parenthesis, or a comment takes it along. -/
theorem skip_carried (memory : Memory) (input : List Char) :
    Carried (skip memory input) (skip memory (input ++ [')'])) := by
  have longer : skip memory (input ++ [')']) =
      skipFrom memory.extended (input.length + 1) (input ++ [')']) :=
    skipFrom_of_le _ (by simp) (by simp)
  rw [longer]
  exact skipFrom_carried memory.extended (input.length + 1) input

/-! ### Numbers and names -/

/-- A number is read the same, and the parenthesis is left. -/
theorem decimal_close (input : List Char) :
    decimal (input ++ [')']) = (decimal input).map HasRest.close := by
  have stops : Char.isDigit ')' = false := rfl
  unfold decimal
  simp only [takeWhile_close_of_stops stops]
  split
  · rfl
  · have within := (List.takeWhile_prefix (l := input) Char.isDigit).length_le
    rw [List.drop_append_of_le_length within]
    rfl

/-- The lower bound is read the same, and the parenthesis is left. -/
theorem lowBound_close (input : List Char) :
    lowBound (input ++ [')']) = (lowBound input).map HasRest.close := by
  match input with
  | [] => rfl
  | char :: tail =>
      by_cases comma : char = ','
      · subst comma
        rfl
      · have digits (left : List Char) : lowBound (char :: left) = decimal (char :: left) := by
          simp [lowBound, comma]
        rw [List.cons_append, digits, digits]
        exact decimal_close (char :: tail)

/-- The upper bound is read the same, unless it is missing. -/
theorem highBound_carried (memory : Memory) (low : Nat) (input : List Char) :
    Carried (highBound memory low input) (highBound memory low (input ++ [')'])) := by
  match input with
  | [] => exact .none
  | char :: tail =>
      by_cases brace : char = '}'
      · subst brace
        exact .some (bound? low, '}' :: tail)
      by_cases comma : char = ','
      · subst comma
        refine (skip_carried memory tail).bind (fun left => ?_) ?_
        · simp only [HasRest.close, decimal_close]
          cases decimal left with
          | none => exact .some ((none, left) : Option Nat × List Char)
          | some found => exact .some (bound? found.1, found.2)
        · rintro left made rfl same
          exact congrArg Prod.snd (Option.some.inj same).symm
      · simp only [List.cons_append, highBound, List.cons.injEq, brace, comma, false_and, imp_self,
          implies_true]
        exact .none

/-- The brace that closes bounds is found in the same place. -/
theorem closeBounds_close (low : Nat) (high : Option Nat) (input : List Char) :
    closeBounds low high (input ++ [')']) = (closeBounds low high input).map HasRest.close := by
  match input with
  | [] => rfl
  | char :: tail =>
      by_cases brace : char = '}'
      · subst brace
        rfl
      · simp [closeBounds, brace]

/-- Bounds are read the same, since they end in a brace before the parenthesis. -/
theorem bounds_close (memory : Memory) (input : List Char) :
    bounds memory (input ++ [')']) = (bounds memory input).map HasRest.close := by
  rw [bounds_eq, bounds_eq]
  refine (skip_carried memory input).bind_close (fun start => ?_) ?_
  · simp only [HasRest.close, lowBound_close]
    cases lowBound start with
    | none => rfl
    | some found =>
        obtain ⟨low, left⟩ := found
        refine (skip_carried memory left).bind_close (fun mark => ?_) ?_
        · refine (highBound_carried memory low mark).bind_close (fun (high, after) => ?_) ?_
          · refine (skip_carried memory after).bind_close
              (fun brace => closeBounds_close low high brace) ?_
            rintro brace rfl
            rfl
          · rintro ⟨high, after⟩ rfl
            simp only [skip_nil]
            rfl
        · rintro mark rfl
          rfl
  · rintro start rfl
    rfl

/-- A parenthesis belongs to no name. -/
theorem nameChars_close (relative : Bool) (input : List Char) :
    nameChars relative (input ++ [')']) = nameChars relative input := by
  have stops : isNameChar ')' = false := by decide +kernel
  match input with
  | [] => cases relative <;> simp [nameChars, stops]
  | char :: tail =>
      by_cases signed : relative = true ∧ char = '-'
      · simp [nameChars, signed, takeWhile_close_of_stops stops]
      · simp [nameChars, signed, List.takeWhile_cons, takeWhile_close_of_stops stops]

/-- A name is read as before if a parenthesis stands behind it, also if it was the closing mark. -/
theorem name_carried {opening closing : List Char} (plain : ')' ∉ opening)
    (mark : ')' ∉ closing ∨ closing = [')']) (relative : Bool) (input : List Char) :
    Carried (name opening closing relative input)
      (name opening closing relative (input ++ [')'])) := by
  rw [name_eq, name_eq, isPrefixOf_close plain]
  split
  · next starts =>
      have within := (List.isPrefixOf_iff_prefix.mp starts).length_le
      rw [List.drop_append_of_le_length within]
      generalize input.drop opening.length = body
      have short := (nameChars_starts relative body).length_le
      unfold nameUntil
      simp only [nameChars_close, List.drop_append_of_le_length short]
      generalize nameChars relative body = found
      generalize body.drop found.length = left
      cases found with
      | nil => exact .none
      | cons first others =>
          simp only [List.isEmpty_cons, Bool.not_false, Bool.true_and]
          obtain plain | rfl := mark
          · rw [isPrefixOf_close plain]
            split
            · next ends =>
                have within := (List.isPrefixOf_iff_prefix.mp ends).length_le
                rw [List.drop_append_of_le_length within]
                exact .some (first :: others, left.drop closing.length)
            · exact .none
          · match left with
            | [] =>
                refine .inr (.inr ⟨rfl, fun made same => ?_⟩)
                obtain rfl := Option.some.inj same
                rfl
            | char :: tail =>
                by_cases closes : char = ')'
                · subst closes
                  exact .some (first :: others, tail)
                · have other : [')'].isPrefixOf (char :: tail) = false := by
                    simp [List.isPrefixOf, Ne.symm closes]
                  have longer : [')'].isPrefixOf (char :: (tail ++ [')'])) = false := by
                    simp [List.isPrefixOf, Ne.symm closes]
                  rw [List.cons_append, other, longer]
                  exact .none
  · exact .none

/-- A reference by number is read the same, and the parenthesis is left. -/
theorem numberedReference_close (memory : Memory) (input : List Char) :
    numberedReference memory (input ++ [')']) =
      (numberedReference memory input).map HasRest.close := by
  unfold numberedReference
  rw [decimal_close]
  cases decimal input with
  | none => rfl
  | some found =>
      obtain ⟨group, left⟩ := found
      simp only [Option.map_some, Option.bind_eq_bind, Option.bind_some, HasRest.close]
      split
      · cases reference memory group <;> rfl
      · rfl

/-! ### Escapes and classes -/

/-- Every character is one digit. -/
theorem length_hexDigits {input : List Char} {digits : List Nat}
    (read : input.mapM hexDigit? = some digits) : digits.length = input.length := by
  induction input generalizing digits with
  | nil =>
      obtain rfl := Option.some.inj read
      rfl
  | cons char tail ih =>
      simp only [List.mapM_cons, Option.bind_eq_bind, Option.bind_eq_some_iff] at read
      obtain ⟨digit, -, others, rest, same⟩ := read
      obtain rfl := Option.some.inj same
      rw [List.length_cons, List.length_cons, ih rest]

/-- A parenthesis is no hexadecimal digit. -/
theorem hexDigits_close (input : List Char) : (input ++ [')']).mapM hexDigit? = none := by
  induction input with
  | nil => rfl
  | cons char tail ih =>
      rw [List.cons_append, List.mapM_cons, ih]
      cases hexDigit? char <;> rfl

/-- A code is read the same, and the parenthesis is left. -/
theorem hexCode_close (count : Nat) (input : List Char) :
    hexCode count (input ++ [')']) = (hexCode count input).map HasRest.close := by
  have braced : hexCode.braced (input ++ [')']) =
      (hexCode.braced input).map HasRest.close := by
    match input with
    | [] => rfl
    | char :: tail =>
        by_cases brace : char = '\x7b'
        · subst brace
          simp only [List.cons_append, hexCode.braced]
          cases found : tail.dropWhile (· != '}') with
          | nil =>
              rw [takeWhile_close_of_nil found rfl, hexDigits_close, takeWhile_eq_self found]
              cases tail.mapM hexDigit? with
              | none => rfl
              | some digits => simp
          | cons mark more =>
              have short := length_takeWhile_lt found
              have inside : (tail.takeWhile (· != '}')).length + 1 ≤ tail.length := short
              have apart : (tail.takeWhile (· != '}')).length ≠ (tail ++ [')']).length := by
                rw [List.length_append]
                omega
              rw [takeWhile_close found, List.drop_append_of_le_length inside]
              cases (tail.takeWhile (· != '}')).mapM hexDigit? with
              | none => rfl
              | some digits =>
                  simp only [Option.bind_eq_bind, Option.bind_some, apart, Nat.ne_of_lt short,
                    decide_false, Bool.or_false]
                  split
                  · rfl
                  · cases Regex.Reader.scalar? (hexValue digits) <;> rfl
        · simp [hexCode.braced, brace]
  unfold hexCode
  rw [braced]
  by_cases enough : count ≤ input.length
  · rw [List.take_append_of_le_length enough, List.drop_append_of_le_length enough]
    cases (input.take count).mapM hexDigit? with
    | none => rfl
    | some digits =>
        dsimp only
        split
        · cases Regex.Reader.scalar? (hexValue digits) <;> rfl
        · rfl
  · have whole : (input ++ [')']).take count = input ++ [')'] := by
      rw [List.take_of_length_le]
      simp only [List.length_append, List.length_singleton]
      omega
    rw [whole, hexDigits_close, List.take_of_length_le (by omega)]
    cases read : input.mapM hexDigit? with
    | none => rfl
    | some digits =>
        have few : digits.length ≠ count := by
          rw [length_hexDigits read]
          omega
        dsimp only
        rw [if_neg few]

/-- The name of a property is read the same, unless nothing is left for it. -/
theorem propertyText_carried (input : List Char) :
    Carried (propertyText input) (propertyText (input ++ [')'])) := by
  match input with
  | [] =>
      refine .inr (.inr ⟨rfl, fun found same => ?_⟩)
      obtain rfl := Option.some.inj same
      rfl
  | char :: tail =>
      by_cases brace : char = '\x7b'
      · subst brace
        simp only [List.cons_append, propertyText]
        cases found : tail.dropWhile (· != '}') with
        | nil =>
            rw [takeWhile_close_of_nil found rfl, takeWhile_eq_self found, if_pos rfl, if_pos rfl]
            exact .none
        | cons mark more =>
            have short := length_takeWhile_lt found
            have inside : (tail.takeWhile (· != '}')).length + 1 ≤ tail.length := short
            have apart : (tail.takeWhile (· != '}')).length ≠ (tail ++ [')']).length := by
              rw [List.length_append]
              omega
            rw [takeWhile_close found, List.drop_append_of_le_length inside, if_neg apart,
              if_neg (Nat.ne_of_lt short)]
            exact .some ('\x7b' :: tail.takeWhile (· != '}') ++ ['\x7d'], _)
      · have single (left : List Char) : propertyText (char :: left) = some ([char], left) := by
          simp [propertyText]
        rw [List.cons_append, single, single]
        exact .some ([char], tail)

/-- An escape that is a part of its own is read the same. -/
theorem ownEscape_carried (memory : Memory) (char : Char) (input : List Char) :
    Carried (ownEscape memory char input) (ownEscape memory char (input ++ [')'])) := by
  have head {mark : Char} (other : mark ≠ ')') :
      ((input ++ [')']).head? == some mark) = (input.head? == some mark) := by
    cases input with
    | nil => simp [Ne.symm other]
    | cons char tail => rfl
  unfold ownEscape
  split
  · have named : Carried (referredName input) (referredName (input ++ [')'])) := by
      unfold referredName
      rw [head (by decide)]
      split
      · exact name_carried (by decide) (.inl (by decide)) true input
      · exact name_carried (by decide) (.inl (by decide)) true input
    refine named.values fun found => ?_
    dsimp only
    cases namedReference memory found with
    | none => exact .inl fun _ => rfl
    | some expression => exact .inr ⟨_, fun _ => rfl⟩
  case h_4 | h_5 =>
    rw [head (by decide)]
    split
    · exact .none
    · exact .some _
  case h_10 =>
    split
    · exact .none
    · exact .some _
  all_goals exact .some _

/-- An escape for a code is read the same. -/
theorem hexEscape_carried (count : Nat) (input : List Char) : Carried
    ((hexCode count input).map fun (char, rest) => (Escaped.char char, rest))
    ((hexCode count (input ++ [')'])).map fun (char, rest) => (Escaped.char char, rest)) :=
  (Carried.of_map (hexCode_close count input)).map (fun _ => rfl) (fun _ => rfl)

/-- An escape for a property is read the same. -/
theorem propertyEscape_carried (letter : Char) (input : List Char) : Carried
    ((propertyText input).map fun (text, rest) => (Escaped.text ('\\' :: letter :: text), rest))
    ((propertyText (input ++ [')'])).map fun (text, rest) =>
      (Escaped.text ('\\' :: letter :: text), rest)) :=
  (propertyText_carried input).map (fun _ => rfl) (fun _ => rfl)

/-- An escape with a name is read the same. -/
theorem namedEscape_carried (char : Char) (input : List Char) :
    Carried (namedEscape char input) (namedEscape char (input ++ [')'])) := by
  unfold namedEscape
  split
  all_goals
    first
      | exact .some _
      | exact hexEscape_carried _ input
      | exact propertyEscape_carried _ input
      | exact .none

/-- Any other escape is read the same. -/
theorem otherEscape_carried (memory : Memory) (inClass : Bool) (char : Char) (input : List Char) :
    Carried (otherEscape memory inClass char input)
      (otherEscape memory inClass char (input ++ [')'])) := by
  unfold otherEscape
  split
  · split
    · exact .none
    · exact (Carried.of_map (numberedReference_close memory (char :: input))).map
        (fun _ => rfl) (fun _ => rfl)
  split
  · exact .some (Escaped.text ['\\', char], input)
  split
  · split
    · exact .none
    · exact .some (Escaped.char char, input)
  · exact ownEscape_carried memory char input

/-- An escape is read the same, unless its backslash comes last and takes the parenthesis. -/
theorem escape_carried (memory : Memory) (inClass : Bool) (input : List Char) :
    Carried (escape memory inClass input) (escape memory inClass (input ++ [')'])) := by
  match input with
  | [] =>
      refine .inr (.inr ⟨rfl, fun found same => ?_⟩)
      rw [List.nil_append, escape_cons] at same
      cases inClass with
      | true =>
          obtain rfl := Option.some.inj same
          rfl
      | false =>
          obtain rfl := Option.some.inj same
          rfl
  | char :: tail =>
      rw [List.cons_append, escape_cons, escape_cons]
      split
      · exact namedEscape_carried char tail
      · exact otherEscape_carried memory inClass char tail

/-- What follows an escape in a class. -/
def afterClassEscape (memory : Memory) (fuel depth : Nat) :
    Escaped × List Char → Option (List Char × List Char)
  | (.char char, rest) =>
    (classText memory fuel depth rest).map fun (text, rest) => (quoteInClass char ++ text, rest)
  | (.text found, rest) =>
    (classText memory fuel depth rest).map fun (text, rest) => (found ++ text, rest)
  | _ => none

/-- After a backslash the text of a class goes on with what the escape stands for. -/
theorem classText_escape (memory : Memory) (fuel depth : Nat) (rest : List Char) :
    classText memory (fuel + 1) depth ('\\' :: rest) =
      (escape memory true rest).bind (afterClassEscape memory fuel depth) := by
  rw [classText]
  cases escape memory true rest with
  | none => rfl
  | some found =>
      obtain ⟨escaped, left⟩ := found
      cases escaped <;> rfl

/-- A class is not closed by the end of the text. -/
theorem classText_nil (memory : Memory) (fuel depth : Nat) :
    classText memory fuel depth [] = none := by
  cases fuel <;> rfl

/-- The text of a class is read the same, for it ends in a bracket. -/
theorem classText_close (memory : Memory) (fuel depth : Nat) (input : List Char) :
    classText memory fuel depth (input ++ [')']) =
      (classText memory fuel depth input).map HasRest.close := by
  induction fuel generalizing depth input with
  | zero => rfl
  | succ fuel ih =>
      have goesOn (depth : Nat) (left : List Char) (make : List Char → List Char) :
          ((classText memory fuel depth (left ++ [')'])).map fun (text, rest) => (make text, rest)) =
            ((classText memory fuel depth left).map fun (text, rest) => (make text, rest)).map
              HasRest.close := by
        rw [ih, Option.map_map, Option.map_map]
        rfl
      match input with
      | [] => simp [classText, classText_nil]
      | char :: tail =>
          rw [List.cons_append]
          by_cases slash : char = '\\'
          · subst slash
            rw [classText_escape, classText_escape]
            refine (escape_carried memory true tail).bind_close (fun found => ?_) ?_
            · obtain ⟨escaped, left⟩ := found
              cases escaped with
              | char char => exact goesOn depth left (quoteInClass char ++ ·)
              | text found => exact goesOn depth left (found ++ ·)
              | exact char => rfl
              | expression expression memory => rfl
            · rintro ⟨escaped, left⟩ rfl
              cases escaped <;> simp [afterClassEscape, classText_nil]
          by_cases opens : char = '['
          · subst opens
            exact goesOn (depth + 1) tail ('[' :: ·)
          by_cases closes : char = ']'
          · subst closes
            simp only [classText]
            split
            · rfl
            · exact goesOn (depth - 1) tail (']' :: ·)
          · have copied (left : List Char) : classText memory (fuel + 1) depth (char :: left) =
                (classText memory fuel depth left).map fun (text, rest) => (char :: text, rest) := by
              simp [classText]
            rw [copied, copied]
            exact goesOn depth tail (char :: ·)

/-- With fuel for each character, the text of a class does not depend on the fuel. -/
theorem classText_of_le (memory : Memory) {fuel more : Nat} (depth : Nat) {input : List Char}
    (enough : input.length ≤ fuel) (plenty : input.length ≤ more) :
    classText memory fuel depth input = classText memory more depth input := by
  induction fuel generalizing more depth input with
  | zero =>
      obtain rfl := List.length_eq_zero_iff.mp (Nat.le_zero.mp enough)
      rw [classText_nil, classText_nil]
  | succ fuel ih =>
      match input, more with
      | [], more => rw [classText_nil, classText_nil]
      | char :: tail, more + 1 =>
          rw [List.length_cons] at enough plenty
          have same (depth : Nat) : classText memory fuel depth tail =
              classText memory more depth tail := ih depth (by omega) (by omega)
          by_cases slash : char = '\\'
          · subst slash
            rw [classText_escape, classText_escape]
            cases found : escape memory true tail with
            | none => rfl
            | some result =>
                obtain ⟨escaped, left⟩ := result
                have shorter := length_escape_lt found
                have same : classText memory fuel depth left = classText memory more depth left :=
                  ih depth (by omega) (by omega)
                cases escaped <;> simp [afterClassEscape, same]
          · rw [classText.eq_def memory (fuel + 1), classText.eq_def memory (more + 1)]
            dsimp only
            split <;> simp_all

/-- The negation of a class is read the same. -/
theorem negationStart_close (input : List Char) :
    negationStart (input ++ [')']) = HasRest.close (negationStart input) := by
  match input with
  | [] => rfl
  | char :: tail =>
      by_cases caret : char = '^'
      · subst caret
        rfl
      · simp [negationStart, caret, HasRest.close]

/-- A first bracket of a class is read the same. -/
theorem firstBracket_close (input : List Char) :
    firstBracket (input ++ [')']) = HasRest.close (firstBracket input) := by
  match input with
  | [] => rfl
  | char :: tail =>
      by_cases bracket : char = ']'
      · subst bracket
        rfl
      · simp [firstBracket, bracket, HasRest.close]

/-- The whole text of a class is read the same. -/
theorem bracketText_close (memory : Memory) (input : List Char) :
    bracketText memory (input ++ [')']) = (bracketText memory input).map HasRest.close := by
  rw [bracketText_eq, bracketText_eq]
  simp only [negationStart_close, firstBracket_close, HasRest.close]
  generalize firstBracket (negationStart input).2 = first
  have same : classText memory ((first.2 ++ [')']).length + 1) 0 (first.2 ++ [')']) =
      classText memory (first.2.length + 1) 0 (first.2 ++ [')']) :=
    classText_of_le memory 0 (Nat.le_succ _) (by simp)
  rw [same, classText_close, Option.map_map, Option.map_map]
  rfl

/-- What an escape stands for outside of classes. -/
def afterEscape (memory : Memory) : Escaped × List Char → Option (Expression × Memory × List Char)
  | (.char char, rest) => some (.literal char memory.ignoreCase, memory, rest)
  | (.exact char, rest) => some (.literal char false, memory, rest)
  | (.text text, rest) => (classRegex memory text).map fun expression => (expression, memory, rest)
  | (.expression expression memory, rest) => some (expression, memory, rest)

/-- After a backslash an expression is what the escape stands for. -/
theorem simple_escape (memory : Memory) (rest : List Char) :
    simple memory ('\\' :: rest) = (escape memory false rest).bind (afterEscape memory) := by
  rw [simple]
  cases escape memory false rest with
  | none => rfl
  | some found =>
      obtain ⟨escaped, left⟩ := found
      cases escaped <;> rfl

/-- A simple expression is read the same, unless it would be the parenthesis itself. -/
theorem simple_carried (memory : Memory) (input : List Char) :
    Carried (simple memory input) (simple memory (input ++ [')'])) := by
  match input with
  | [] =>
      refine .inr (.inr ⟨rfl, fun found same => ?_⟩)
      obtain rfl := Option.some.inj same
      rfl
  | char :: tail =>
      rw [List.cons_append]
      by_cases dot : char = '.'
      · subst dot
        exact .some (Expression.anyChar memory.dotMatchesNewLine, memory, tail)
      by_cases caret : char = '^'
      · subst caret
        exact .some (Expression.condition _, memory, tail)
      by_cases dollar : char = '$'
      · subst dollar
        exact .some (Expression.condition _, memory, tail)
      by_cases slash : char = '\\'
      · subst slash
        rw [simple_escape, simple_escape]
        refine (escape_carried memory false tail).bind (fun (escaped, left) => ?_) ?_
        · cases escaped with
          | char char => exact .some (Expression.literal char memory.ignoreCase, memory, left)
          | exact char => exact .some (Expression.literal char false, memory, left)
          | text text =>
              simp only [HasRest.close, afterEscape]
              cases classRegex memory text with
              | none => exact .none
              | some expression => exact .some (expression, memory, left)
          | expression expression after => exact .some (expression, after, left)
        · rintro ⟨escaped, left⟩ made rfl same
          cases escaped with
          | text text =>
              obtain ⟨expression, -, rfl⟩ := Option.map_eq_some_iff.mp same
              rfl
          | _ =>
              obtain rfl := Option.some.inj same
              rfl
      by_cases bracket : char = '['
      · subst bracket
        simp only [simple, bracketText_close]
        cases bracketText memory tail with
        | none => exact .none
        | some found =>
            obtain ⟨text, left⟩ := found
            simp only [Option.map_some, Option.bind_eq_bind, Option.bind_some]
            cases classRegex memory text with
            | none => exact .none
            | some expression => exact .some (expression, memory, left)
      · have literal (left : List Char) : simple memory (char :: left) =
            some (.literal char memory.ignoreCase, memory, left) := by
          simp [simple]
        rw [literal, literal]
        exact .some (Expression.literal char memory.ignoreCase, memory, tail)

/-! ### Groups and repetitions -/

/-- What follows one letter among the flags of a group. -/
def afterFlag (negated : Bool) (count fuel : Nat) (memory : Memory) :
    List Char → Option (Memory × Bool × List Char)
  | 'i' :: rest => flags negated (count + 1) fuel { memory with ignoreCase := !negated } rest
  | 'm' :: rest => flags negated (count + 1) fuel { memory with multiLine := !negated } rest
  | 's' :: rest => flags negated (count + 1) fuel { memory with dotMatchesNewLine := !negated } rest
  | 'U' :: rest => flags negated (count + 1) fuel { memory with swapGreed := !negated } rest
  | 'x' :: rest => flags negated (count + 1) fuel { memory with extended := !negated } rest
  | 'u' :: rest => if negated then none else flags negated (count + 1) fuel memory rest
  | '-' :: rest => if negated then none else flags true (count + 1) fuel memory rest
  | ')' :: rest =>
    if count = 0 || (negated && count = 1) then none else some (memory, false, rest)
  | ':' :: rest => if negated && count = 1 then none else some (memory, true, rest)
  | _ => none

/-- One flag is read after what may be skipped before it. -/
theorem flags_succ (negated : Bool) (count fuel : Nat) (memory : Memory) (input : List Char) :
    flags negated count (fuel + 1) memory input = (skip memory input).bind fun after =>
      afterFlag negated (count + (input.length - after.length)) fuel memory after := by
  rw [flags]
  cases skip memory input <;> rfl

/-- Flags do not end with the text. -/
theorem flags_nil (negated : Bool) (count fuel : Nat) (memory : Memory) :
    flags negated count fuel memory [] = none := by
  cases fuel with
  | zero => rfl
  | succ fuel => rw [flags_succ, skip_nil]; rfl

/-- Flags are read the same, unless a closing parenthesis was missing. -/
theorem flags_carried (negated : Bool) (count fuel : Nat) (memory : Memory) (input : List Char) :
    Carried (flags negated count fuel memory input)
      (flags negated count fuel memory (input ++ [')'])) := by
  induction fuel generalizing negated count memory input with
  | zero => exact .none
  | succ fuel ih =>
      have letters (count : Nat) (left : List Char) :
          Carried (afterFlag negated count fuel memory left)
            (afterFlag negated count fuel memory (left ++ [')'])) := by
        match left with
        | [] =>
            refine .inr (.inr ⟨rfl, fun found same => ?_⟩)
            rw [List.nil_append, afterFlag] at same
            split at same
            · exact nomatch same
            · obtain rfl := Option.some.inj same
              rfl
        | char :: tail =>
            rw [List.cons_append, afterFlag.eq_def negated count fuel memory (char :: tail)]
            split
            case h_10 =>
              have other : afterFlag negated count fuel memory (char :: (tail ++ [')'])) = none := by
                unfold afterFlag
                split <;> simp_all
              rw [other]
              exact .none
            all_goals
              rename_i same
              obtain ⟨rfl, rfl⟩ := List.cons.inj same
            case h_6 | h_7 =>
              simp only [afterFlag]
              split
              · exact .none
              · exact ih _ _ _ _
            case h_8 =>
              simp only [afterFlag]
              split
              · exact .none
              · exact .some (memory, false, tail)
            case h_9 =>
              simp only [afterFlag]
              split
              · exact .none
              · exact .some (memory, true, tail)
            all_goals exact ih _ _ _ _
      rw [flags_succ, flags_succ]
      obtain ⟨left, here, there⟩ | ⟨left, here, there, nothing⟩ | ⟨here, there⟩ :=
        skip_carried memory input
      · have same : (input ++ [')']).length - (left ++ [')']).length =
            input.length - left.length := by simp
        rw [here, there, Option.bind_some, Option.bind_some]
        simp only [HasRest.close, same]
        exact letters _ left
      · obtain rfl : left = [] := nothing
        rw [here, there]
        exact .none
      · rw [here]
        refine .inr (.inr ⟨rfl, fun found same => ?_⟩)
        obtain ⟨left, skipped, same⟩ := Option.bind_eq_some_iff.mp same
        obtain rfl : left = [] := there left skipped
        exact nomatch same

/-- With fuel for each character, flags do not depend on the fuel. -/
theorem flags_of_le {negated : Bool} {count fuel more : Nat} {memory : Memory} {input : List Char}
    (enough : input.length ≤ fuel) (plenty : input.length ≤ more) :
    flags negated count fuel memory input = flags negated count more memory input := by
  induction fuel generalizing negated count more memory input with
  | zero =>
      obtain rfl := List.length_eq_zero_iff.mp (Nat.le_zero.mp enough)
      rw [flags_nil, flags_nil]
  | succ fuel ih =>
      match more with
      | 0 =>
          obtain rfl := List.length_eq_zero_iff.mp (Nat.le_zero.mp plenty)
          rw [flags_nil, flags_nil]
      | more + 1 =>
          rw [flags_succ, flags_succ]
          cases skipped : skip memory input with
          | none => rfl
          | some left =>
              have shorter := length_skip_le skipped
              match left with
              | [] => rfl
              | char :: tail =>
                  rw [List.length_cons] at shorter
                  have same (negated : Bool) (count : Nat) (memory : Memory) :
                      flags negated count fuel memory tail = flags negated count more memory tail :=
                    ih (by omega) (by omega)
                  rw [Option.bind_some, Option.bind_some]
                  unfold afterFlag
                  split
                  all_goals
                    first
                      | rfl
                      | next here =>
                          obtain ⟨rfl, rfl⟩ := List.cons.inj here
                          first
                            | exact same _ _ _
                            | (split; rfl; exact same _ _ _)

/-- The start of a group from a character that counts. -/
def openingFrom (memory : Memory) (input : List Char) : Option (Opening × Memory × List Char) :=
  match input with
  | '?' :: '=' :: rest => some (.lookAround false false, memory, rest)
  | '?' :: '!' :: rest => some (.lookAround false true, memory, rest)
  | '?' :: '<' :: '=' :: rest => some (.lookAround true false, memory, rest)
  | '?' :: '<' :: '!' :: rest => some (.lookAround true true, memory, rest)
  | '?' :: '<' :: rest => opening.named memory ('<' :: rest)
  | '?' :: 'P' :: '<' :: rest => opening.named memory ('<' :: rest)
  | '?' :: 'P' :: '=' :: rest => (name [] [')'] false rest).bind fun (found, rest) =>
    (namedReference memory found).bind fun expression => some (.reference expression, memory, rest)
  | '?' :: '>' :: rest => some (.atomic, memory, rest)
  | '?' :: '(' :: rest => some (.conditional, memory, rest)
  | '?' :: rest => (flags false 0 (rest.length + 1) memory rest).bind fun (memory, opens, rest) =>
    some (if opens then .plain else .nothing, memory, rest)
  | rest => some (.capture, { memory with opened := memory.opened + 1 }, rest)

/-- The start of a group is read after what may be skipped before it. -/
theorem opening_eq (memory : Memory) (input : List Char) :
    opening memory input = (skip memory input).bind (openingFrom memory) := rfl

/-- The start of a group with a name is read the same. -/
theorem named_carried (memory : Memory) (input : List Char) :
    Carried (opening.named memory input) (opening.named memory (input ++ [')'])) := by
  refine (name_carried (by decide) (.inl (by decide)) false input).bind
    (fun (found, left) => .some _) ?_
  rintro ⟨found, left⟩ made rfl same
  obtain rfl := Option.some.inj same
  rfl

/-- What follows the parenthesis of a group is read the same. -/
theorem openingFrom_carried (memory : Memory) (input : List Char) :
    Carried (openingFrom memory input) (openingFrom memory (input ++ [')'])) := by
  rw [openingFrom.eq_def memory input]
  split
  · exact .some _
  · exact .some _
  · exact .some _
  · exact .some _
  · next tail _ _ =>
      have longer : openingFrom memory ('?' :: '<' :: tail ++ [')']) =
          opening.named memory ('<' :: tail ++ [')']) := by
        cases tail <;> simp_all [openingFrom]
      rw [longer]
      exact named_carried memory ('<' :: tail)
  · exact named_carried memory _
  · next tail =>
      change Carried _ ((name [] [')'] false (tail ++ [')'])).bind _)
      refine (name_carried List.not_mem_nil (.inr rfl) false tail).bind (fun (found, left) => ?_) ?_
      · simp only [HasRest.close]
        cases namedReference memory found with
        | none => exact .none
        | some expression => exact .some (Opening.reference expression, memory, left)
      · rintro ⟨found, left⟩ made rfl same
        obtain ⟨expression, -, same⟩ := Option.bind_eq_some_iff.mp same
        obtain rfl := Option.some.inj same
        rfl
  · exact .some _
  · exact .some _
  · next tail _ _ _ _ _ _ _ _ _ =>
      have longer : openingFrom memory ('?' :: tail ++ [')']) =
          (flags false 0 ((tail ++ [')']).length + 1) memory (tail ++ [')'])).bind
            fun (memory, opens, rest) =>
              some (if opens then .plain else .nothing, memory, rest) := by
        rcases tail with _ | ⟨second, _ | ⟨third, more⟩⟩ <;> simp_all [openingFrom]
      rw [longer, flags_of_le (Nat.le_succ _) (by simp : (tail ++ [')']).length ≤ tail.length + 1)]
      refine (flags_carried false 0 (tail.length + 1) memory tail).bind
        (fun (memory, opens, left) => .some _) ?_
      rintro ⟨memory, opens, left⟩ made rfl same
      obtain rfl := Option.some.inj same
      rfl
  · have longer : openingFrom memory (input ++ [')']) =
        some (.capture, { memory with opened := memory.opened + 1 }, input ++ [')']) := by
      cases input <;> simp_all [openingFrom]
    rw [longer]
    exact .some _

/-- The start of a group is read the same. -/
theorem opening_carried (memory : Memory) (input : List Char) :
    Carried (opening memory input) (opening memory (input ++ [')'])) := by
  rw [opening_eq, opening_eq]
  refine (skip_carried memory input).bind (openingFrom_carried memory) ?_
  rintro left made rfl same
  obtain rfl := Option.some.inj same
  rfl

/-- A repetition is read the same. -/
theorem repetition?_close (memory : Memory) (input : List Char) :
    repetition? memory (input ++ [')']) = (repetition? memory input).map HasRest.close := by
  match input with
  | [] => rfl
  | char :: tail =>
      rw [List.cons_append]
      by_cases mark : char = '?'
      · subst mark
        rfl
      by_cases star : char = '*'
      · subst star
        rfl
      by_cases plus : char = '+'
      · subst plus
        rfl
      by_cases brace : char = '\x7b'
      · subst brace
        exact bounds_close memory tail
      · have nothing (left : List Char) : repetition? memory (char :: left) = none := by
          unfold repetition?
          split <;> simp_all
        rw [nothing, nothing]
        rfl

/-- The mark for lazy rounds is read the same. -/
theorem preference_close (input : List Char) :
    preference (input ++ [')']) = HasRest.close (preference input) := by
  match input with
  | [] => rfl
  | char :: tail =>
      by_cases mark : char = '?'
      · subst mark
        rfl
      · simp [preference, mark, HasRest.close]

/-- The mark for possessive rounds is read the same. -/
theorem possessive_close (rounds : Expression) (input : List Char) :
    possessive rounds (input ++ [')']) = HasRest.close (possessive rounds input) := by
  match input with
  | [] => rfl
  | char :: tail =>
      by_cases mark : char = '+'
      · subst mark
        rfl
      · simp [possessive, mark, HasRest.close]

/-- A repetition around an expression, if one follows. -/
def repeatedFrom (memory : Memory) (body : Expression) (input : List Char) :
    Option (Expression × List Char) :=
  match repetition? memory input with
  | none => some (body, input)
  | some (low, high, rest) =>
    if body.isRepeatable then
      (skip memory rest).bind fun rest =>
        some (possessive (.rounds body low high ((preference rest).1 != memory.swapGreed))
          (preference rest).2)
    else none

/-- A repetition is read after what may be skipped before it. -/
theorem withRepetition_eq (memory : Memory) (body : Expression) (input : List Char) :
    withRepetition memory body input = (skip memory input).bind (repeatedFrom memory body) := rfl

/-- An expression with its repetition is read the same. -/
theorem withRepetition_carried (memory : Memory) (body : Expression) (input : List Char) :
    Carried (withRepetition memory body input) (withRepetition memory body (input ++ [')'])) := by
  rw [withRepetition_eq, withRepetition_eq]
  refine (skip_carried memory input).bind (fun start => ?_) ?_
  · simp only [HasRest.close, repeatedFrom, repetition?_close]
    cases repetition? memory start with
    | none => exact .some (body, start)
    | some found =>
        obtain ⟨low, high, left⟩ := found
        simp only [Option.map_some]
        split
        · refine (skip_carried memory left).bind (fun after => ?_) ?_
          · simp only [HasRest.close, preference_close, possessive_close]
            exact .some (possessive _ (preference after).2)
          · rintro after made rfl same
            obtain rfl := Option.some.inj same
            rfl
        · exact .none
  · rintro start made rfl same
    obtain rfl := Option.some.inj same
    rfl

/-- A closing parenthesis is the one that was there, if there was one. -/
theorem close_carried (memory : Memory) (input : List Char) :
    Carried (close memory input) (close memory (input ++ [')'])) := by
  refine (skip_carried memory input).bind (fun start => ?_) ?_
  · match start with
    | [] =>
        refine .inr (.inr ⟨rfl, fun found same => ?_⟩)
        obtain rfl := Option.some.inj same
        rfl
    | char :: tail =>
        by_cases closing : char = ')'
        · subst closing
          exact .some tail
        · simp only [HasRest.close, List.cons_append, List.cons.injEq, closing, false_and, imp_self,
            implies_true]
          exact .none
  · rintro start made rfl same
    exact nomatch same

end TypedJson.Backtrack.Reader
