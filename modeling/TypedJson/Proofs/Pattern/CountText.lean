import TypedJson.Backtrack.Reader
import TypedJson.Proofs.Pattern.Image

namespace TypedJson.Pattern

open TypedJson.Regex.Reader (countDigits)

/-- A character that ends a number and is no blank. -/
def EndsNumber (char : Char) : Prop := char.isDigit = false ∧ Unicode.isBlank char = false

/-- A comma ends a number. -/
theorem endsNumber_comma : EndsNumber ',' := ⟨rfl, rfl⟩

/-- A brace ends a number. -/
theorem endsNumber_brace : EndsNumber '}' := ⟨rfl, rfl⟩

/-- A numeral is made of digits. -/
theorem isDigit_of_mem {number : Nat} {char : Char} (inside : char ∈ Nat.toDigits 10 number) :
    char.isDigit = true := Nat.isDigit_of_mem_toDigits (by decide) (by decide) inside

/-- No digit is blank. -/
theorem isBlank_of_isDigit {char : Char} (digit : char.isDigit = true) :
    Unicode.isBlank char = false := by
  have bounds := Char.isDigit_iff_toNat.mp digit
  have low : '0'.toNat = 48 := rfl
  have high : '9'.toNat = 57 := rfl
  rw [low, high] at bounds
  simp only [Unicode.isBlank, Unicode.inRanges, Unicode.blankRanges, List.any_cons, List.any_nil,
    Bool.or_false, Bool.or_eq_false_iff, Bool.and_eq_false_iff, decide_eq_false_iff_not]
  omega

/-- Digits lie between zero and nine. -/
theorem isDigit_iff_le {char : Char} : char.isDigit = true ↔ '0' ≤ char ∧ char ≤ '9' := by
  simp [Char.isDigit, Char.le_def]

/-- Digits are read up to what ends a number. -/
theorem countDigits_append {digits : List Char} (all : ∀ char ∈ digits, char.isDigit = true)
    {char : Char} (ends : EndsNumber char) (rest : List Char) :
    countDigits false false (digits ++ char :: rest) =
      (digits.map fun digit => digit.toNat - 48, char :: rest) := by
  induction digits with
  | nil =>
      have outside : ¬('0' ≤ char ∧ char ≤ '9') := by
        rw [← isDigit_iff_le, ends.1]
        decide
      simp [countDigits, outside]
  | cons digit others ih =>
      rw [List.forall_mem_cons] at all
      have inside : '0' ≤ digit ∧ digit ≤ '9' := isDigit_iff_le.mp all.1
      simp [countDigits, inside, ih all.2]

/-- The linear reader finds the number that is written. -/
theorem count_toDigits {number : Nat} (small : number ≤ Regex.Reader.countLimit) {char : Char}
    (ends : EndsNumber char) (rest : List Char) :
    Regex.Reader.count false (Nat.toDigits 10 number ++ char :: rest) =
      some (number, char :: rest) := by
  have all : ∀ char ∈ Nat.toDigits 10 number, char.isDigit = true := fun _ => isDigit_of_mem
  have unblank : (Nat.toDigits 10 number ++ char :: rest).dropWhile Unicode.isBlank =
      Nat.toDigits 10 number ++ char :: rest := by
    cases digits : Nat.toDigits 10 number with
    | nil => exact absurd digits Nat.toDigits_ne_nil
    | cons digit others =>
        have first : Unicode.isBlank digit = false :=
          isBlank_of_isDigit (all digit (digits ▸ List.mem_cons_self))
        simp [first]
  have ended : (char :: rest).dropWhile Unicode.isBlank = char :: rest := by
    simp [ends.2]
  have value : ((Nat.toDigits 10 number).map fun digit => digit.toNat - 48).foldl
      (fun value digit => value * 10 + digit) 0 = number := by
    rw [List.foldl_map]
    exact decimalValue_toDigits number
  simp [Regex.Reader.count, unblank, countDigits_append all ends, ended, value, small,
    Nat.toDigits_ne_nil]

/-- One number between braces is both bounds. -/
theorem bounds_exactly {number : Nat} (small : number ≤ Regex.Reader.countLimit)
    (rest : List Char) :
    Regex.Reader.bounds false (Nat.toDigits 10 number ++ '}' :: rest) =
      some (number, some number, rest) := by
  simp [Regex.Reader.bounds, Regex.Reader.skip, count_toDigits small endsNumber_brace]

/-- A number and a comma are a lower bound. -/
theorem bounds_atLeast {low : Nat} (small : low ≤ Regex.Reader.countLimit) (rest : List Char) :
    Regex.Reader.bounds false (Nat.toDigits 10 low ++ ',' :: '}' :: rest) =
      some (low, none, rest) := by
  simp [Regex.Reader.bounds, Regex.Reader.skip, count_toDigits small endsNumber_comma]

/-- Two numbers are a lower and an upper bound. -/
theorem bounds_between {low high : Nat} (ordered : low ≤ high)
    (small : high ≤ Regex.Reader.countLimit) (rest : List Char) :
    Regex.Reader.bounds false
        (Nat.toDigits 10 low ++ ',' :: (Nat.toDigits 10 high ++ '}' :: rest)) =
      some (low, some high, rest) := by
  have least := count_toDigits (Nat.le_trans ordered small) endsNumber_comma
    (Nat.toDigits 10 high ++ '}' :: rest)
  have most := count_toDigits small endsNumber_brace rest
  cases digits : Nat.toDigits 10 high with
  | nil => exact absurd digits Nat.toDigits_ne_nil
  | cons digit others =>
      have number : digit.isDigit = true := isDigit_of_mem (digits ▸ List.mem_cons_self)
      have unclosed : digit ≠ '}' := ne_of_test number (by decide)
      rw [digits] at least most
      rw [List.cons_append] at least most ⊢
      simp [Regex.Reader.bounds, Regex.Reader.skip, least, most, unclosed, ordered]

/-- The backtracking reader finds the number that is written. -/
theorem decimal_toDigits {number : Nat} (small : number ≤ Regex.Reader.countLimit) {char : Char}
    (ends : EndsNumber char) (rest : List Char) :
    Backtrack.Reader.decimal (Nat.toDigits 10 number ++ char :: rest) =
      some (number, char :: rest) := by
  have all : ∀ char ∈ Nat.toDigits 10 number, char.isDigit = true := fun _ => isDigit_of_mem
  have taken : (Nat.toDigits 10 number ++ char :: rest).takeWhile Char.isDigit =
      Nat.toDigits 10 number := by
    rw [List.takeWhile_append_of_pos all]
    simp [ends.1]
  have fits : ¬Backtrack.Reader.unbounded < number := by
    have limit : Regex.Reader.countLimit < Backtrack.Reader.unbounded := by decide
    omega
  simp [Backtrack.Reader.decimal, taken, decimalValue_toDigits, Nat.toDigits_ne_nil, fits]

/-- No count is the one that stands for no bound. -/
theorem bound?_small {number : Nat} (small : number ≤ Regex.Reader.countLimit) :
    Backtrack.Reader.bound? number = some number := by
  have limit : Regex.Reader.countLimit < Backtrack.Reader.unbounded := by decide
  rw [Backtrack.Reader.bound?, if_neg (by omega)]

/-- The question mark of a repetition that prefers few rounds. -/
def lazyMark (lazy : Bool) : List Char := if lazy then ['?'] else []

/-- What may follow a repetition or an item without one. -/
def EndsItem (input : List Char) : Prop :=
  ∀ char, input.head? = some char → char ≠ '?' ∧ char ≠ '*' ∧ char ≠ '+' ∧ char ≠ '{'

/-- What may follow a body: nothing or the end of its group. -/
def EndsBody (input : List Char) : Prop := input = [] ∨ ∃ rest, input = ')' :: rest

/-- A character that is no mark of a repetition ends an item. -/
theorem endsItem_cons {char : Char} {rest : List Char}
    (plain : char ∉ ['?', '*', '+', '{']) : EndsItem (char :: rest) := by
  intro other same
  obtain rfl : char = other := Option.some.inj same
  simpa using plain

/-- What ends a body ends an item. -/
theorem EndsBody.endsItem {input : List Char} (ends : EndsBody input) : EndsItem input := by
  rcases ends with rfl | ⟨rest, rfl⟩
  · intro char same
    exact absurd same (by simp)
  · exact endsItem_cons (by decide)

/-- The text of a leaf does not start like a repetition. -/
theorem Leaf.image_starts (engine : Engine) (leaf : Leaf) :
    ∃ char others, leaf.image engine = char :: others ∧ char ∉ ['?', '*', '+', '{'] := by
  cases leaf with
  | one literal =>
      cases literal with
      | bare char allowed =>
          refine ⟨char, [], rfl, fun inside => ?_⟩
          simp only [List.mem_cons, List.not_mem_nil, or_false] at inside
          rcases inside with rfl | rfl | rfl | rfl
          all_goals exact absurd allowed (by decide)
      | quoted char allowed => exact ⟨'\\', [char], rfl, by decide⟩
      | control kind => exact ⟨'\\', [kind.letter], rfl, by decide⟩
  | dot => exact ⟨'.', [], rfl, by decide⟩
  | start => exact ⟨'^', [], rfl, by decide⟩
  | stop => exact ⟨'$', [], rfl, by decide⟩
  | common negated kind => cases kind <;> cases negated <;> exact ⟨_, _, rfl, by decide⟩
  | boundary negated => cases engine <;> cases negated <;> exact ⟨_, _, rfl, by decide⟩
  | set negated first others => exact ⟨'[', _, rfl, by decide⟩

/-- The image of a body ends the item before it. -/
theorem Body.image_endsItem (engine : Engine) (body : Body) {tail : List Char}
    (ends : EndsBody tail) : EndsItem (body.image engine ++ tail) := by
  cases body with
  | done => exact ends.endsItem
  | or rest => exact endsItem_cons (by decide)
  | item leaf count rest =>
      obtain ⟨char, others, same, plain⟩ := leaf.image_starts engine
      simp only [image, same, List.cons_append]
      exact endsItem_cons plain
  | group captures inner count rest => cases captures <;> exact endsItem_cons (by decide)

/-- The text of a body from its second alternative on. -/
def othersText (engine : Engine) (body : Body) : List Char :=
  match body.others with
  | none => []
  | some rest => '|' :: rest.image engine

end TypedJson.Pattern
