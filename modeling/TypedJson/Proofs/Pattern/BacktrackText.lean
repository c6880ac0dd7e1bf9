import TypedJson.Proofs.Backtrack.Matches
import TypedJson.Proofs.Pattern.GatheredText
import TypedJson.Proofs.Unicode.Folding

namespace TypedJson.Pattern

open TypedJson.Backtrack (Expression)
open TypedJson.Backtrack.Expression (Regular)
open TypedJson.Backtrack.Reader (Memory piece simple classRegex withRepetition skip)

/-- The memory of the backtracking reader while it reads a body. -/
structure Rules.Holds (rules : Rules) (memory : Memory) : Prop where
  case : memory.ignoreCase = rules.ignoreCase
  lines : memory.multiLine = rules.multiLine
  dots : memory.dotMatchesNewLine = false
  greed : memory.swapGreed = false
  plain : memory.extended = false

/-- The flags in the memory are those of the rules. -/
theorem Rules.Holds.governs {rules : Rules} {memory : Memory} (holds : rules.Holds memory) :
    rules.Governs memory.classFlags := ⟨holds.case, rfl⟩

/-- A later memory of the reader, which may have opened more groups. -/
structure Goes (rules : Rules) (before after : Memory) : Prop where
  holds : rules.Holds after
  grows : before.opened ≤ after.opened

theorem Goes.refl {rules : Rules} {memory : Memory} (holds : rules.Holds memory) :
    Goes rules memory memory := ⟨holds, Nat.le_refl _⟩

theorem Goes.trans {rules : Rules} {before middle after : Memory} (one : Goes rules before middle)
    (two : Goes rules middle after) : Goes rules before after :=
  ⟨two.holds, Nat.le_trans one.grows two.grows⟩

variable {rules : Rules} {text : List Char}

/-! ### Comments -/

/-- What opens no comment. -/
def Uncommented (input : List Char) : Prop := ∀ rest, input ≠ '(' :: '?' :: '#' :: rest

/-- Outside of extended mode only comments are skipped. -/
theorem skip_eq {memory : Memory} (plain : memory.extended = false) {input : List Char}
    (uncommented : Uncommented input) : skip memory input = some input := by
  rw [skip, plain]
  match input with
  | [] => rfl
  | char :: rest =>
      unfold Backtrack.Reader.skipFrom
      split
      · next same => exact absurd same (uncommented _)
      · simp only [Bool.false_eq_true, if_false]
      · simp only [Bool.false_and, Bool.false_eq_true, if_false]
      · next same => exact absurd same (List.cons_ne_nil _ _)

/-- Another character than a parenthesis starts no comment. -/
theorem uncommented_cons {char : Char} {rest : List Char} (other : char ≠ '(') :
    Uncommented (char :: rest) := by
  intro comment same
  exact other (List.cons.inj same).1

/-- A group opens with another character than a comment does. -/
theorem uncommented_group {char : Char} {rest : List Char} (other : char ≠ '#') :
    Uncommented ('(' :: '?' :: char :: rest) := by
  intro comment same
  exact other (List.cons.inj (List.cons.inj (List.cons.inj same).2).2).1

/-- What may follow an item: neither a repetition nor a comment. -/
structure Follows (input : List Char) : Prop where
  ends : EndsItem input
  uncommented : Uncommented input

/-- What ends a body may follow a piece. -/
theorem EndsBody.follows {input : List Char} (ends : EndsBody input) : Follows input := by
  refine ⟨ends.endsItem, ?_⟩
  rcases ends with rfl | ⟨rest, rfl⟩
  · intro comment same
    exact absurd same (by simp)
  · exact uncommented_cons (by decide)

/-! ### Repetitions -/

/-- A number starts with a digit. -/
theorem toDigits_starts (number : Nat) :
    ∃ digit others, Nat.toDigits 10 number = digit :: others ∧ digit.isDigit = true := by
  cases digits : Nat.toDigits 10 number with
  | nil => exact absurd digits Nat.toDigits_ne_nil
  | cons digit others =>
      exact ⟨digit, others, rfl, isDigit_of_mem (digits ▸ List.mem_cons_self)⟩

/-- Digits are not skipped. -/
theorem skip_toDigits {memory : Memory} (plain : memory.extended = false) (number : Nat)
    (rest : List Char) :
    skip memory (Nat.toDigits 10 number ++ rest) = some (Nat.toDigits 10 number ++ rest) := by
  obtain ⟨digit, others, digits, number⟩ := toDigits_starts number
  rw [digits]
  apply skip_eq plain
  apply uncommented_cons
  exact ne_of_test number (by decide)

/-- A number stands after a brace as its digits, of which the first is no comma. -/
theorem number_starts {memory : Memory} (plain : memory.extended = false) {number : Nat}
    (small : number ≤ Regex.Reader.countLimit) {char : Char} (ends : EndsNumber char)
    (rest : List Char) :
    ∃ digit others, Nat.toDigits 10 number ++ char :: rest = digit :: others ∧ digit ≠ ',' ∧
      skip memory (digit :: others) = some (digit :: others) ∧
        Backtrack.Reader.decimal (digit :: others) = some (number, char :: rest) := by
  have skips := skip_toDigits plain number (char :: rest)
  have value := decimal_toDigits small ends rest
  obtain ⟨digit, others, digits, isDigit⟩ := toDigits_starts number
  rw [digits] at skips value
  refine ⟨digit, others ++ char :: rest, by rw [digits]; rfl, ?_, skips, value⟩
  exact ne_of_test isDigit (by decide)

/-- One number between braces is both bounds. -/
theorem backtrack_bounds_exactly {memory : Memory} (plain : memory.extended = false)
    {number : Nat} (small : number ≤ Regex.Reader.countLimit) (rest : List Char) :
    Backtrack.Reader.bounds memory (Nat.toDigits 10 number ++ '}' :: rest) =
      some (number, some number, rest) := by
  have brace : skip memory ('}' :: rest) = some ('}' :: rest) :=
    skip_eq plain (uncommented_cons (by decide))
  obtain ⟨digit, others, shape, comma, skips, value⟩ :=
    number_starts plain small endsNumber_brace rest
  rw [shape]
  simp [Backtrack.Reader.bounds, skips, comma, value, brace, bound?_small small]

/-- A number and a comma are a lower bound. -/
theorem backtrack_bounds_atLeast {memory : Memory} (plain : memory.extended = false)
    {low : Nat} (small : low ≤ Regex.Reader.countLimit) (rest : List Char) :
    Backtrack.Reader.bounds memory (Nat.toDigits 10 low ++ ',' :: '}' :: rest) =
      some (low, none, rest) := by
  have brace : skip memory ('}' :: rest) = some ('}' :: rest) :=
    skip_eq plain (uncommented_cons (by decide))
  have mark : skip memory (',' :: '}' :: rest) = some (',' :: '}' :: rest) :=
    skip_eq plain (uncommented_cons (by decide))
  have empty : Backtrack.Reader.decimal ('}' :: rest) = none := by
    simp [Backtrack.Reader.decimal]
  obtain ⟨digit, others, shape, comma, skips, value⟩ :=
    number_starts plain small endsNumber_comma ('}' :: rest)
  rw [shape]
  simp [Backtrack.Reader.bounds, skips, comma, value, mark, brace, empty]

/-- Two numbers are a lower and an upper bound. -/
theorem backtrack_bounds_between {memory : Memory} (plain : memory.extended = false)
    {low high : Nat} (ordered : low ≤ high) (small : high ≤ Regex.Reader.countLimit)
    (rest : List Char) :
    Backtrack.Reader.bounds memory
        (Nat.toDigits 10 low ++ ',' :: (Nat.toDigits 10 high ++ '}' :: rest)) =
      some (low, some high, rest) := by
  have brace : skip memory ('}' :: rest) = some ('}' :: rest) :=
    skip_eq plain (uncommented_cons (by decide))
  have mark (input : List Char) : skip memory (',' :: input) = some (',' :: input) :=
    skip_eq plain (uncommented_cons (by decide))
  have most := decimal_toDigits small endsNumber_brace rest
  have skipMost := skip_toDigits plain high ('}' :: rest)
  obtain ⟨digit, others, shape, comma, skips, value⟩ :=
    number_starts plain (Nat.le_trans ordered small) endsNumber_comma
      (Nat.toDigits 10 high ++ '}' :: rest)
  rw [shape]
  simp [Backtrack.Reader.bounds, skips, comma, value, mark, skipMost, most, brace,
    bound?_small small]

/-- An expression with its repetition, if there is one. -/
def counted (count : Option Count) (item : Expression) : Expression :=
  match count with
  | none => item
  | some count => .rounds item count.times.low count.times.high (!count.lazy)

/-- The mark for lazy rounds is read as it is meant. -/
theorem preference_lazyMark {lazy : Bool} {rest : List Char} (ends : EndsItem rest) :
    Backtrack.Reader.preference (lazyMark lazy ++ rest) = (!lazy, rest) := by
  cases lazy with
  | true => rfl
  | false =>
      cases rest with
      | nil => rfl
      | cons char others =>
          show Backtrack.Reader.preference (char :: others) = (true, char :: others)
          rw [Backtrack.Reader.preference]
          intro tail same
          exact (ends char rfl).1 (List.cons.inj same).1

/-- What ends an item makes no rounds possessive. -/
theorem possessive_ends {rounds : Expression} {rest : List Char} (ends : EndsItem rest) :
    Backtrack.Reader.possessive rounds rest = (rounds, rest) := by
  cases rest with
  | nil => rfl
  | cons char others =>
      rw [Backtrack.Reader.possessive]
      intro tail same
      exact (ends char rfl).2.2.1 (List.cons.inj same).1

/-- What ends an item is no repetition. -/
theorem repetition?_ends {memory : Memory} {rest : List Char} (ends : EndsItem rest) :
    Backtrack.Reader.repetition? memory rest = none := by
  cases rest with
  | nil => rfl
  | cons char others =>
      obtain ⟨optional, star, plus, brace⟩ := ends char rfl
      simp [Backtrack.Reader.repetition?, optional, star, plus, brace]

/-- Both bounds of a repetition are read. -/
theorem repetition?_text {memory : Memory} (plain : memory.extended = false) (times : Times)
    (rest : List Char) :
    Backtrack.Reader.repetition? memory (times.text ++ rest) =
      some (times.low, times.high, rest) := by
  cases times with
  | optional => rfl
  | star => rfl
  | plus => rfl
  | exactly number small =>
      simp only [Times.text, List.cons_append, List.append_assoc, List.nil_append,
        Backtrack.Reader.repetition?]
      exact backtrack_bounds_exactly plain small rest
  | atLeast low small =>
      simp only [Times.text, List.cons_append, List.append_assoc, List.nil_append,
        Backtrack.Reader.repetition?]
      exact backtrack_bounds_atLeast plain small rest
  | between low high ordered small =>
      simp only [Times.text, List.cons_append, List.append_assoc, List.nil_append,
        Backtrack.Reader.repetition?]
      exact backtrack_bounds_between plain ordered small rest

/-- A repetition starts no comment. -/
theorem uncommented_times (times : Times) (rest : List Char) :
    Uncommented (times.text ++ rest) := by
  cases times <;> exact uncommented_cons (by decide)

/-- The repetition after an item is read as one of the item. -/
theorem withRepetition_countText (count : Option Count) {memory : Memory}
    (holds : rules.Holds memory) {item : Expression} {rest : List Char} (follows : Follows rest)
    {found : Expression × List Char}
    (read : withRepetition memory item (countText count ++ rest) = some found) :
    found = (counted count item, rest) := by
  obtain ⟨ends, uncommented⟩ := follows
  cases count with
  | none =>
      have here : withRepetition memory item rest = some found := read
      rw [withRepetition, skip_eq holds.plain uncommented] at here
      simp only [Option.bind_eq_bind, Option.bind_some, repetition?_ends ends] at here
      exact (Option.some.inj here).symm
  | some count =>
      obtain ⟨times, lazy⟩ := count
      have shape : countText (some ⟨times, lazy⟩) ++ rest =
          times.text ++ (lazyMark lazy ++ rest) := by
        rw [countText, Option.map_some, Option.getD_some, Count.text, List.append_assoc]
        rfl
      have skipMark : skip memory (lazyMark lazy ++ rest) = some (lazyMark lazy ++ rest) := by
        cases lazy with
        | false => exact skip_eq holds.plain uncommented
        | true => exact skip_eq holds.plain (uncommented_cons (by decide))
      rw [shape, withRepetition, skip_eq holds.plain (uncommented_times times _)] at read
      simp only [Option.bind_eq_bind, Option.bind_some, repetition?_text holds.plain] at read
      split at read
      · simp only [skipMark, Option.bind_some, preference_lazyMark ends, possessive_ends ends,
          holds.greed, Bool.bne_false] at read
        exact (Option.some.inj read).symm
      · exact absurd read (by simp)

/-- An expression is regular and has the matches of a relation. -/
structure Has (text : List Char) (groups : Nat) (expression : Expression)
    (relation : Nat → Nat → Prop) : Prop where
  regular : Regular groups expression
  same : ∀ first last, expression.Matches text first last ↔ relation first last

/-- A counted expression matches its rounds. -/
theorem Has.counted {groups : Nat} {item : Expression} {relation : Nat → Nat → Prop}
    (has : Has text groups item relation) (count : Option Count) :
    Has text groups (counted count item) (Repeated count relation) := by
  cases count with
  | none => exact has
  | some count =>
      refine ⟨.rounds (fun _ given => count.times.low_le_high given) has.regular,
        fun first last => ?_⟩
      simp only [Pattern.counted, Backtrack.Expression.Matches, Repeated]
      apply exists_congr
      intro rounds
      rw [Regex.rounds_congr has.same]

/-! ### Leaves -/

/-- The characters that start no piece and go on with no row. -/
def isMark (char : Char) : Bool := "|)?*+\x7b".toList.contains char

/-- Text that is read as one piece with the matches of a relation, whatever stands after it. -/
structure IsPiece (rules : Rules) (text source : List Char) (relation : Nat → Nat → Prop) :
    Prop where
  starts : ∃ char others, source = char :: others ∧ isMark char = false
  uncommented : ∀ rest, Uncommented (source ++ rest)
  reads : ∀ fuel depth memory rest found, rules.Holds memory →
    piece fuel depth memory (source ++ rest) = some found →
      ∃ item after, found = (item, after, rest) ∧ Goes rules memory after ∧
        Has text after.opened item relation

/-- Where no group starts a piece is a simple expression. -/
theorem piece_simple {fuel depth : Nat} {memory : Memory} {char : Char} {rest : List Char}
    (unmarked : isMark char = false) (closed : char ≠ '(') :
    piece (fuel + 1) depth memory (char :: rest) = simple memory (char :: rest) := by
  rw [piece]
  all_goals
    intro tail same
    have head := (List.cons.inj same).1
    first
      | exact closed head
      | exact absurd (head ▸ unmarked) (by decide)

/-- A piece that opens no group leaves the memory as it is. -/
theorem isPiece_simple {source : List Char} {relation : Nat → Nat → Prop}
    (starts : ∃ char others, source = char :: others ∧ isMark char = false ∧ char ≠ '(')
    (reads : ∀ memory rest found, rules.Holds memory →
      simple memory (source ++ rest) = some found →
        ∃ item, found = (item, memory, rest) ∧ ∀ groups, Has text groups item relation) :
    IsPiece rules text source relation := by
  obtain ⟨char, others, rfl, unmarked, closed⟩ := starts
  refine ⟨⟨char, others, rfl, unmarked⟩, fun rest => uncommented_cons closed, ?_⟩
  intro fuel depth memory rest found holds read
  cases fuel with
  | zero => simp [piece] at read
  | succ fuel =>
      rw [List.cons_append, piece_simple unmarked closed] at read
      obtain ⟨item, rfl, has⟩ := reads memory rest found holds read
      exact ⟨item, memory, rfl, .refl holds, has memory.opened⟩

/-- A literal that follows the case of the pattern. -/
theorem has_literal (char : Char) {memory : Memory} (holds : rules.Holds memory) (groups : Nat) :
    Has text groups (.literal char memory.ignoreCase)
      (Regex.Matches text (.one (rules.fold (.single char)))) := by
  refine ⟨.literal char _, fun first last => ?_⟩
  rw [holds.case]
  exact Iff.rfl

/-- A class is read as one character of its set. -/
theorem classRegex_eq_some {source : List Char} {members : Regex.ClassExpression}
    (reads : ReadsItem source (.set members)) {memory : Memory} {set : Regex.CharSet}
    (means : members.meaning memory.classFlags = some set) {expression : Expression}
    (made : classRegex memory source = some expression) : expression = .set (.one set) := by
  simp only [classRegex, Option.bind_eq_bind, Option.bind_eq_some_iff, Option.pure_def,
    Option.some.injEq] at made
  obtain ⟨found, read, ⟨regex, flags⟩, meaning, rfl⟩ := made
  rw [read?_item reads read] at meaning
  simp only [Regex.Expression.meaning, means, Option.map_some, Option.some.injEq,
    Prod.mk.injEq] at meaning
  rw [meaning.1]

/-- A set with the same members has the same matches. -/
theorem has_set {set known : Regex.CharSet} (same : set.containsCode = known.containsCode)
    (groups : Nat) : Has text groups (.set (.one set)) (Regex.Matches text (.one known)) := by
  refine ⟨.set set, fun first last => ?_⟩
  simp only [Backtrack.Expression.Matches, Regex.Matches, Regex.CharSet.contains, same]

/-- A class of members is read as one character of its set. -/
theorem simple_set {source passed : List Char} {items : List Regex.ClassExpression}
    (gathers : Gathers source passed) (starts : StartsClass source)
    (collects : Collects passed items) (startsPassed : StartsClass passed) {negated : Bool}
    {memory : Memory} (holds : rules.Holds memory) {set : Regex.CharSet}
    (members : HaveSet memory.classFlags items set) {rest : List Char}
    {found : Expression × Memory × List Char}
    (read : simple memory ('[' :: negation negated ++ source ++ [']'] ++ rest) = some found) :
    ∃ one, found = (.set (.one one), memory, rest) ∧
      one.containsCode = (negateIf negated (rules.fold set)).containsCode := by
  have shape : '[' :: negation negated ++ source ++ [']'] ++ rest =
      '[' :: (negation negated ++ source ++ ']' :: rest) := by simp
  rw [shape] at read
  simp only [simple, Option.bind_eq_bind, Option.bind_eq_some_iff, Option.pure_def,
    Option.some.injEq] at read
  obtain ⟨⟨inside, after⟩, gathered, item, made, rfl⟩ := read
  obtain ⟨rfl, rfl⟩ := Prod.mk.inj (bracketText_members gathers starts gathered)
  obtain ⟨one, means, same⟩ := members.bracketed holds.governs negated
  rw [classRegex_eq_some (readsItem_set collects startsPassed) means made]
  exact ⟨one, rfl, same⟩

/-- What a backslash may quote has no case. -/
theorem uncased_of_isEscapable {char : Char} (allowed : Regex.Reader.isEscapable char = true) :
    Unicode.Uncased char.toNat := by
  have ascii : char.toNat < 128 := by
    rw [Regex.Reader.isEscapable, Bool.or_eq_true] at allowed
    rcases allowed with special | other
    · have small := of_contains (fun mark => mark.toNat < 128) (by decide) special
      exact of_decide_eq_true small
    · simp only [Bool.and_eq_true, decide_eq_true_eq] at other
      exact other.1.1.1
  have letters : ∀ code < 128, Regex.Reader.isEscapable (Char.ofNat code) = true →
      (code < 65 ∨ 90 < code) ∧ (code < 97 ∨ 122 < code) := by decide +kernel
  have outside := letters char.toNat ascii (by rw [Char.ofNat_toNat]; exact allowed)
  exact Unicode.uncased_of_ascii ascii outside.1 outside.2

/-- A character without case is folded to itself. -/
theorem fold_single_uncased {char : Char} (uncased : Unicode.Uncased char.toNat) :
    (rules.fold (.single char)).containsCode = (Regex.CharSet.single char).containsCode := by
  have single : (Regex.CharSet.single char).containsCode = fun code => code == char.toNat := by
    funext code
    rw [Bool.eq_iff_iff]
    simp only [Regex.CharSet.single, Regex.CharSet.containsCode, Unicode.inRanges, List.any_cons,
      List.any_nil, Bool.or_false, Bool.and_eq_true, decide_eq_true_eq, beq_iff_eq]
    omega
  unfold Rules.fold
  split
  · funext code
    rw [Regex.CharSet.containsCode, single]
    exact Unicode.caseOrbit_any_uncased uncased code
  · rfl

/-- The text of a literal is a piece that matches the literal. -/
theorem isPiece_literal (literal : Literal isPlain) :
    IsPiece rules text literal.text
      (Regex.Matches text (.one (rules.fold (.single literal.char)))) := by
  cases literal with
  | bare char allowed =>
      have closed : char ≠ '(' := ne_of_test allowed (by decide)
      apply isPiece_simple ⟨char, [], rfl, contains_eq_false (by decide) allowed, closed⟩
      intro memory rest found holds read
      have here : simple memory (char :: rest) = some found := read
      rw [simple] at here
      · exact ⟨_, (Option.some.inj here).symm, has_literal char holds⟩
      all_goals
        exact ne_of_test allowed (by decide)
  | quoted char allowed =>
      apply isPiece_simple ⟨'\\', [char], rfl, rfl, by decide⟩
      intro memory rest found holds read
      have here : simple memory ('\\' :: char :: rest) = some found := read
      simp only [simple, backtrack_escape allowed, Bool.false_eq_true, if_false,
        Option.some.injEq] at here
      refine ⟨_, here.symm, fun groups => ⟨.literal char false, fun first last => ?_⟩⟩
      have same : (rules.fold (.single char)).containsCode =
          (Regex.CharSet.single char).containsCode :=
        fold_single_uncased (uncased_of_isEscapable allowed)
      simp only [Literal.char, Backtrack.Expression.Matches, Regex.Matches,
        Regex.CharSet.contains, same, Bool.false_eq_true, if_false]
  | control kind =>
      apply isPiece_simple ⟨'\\', [kind.letter], rfl, rfl, by decide⟩
      intro memory rest found holds read
      have literal : simple memory (['\\', kind.letter] ++ rest) =
          some (.literal kind.char memory.ignoreCase, memory, rest) := by
        cases kind <;> rfl
      have here : simple memory (['\\', kind.letter] ++ rest) = some found := read
      rw [literal] at here
      exact ⟨_, (Option.some.inj here).symm, has_literal kind.char holds⟩

/-- The class of the word characters, or of all others. -/
def wordClass (negated : Bool) : List Char :=
  '[' :: negation negated ++ Token.wordMembers ++ [']']

/-- The class of word characters is read as a set with these members. -/
theorem simple_wordClass (negated : Bool) {memory : Memory} (holds : rules.Holds memory)
    {rest : List Char} {found : Expression × Memory × List Char}
    (read : simple memory (wordClass negated ++ rest) = some found) :
    ∃ one, found = (.set (.one one), memory, rest) ∧
      one.containsCode = (negateIf negated (rules.fold Regex.asciiWord)).containsCode :=
  simple_set (Gathers.ofList (by decide)) ⟨'A', _, rfl, by decide⟩ collects_word
    ⟨'A', _, rfl, by decide⟩ holds (HaveSet.word holds.governs) read

/-- A class escape that stands alone. -/
theorem isPiece_common (negated : Bool) (kind : Regex.CommonClass) :
    IsPiece rules text (Token.escapeText .backtracking false (kindLetter negated kind))
      (Regex.Matches text (.one (negateIf negated (rules.kindSet kind)))) := by
  cases kind with
  | digit =>
      have shape : Token.escapeText .backtracking false (kindLetter negated .digit) =
          '[' :: negation negated ++ "0-9".toList ++ [']'] := by
        cases negated <;> rfl
      rw [shape]
      apply isPiece_simple ⟨'[', _, rfl, rfl, by decide⟩
      intro memory rest found holds read
      obtain ⟨one, rfl, same⟩ :=
        simple_set (Gathers.ofList (by decide)) ⟨'0', _, rfl, by decide⟩ collects_digits
          ⟨'0', _, rfl, by decide⟩ holds (HaveSet.digits holds.governs) read
      exact ⟨_, rfl, has_set same⟩
  | space =>
      have shape : Token.escapeText .backtracking false (kindLetter negated .space) =
          ['\\', if negated then 'S' else 's'] := by
        cases negated <;> rfl
      rw [shape]
      apply isPiece_simple ⟨'\\', _, rfl, rfl, by decide⟩
      intro memory rest found holds read
      have here : (classRegex memory ['\\', if negated then 'S' else 's']).map
          (fun expression => (expression, memory, rest)) = some found := by
        cases negated <;> exact read
      obtain ⟨item, made, rfl⟩ := Option.map_eq_some_iff.mp here
      have reads : ReadsItem ['\\', if negated then 'S' else 's'] (.set (.common negated .space)) := by
        cases negated with
        | false => exact readsItem_simple ⟨'\\', _, rfl, rfl⟩ fun _ => rfl
        | true => exact readsItem_simple ⟨'\\', _, rfl, rfl⟩ fun _ => rfl
      have means : (Regex.ClassExpression.common negated .space).meaning memory.classFlags =
          some (negateIf negated .blank) := by
        cases negated <;> rfl
      rw [classRegex_eq_some reads means made]
      exact ⟨_, rfl, has_set rfl⟩
  | word =>
      have shape : Token.escapeText .backtracking false (kindLetter negated .word) =
          wordClass negated := by
        cases negated <;> rfl
      rw [shape]
      apply isPiece_simple ⟨'[', _, rfl, rfl, by decide⟩
      intro memory rest found holds read
      obtain ⟨one, rfl, same⟩ := simple_wordClass negated holds read
      exact ⟨_, rfl, has_set same⟩

/-- A dot is a piece that matches all but a line feed. -/
theorem isPiece_dot :
    IsPiece rules text ['.'] (Regex.Matches text (.one (.complement (.single '\n')))) := by
  apply isPiece_simple ⟨'.', [], rfl, rfl, by decide⟩
  intro memory rest found holds read
  have here : some (Expression.anyChar memory.dotMatchesNewLine, memory, rest) = some found := read
  rw [holds.dots] at here
  refine ⟨_, (Option.some.inj here).symm, fun groups => ⟨.anyChar false, fun first last => ?_⟩⟩
  have regular : Regular groups (.anyChar false) := .anyChar false
  exact (Backtrack.Expression.matches_plain? regular rfl first last).symm

/-- The mark of the start is a piece that matches there, or at the start of a line. -/
theorem isPiece_start :
    IsPiece rules text ['^']
      (Regex.Matches text (.look (if rules.multiLine then .lineStart else .textStart))) := by
  apply isPiece_simple ⟨'^', [], rfl, rfl, by decide⟩
  intro memory rest found holds read
  have here : some (Expression.condition (if memory.multiLine then .lineStart else .textStart),
      memory, rest) = some found := read
  rw [holds.lines] at here
  exact ⟨_, (Option.some.inj here).symm, fun groups => ⟨.condition _, fun _ _ => Iff.rfl⟩⟩

/-- The mark of the end is a piece that matches there, or at the end of a line. -/
theorem isPiece_stop :
    IsPiece rules text ['$']
      (Regex.Matches text (.look (if rules.multiLine then .lineEnd else .textEnd))) := by
  apply isPiece_simple ⟨'$', [], rfl, rfl, by decide⟩
  intro memory rest found holds read
  have here : some (Expression.condition (if memory.multiLine then .lineEnd else .textEnd),
      memory, rest) = some found := read
  rw [holds.lines] at here
  exact ⟨_, (Option.some.inj here).symm, fun groups => ⟨.condition _, fun _ _ => Iff.rfl⟩⟩

/-- A bracket expression is a piece that matches its members. -/
theorem isPiece_set (negated : Bool) (first : Member) (others : List Member) :
    IsPiece rules text ((Leaf.set negated first others).image .backtracking)
      (Regex.Matches text (.one (negateIf negated
        (rules.fold (.unionAll ((first :: others).map (Member.set rules))))))) := by
  have shape : (Leaf.set negated first others).image .backtracking =
      '[' :: negation negated ++ ((first :: others).map Member.image).flatten ++ [']'] := rfl
  rw [shape]
  apply isPiece_simple ⟨'[', _, rfl, rfl, by decide⟩
  intro memory rest found holds read
  have collects := collects_members Member.collects_collected Member.startsClass_collected
    (first :: others)
  obtain ⟨one, rfl, same⟩ := simple_set (gathers_members (first :: others))
    (first.startsClass_image.append _) collects (first.startsClass_collected.append _) holds
    (Member.haveSet_all holds.governs (first :: others) false) read
  exact ⟨_, rfl, has_set same⟩

end TypedJson.Pattern
