import TypedJson.Proofs.Pattern.ClassText
import TypedJson.Proofs.Pattern.CountText
import TypedJson.Proofs.Pattern.Words
import TypedJson.Proofs.Regex.Reach
import TypedJson.Regex.Written

namespace TypedJson.Pattern

open TypedJson.Regex (Expression Flags Look Rounds WithinRounds WordKind)
open TypedJson.Regex.Reader (Memory alternatives simple bounds repeated)
open TypedJson.Regex.Reader renaming sequence → readSequence

/-- The flags of the linear engine for a body. -/
def Rules.flags (rules : Rules) : Flags := ⟨rules.ignoreCase, rules.multiLine, false, false, true, false⟩

/-- The flags of rules are governed by them. -/
theorem Rules.governs (rules : Rules) : rules.Governs rules.flags := ⟨rfl, rfl⟩

variable {rules : Rules} {word : Char → Bool} {text : List Char}

/-- From some flags on, a written expression has the matches of a relation. -/
def MeansFrom (start : Flags) (rules : Rules) (word : Char → Bool) (text : List Char)
    (expression : Expression) (relation : Nat → Nat → Prop) : Prop :=
  ∃ regex, expression.meaning start = some (regex, rules.flags) ∧
    ∀ first last, Regex.MatchesBy (Look.HoldsUnder word text) text regex first last ↔
      relation first last

/-- The same for written expressions in a row. -/
def MeansRowFrom (start : Flags) (rules : Rules) (word : Char → Bool) (text : List Char)
    (items : List Expression) (relation : Nat → Nat → Prop) : Prop :=
  ∃ regexes, Expression.meanings start items = some (regexes, rules.flags) ∧
    ∀ first last, Regex.MatchesRowBy (Look.HoldsUnder word text) text regexes first last ↔
      relation first last

/-- The same for written alternatives. -/
def MeansChoiceFrom (start : Flags) (rules : Rules) (word : Char → Bool) (text : List Char)
    (items : List Expression) (relation : Nat → Nat → Prop) : Prop :=
  ∃ regexes, Expression.meanings start items = some (regexes, rules.flags) ∧
    ∀ first last, Regex.MatchesChoiceBy (Look.HoldsUnder word text) text regexes first last ↔
      relation first last

/-- Under the flags of the body, a written expression has the matches of a relation. -/
def Means (rules : Rules) :
    (Char → Bool) → List Char → Expression → (Nat → Nat → Prop) → Prop :=
  MeansFrom rules.flags rules

def MeansRow (rules : Rules) :
    (Char → Bool) → List Char → List Expression → (Nat → Nat → Prop) → Prop :=
  MeansRowFrom rules.flags rules

def MeansChoice (rules : Rules) :
    (Char → Bool) → List Char → List Expression → (Nat → Nat → Prop) → Prop :=
  MeansChoiceFrom rules.flags rules

/-- Items mean their expressions one after the other, each with the flags that the one before
leaves. -/
theorem meanings_append' {start middle last : Flags} {items more : List Expression}
    {regexes others : List Regex}
    (first : Expression.meanings start items = some (regexes, middle))
    (second : Expression.meanings middle more = some (others, last)) :
    Expression.meanings start (items ++ more) = some (regexes ++ others, last) := by
  induction items generalizing start regexes with
  | nil =>
      obtain ⟨rfl, rfl⟩ := Prod.mk.inj (Option.some.inj first)
      exact second
  | cons item rest ih =>
      simp only [Expression.meanings, Option.bind_eq_bind, Option.bind_eq_some_iff,
        Option.pure_def, Option.some.injEq, Prod.mk.injEq] at first
      obtain ⟨⟨regex, next⟩, here, ⟨tail, ending⟩, remaining, rfl, rfl⟩ := first
      simp [Expression.meanings, here, ih remaining]

variable {start : Flags}

theorem MeansRow.nil : MeansRow rules word text [] fun first last => first = last :=
  ⟨[], rfl, fun _ _ => Iff.rfl⟩

theorem MeansRowFrom.append {items more : List Expression} {relation others : Nat → Nat → Prop}
    (first : MeansRowFrom start rules word text items relation)
    (second : MeansRow rules word text more others) :
    MeansRowFrom start rules word text (items ++ more) fun first last =>
      ∃ middle, relation first middle ∧ others middle last := by
  obtain ⟨regexes, means, same⟩ := first
  obtain ⟨rest, meansRest, sameRest⟩ := second
  refine ⟨regexes ++ rest, meanings_append' means meansRest, fun start stop => ?_⟩
  simp only [Regex.matchesRowBy_append, same, sameRest]

/-- A row of one item matches what the item matches. -/
theorem MeansFrom.row {item : Expression} {relation : Nat → Nat → Prop}
    (here : MeansFrom start rules word text item relation) :
    MeansRowFrom start rules word text [item] relation := by
  obtain ⟨regex, means, same⟩ := here
  refine ⟨[regex], ?_, fun first last => ?_⟩
  · simp [Expression.meanings, means]
  · simp [Regex.MatchesRowBy, same]

/-- A row as one expression matches what the row matches. -/
theorem MeansRowFrom.ofConcat {items : List Expression} {relation : Nat → Nat → Prop}
    (row : MeansRowFrom start rules word text items relation) :
    MeansFrom start rules word text (.ofConcat items) relation := by
  obtain ⟨regexes, means, same⟩ := row
  match items with
  | [] =>
      obtain ⟨rfl, rfl⟩ := Prod.mk.inj (Option.some.inj means)
      exact ⟨.empty, rfl, same⟩
  | [item] =>
      simp only [Expression.meanings, Option.bind_eq_bind, Option.bind_eq_some_iff,
        Option.pure_def, Option.some.injEq, Prod.mk.injEq] at means
      obtain ⟨⟨regex, after⟩, here, ⟨others, last⟩, ⟨rfl, rfl⟩, rfl, rfl⟩ := means
      refine ⟨regex, here, fun first last => ?_⟩
      rw [← same]
      simp [Regex.MatchesRowBy]
  | item :: next :: rest =>
      refine ⟨.seq regexes, ?_, same⟩
      simp [Expression.ofConcat, Expression.meaning, means]

/-- Alternatives as one expression match what one of them matches. -/
theorem MeansChoiceFrom.ofAlternation {items : List Expression} {relation : Nat → Nat → Prop}
    (nonempty : items ≠ []) (choice : MeansChoiceFrom start rules word text items relation) :
    MeansFrom start rules word text (.ofAlternation items) relation := by
  obtain ⟨regexes, means, same⟩ := choice
  match items with
  | [] => exact absurd rfl nonempty
  | [item] =>
      simp only [Expression.meanings, Option.bind_eq_bind, Option.bind_eq_some_iff,
        Option.pure_def, Option.some.injEq, Prod.mk.injEq] at means
      obtain ⟨⟨regex, after⟩, here, ⟨others, last⟩, ⟨rfl, rfl⟩, rfl, rfl⟩ := means
      refine ⟨regex, here, fun first last => ?_⟩
      rw [← same]
      simp [Regex.MatchesChoiceBy]
  | item :: next :: rest =>
      refine ⟨.alt regexes, ?_, same⟩
      simp [Expression.ofAlternation, Expression.meaning, means]

/-- One alternative matches what it matches. -/
theorem MeansFrom.choice {item : Expression} {relation : Nat → Nat → Prop}
    (here : MeansFrom start rules word text item relation) :
    MeansChoiceFrom start rules word text [item] relation := by
  obtain ⟨regex, means, same⟩ := here
  refine ⟨[regex], ?_, fun first last => ?_⟩
  · simp [Expression.meanings, means]
  · simp [Regex.MatchesChoiceBy, same]

theorem MeansChoiceFrom.cons {item : Expression} {items : List Expression}
    {relation others : Nat → Nat → Prop} (here : MeansFrom start rules word text item relation)
    (rest : MeansChoice rules word text items others) :
    MeansChoiceFrom start rules word text (item :: items) fun first last =>
      relation first last ∨ others first last := by
  obtain ⟨regex, means, same⟩ := here
  obtain ⟨regexes, meansRest, sameRest⟩ := rest
  refine ⟨regex :: regexes, ?_, fun first last => ?_⟩
  · simp [Expression.meanings, means, meansRest]
  · simp only [Regex.MatchesChoiceBy, same, sameRest]

/-- A set with the same members has the same matches. -/
theorem Means.set {members : Regex.ClassExpression} {set found : Regex.CharSet}
    (means : members.meaning rules.flags = some found)
    (same : found.containsCode = set.containsCode) :
    Means rules word text (.set members) (Regex.Matches text (.one set)) := by
  refine ⟨.one found, ?_, fun first last => ?_⟩
  · simp [Expression.meaning, means]
  · simp only [Regex.MatchesBy, Regex.Matches, Regex.CharSet.contains, same]

/-- A literal matches its character, or its cases. -/
theorem Means.literal (char : Char) (byCode : Bool) :
    Means rules word text (.literal char byCode)
      (Regex.Matches text (.one (rules.fold (.single char)))) := by
  refine ⟨.one (rules.fold (.single char)), ?_, fun _ _ => Iff.rfl⟩
  simp [Expression.meaning, Rules.flags, Flags.fold, Rules.fold]

/-- A repetition of what has the matches of a relation. -/
theorem Means.repetition {item : Expression} {relation : Nat → Nat → Prop}
    (here : Means rules word text item relation) (count : Count) (greedy : Bool) :
    Means rules word text (.repetition item count.times.low count.times.high greedy)
      (Repeated (some count) relation) := by
  obtain ⟨regex, means, same⟩ := here
  refine ⟨.rounds regex count.times.low count.times.high greedy, ?_, fun first last => ?_⟩
  · simp only [Expression.meaning, means, Option.bind_eq_bind, Option.bind_some, Option.pure_def]
    simp [Rules.flags]
  · simp only [Regex.MatchesBy, Repeated]
    apply exists_congr
    intro rounds
    rw [Regex.rounds_congr same]

/-! ### Leaves -/

/-- The characters that the reader of rows does not take for themselves. -/
def isRowMark (char : Char) : Bool := "|)([?*+\x7b".toList.contains char

/-- A character that starts nothing else in a row starts a simple expression. -/
theorem sequence_simple {fuel : Nat} {memory : Memory} (plain : memory.extended = false)
    {done : List Expression} {char : Char} {rest : List Char} (unmarked : isRowMark char = false) :
    readSequence (fuel + 1) memory done (char :: rest) =
      match simple false (char :: rest) with
      | some (item, rest) => readSequence fuel memory (item :: done) rest
      | none => none := by
  rw [readSequence, plain, Regex.Reader.skip]
  simp only [Bool.false_eq_true, if_false]
  split
  · next empty => exact absurd empty (List.cons_ne_nil _ _)
  all_goals first
    | rfl
    | (next same =>
        rw [(List.cons.inj same).1] at unmarked
        exact absurd unmarked (by decide))

/-- The reader of rows takes some text for one item, whatever stands before and after it. -/
def ReadsItem (text : List Char) (item : Expression) : Prop :=
  ∀ fuel memory done rest result, memory.extended = false →
    readSequence fuel memory done (text ++ rest) = some result →
      ∃ left, readSequence left memory (item :: done) rest = some result

/-- A text that is read as a simple expression is an item. -/
theorem readsItem_simple {text : List Char} {item : Expression}
    (starts : ∃ char others, text = char :: others ∧ isRowMark char = false)
    (reads : ∀ rest, simple false (text ++ rest) = some (item, rest)) : ReadsItem text item := by
  obtain ⟨char, others, rfl, unmarked⟩ := starts
  intro fuel memory done rest result plain read
  cases fuel with
  | zero => simp [readSequence] at read
  | succ fuel =>
      have here := reads rest
      rw [List.cons_append] at read here
      rw [sequence_simple plain unmarked, here] at read
      exact ⟨fuel, read⟩

/-- The text of a class is an item. -/
theorem readsItem_set {negated : Bool} {text : List Char}
    {items : List Regex.ClassExpression} (collects : Collects text items)
    (starts : StartsClass text) :
    ReadsItem ('[' :: negation negated ++ text ++ [']'])
      (.set (.bracketed negated (.ofItems items))) := by
  intro fuel memory done rest result plain read
  cases fuel with
  | zero => simp [readSequence] at read
  | succ fuel =>
      simp only [List.cons_append, List.append_assoc, List.nil_append, readSequence, plain,
        Regex.Reader.skip, Bool.false_eq_true, if_false] at read
      split at read
      · next set after here =>
          rw [← List.append_assoc] at here
          obtain ⟨rfl, rfl⟩ := Prod.mk.inj (bracketClass_members collects starts here)
          exact ⟨fuel, read⟩
      · exact absurd read (by simp)

/-- The escape of a boundary is read as one. -/
theorem escape_boundary (negated : Bool) (rest : List Char) :
    Regex.Reader.escape false ((if negated then 'B' else 'b') :: ')' :: rest) =
      some (.anchor (if negated then .notWordBoundary else .wordBoundary), ')' :: rest) := by
  cases negated <;> rfl

/-- A group without Unicode is opened by its flag. -/
theorem opening_ascii {memory : Memory} (plain : memory.extended = false) (rest : List Char) :
    Regex.Reader.opening memory ('?' :: '-' :: 'u' :: ':' :: rest) =
      some (.group [(.unicode, false)], memory, rest) := by
  have other : (Regex.FlagName.extended == .unicode) = false := rfl
  simp [Regex.Reader.opening, plain, Regex.Reader.skip, Regex.Reader.flags,
    Regex.Reader.flagNamed?, List.lookup_cons, other]
  rw [← plain]

/-- A closing parenthesis ends a row. -/
theorem sequence_close {fuel : Nat} {memory : Memory} (plain : memory.extended = false)
    {done : List Expression} {rest : List Char} :
    readSequence (fuel + 1) memory done (')' :: rest) =
      some (Expression.ofConcat done.reverse, memory, ')' :: rest) := by
  simp [readSequence, plain, Regex.Reader.skip]

/-- A boundary is read as a group in which words are those of ASCII. -/
theorem readsItem_boundary (negated : Bool) :
    ReadsItem (Token.escapeText .linear false (if negated then 'B' else 'b'))
      (.group [(.unicode, false)]
        (.anchor (if negated then .notWordBoundary else .wordBoundary))) := by
  intro fuel memory done rest result plain read
  obtain ⟨extended, opened, names⟩ := memory
  obtain rfl : extended = false := plain
  have shape : Token.escapeText .linear false (if negated then 'B' else 'b') ++ rest =
      '(' :: '?' :: '-' :: 'u' :: ':' :: '\\' :: (if negated then 'B' else 'b') :: ')' :: rest := by
    cases negated <;> rfl
  rw [shape] at read
  match fuel with
  | 0 => simp [readSequence] at read
  | 1 => simp [readSequence, Regex.Reader.skip, opening_ascii, alternatives] at read
  | 2 => simp [readSequence, Regex.Reader.skip, opening_ascii, alternatives] at read
  | 3 =>
      simp [readSequence, Regex.Reader.skip, opening_ascii, alternatives, simple,
        escape_boundary] at read
  | fuel + 4 =>
      refine ⟨fuel + 3, ?_⟩
      rw [readSequence] at read
      simpa [Regex.Reader.skip, opening_ascii, alternatives, sequence_simple, sequence_close,
        isRowMark, simple, simple.expression, escape_boundary, Expression.ofAlternation,
        Expression.ofConcat] using read

/-- The text of a literal is an item. -/
theorem readsItem_literal (literal : Literal isPlain) :
    ReadsItem literal.text (.literal literal.char false) := by
  cases literal with
  | bare char allowed =>
      apply readsItem_simple ⟨char, [], rfl, contains_eq_false (by decide) allowed⟩
      intro rest
      show simple false (char :: rest) = some (.literal char false, rest)
      rw [simple]
      all_goals
        exact ne_of_test allowed (by decide)
  | quoted char allowed =>
      apply readsItem_simple ⟨'\\', [char], rfl, rfl⟩
      intro rest
      show (Regex.Reader.escape false (char :: rest)).map _ = _
      rw [escape_escapable allowed]
      rfl
  | control kind =>
      apply readsItem_simple ⟨'\\', [kind.letter], rfl, rfl⟩
      intro rest
      cases kind <;> rfl

/-- A class escape that stands alone is read as a class. -/
theorem readsItem_common (rules : Rules) (negated : Bool) (kind : Regex.CommonClass) :
    ∃ members set, ReadsItem (Token.escapeText .linear false (kindLetter negated kind))
        (.set members) ∧ members.meaning rules.flags = some set ∧
      set.containsCode = (negateIf negated (rules.kindSet kind)).containsCode := by
  cases kind with
  | digit =>
      obtain ⟨set, means, same⟩ :=
        (HaveSet.digits rules.governs).bracketed rules.governs negated
      refine ⟨_, set, ?_, means, same⟩
      have reads : ReadsItem ('[' :: negation negated ++ "0-9".toList ++ [']']) _ :=
        readsItem_set collects_digits ⟨'0', _, rfl, by decide⟩
      cases negated <;> exact reads
  | space =>
      refine ⟨.common negated .space, negateIf negated .blank, ?_, ?_, rfl⟩
      · cases negated with
        | false => exact readsItem_simple ⟨'\\', _, rfl, rfl⟩ fun _ => rfl
        | true => exact readsItem_simple ⟨'\\', _, rfl, rfl⟩ fun _ => rfl
      · cases negated <;> rfl
  | word =>
      obtain ⟨set, means, same⟩ :=
        (HaveSet.word rules.governs).bracketed rules.governs negated
      refine ⟨_, set, ?_, means, same⟩
      have reads : ReadsItem ('[' :: negation negated ++ Token.wordMembers ++ [']']) _ :=
        readsItem_set collects_word ⟨'A', _, rfl, by decide⟩
      cases negated <;> exact reads

/-- The matches of a boundary as the linear engine reads it. -/
theorem Means.boundary (negated : Bool) :
    Means rules word text (.group [(.unicode, false)]
      (.anchor (if negated then .notWordBoundary else .wordBoundary)))
      (Leaf.Matches rules word text (.boundary negated)) := by
  refine ⟨.look (if negated then .notWordBoundary .ascii else .wordBoundary .ascii), ?_,
    fun first last => ?_⟩
  · cases negated <;> rfl
  · cases negated <;> exact Iff.rfl

/-- Every leaf is read as an expression with its matches. -/
theorem readsItem_leaf (leaf : Leaf) :
    ∃ item, ReadsItem (leaf.image .linear) item ∧
      Means rules word text item (leaf.Matches rules word text) := by
  cases leaf with
  | one literal => exact ⟨_, readsItem_literal literal, .literal literal.char false⟩
  | dot =>
      refine ⟨.dot, readsItem_simple ⟨'.', [], rfl, rfl⟩ fun _ => rfl, ?_⟩
      exact ⟨_, rfl, fun _ _ => Iff.rfl⟩
  | start =>
      refine ⟨.anchor .lineStart, readsItem_simple ⟨'^', [], rfl, rfl⟩ fun _ => rfl, ?_⟩
      refine ⟨.look (if rules.multiLine then .lineStart else .textStart), rfl, fun _ _ => ?_⟩
      rw [Regex.matchesBy_look (by cases rules.multiLine <;> rfl), Leaf.Matches]
  | stop =>
      refine ⟨.anchor .lineEnd, readsItem_simple ⟨'$', [], rfl, rfl⟩ fun _ => rfl, ?_⟩
      refine ⟨.look (if rules.multiLine then .lineEnd else .textEnd), rfl, fun _ _ => ?_⟩
      rw [Regex.matchesBy_look (by cases rules.multiLine <;> rfl), Leaf.Matches]
  | common negated kind =>
      obtain ⟨members, set, reads, means, same⟩ := readsItem_common rules negated kind
      exact ⟨_, reads, .set means same⟩
  | boundary negated => exact ⟨_, readsItem_boundary negated, .boundary negated⟩
  | set negated first others =>
      have collects := collects_members Member.collects_image Member.startsClass_image
        (first :: others)
      have starts : StartsClass ((first :: others).map Member.image).flatten :=
        first.startsClass_image.append _
      obtain ⟨set, means, same⟩ :=
        (Member.haveSet_all rules.governs (first :: others) true).bracketed rules.governs negated
      exact ⟨_, readsItem_set collects starts, .set means same⟩

/-! ### Repetitions -/

/-- A repetition is lazy with its mark, and greedy without. -/
theorem repeated_lazyMark {low : Nat} {high : Option Nat} {body : Expression}
    {done : List Expression} {lazy : Bool} {rest : List Char} (ends : EndsItem rest)
    {found : List Expression × List Char}
    (read : repeated false low high (body :: done) (lazyMark lazy ++ rest) = some found) :
    found = (.repetition body low high (!lazy) :: done, rest) := by
  rw [repeated, Regex.Reader.skip] at read
  split at read
  · cases lazy with
    | false =>
        simp only [lazyMark, Bool.false_eq_true, if_false, List.nil_append] at read
        split at read
        · exact absurd rfl (ends _ rfl).1
        · exact (Option.some.inj read).symm
    | true => exact (Option.some.inj read).symm
  · exact absurd read (by simp)

/-- After the marks of a repetition, lazy or not, the row goes on. -/
theorem sequence_repeated {low : Nat} {high : Option Nat} {lazy : Bool} {fuel : Nat}
    {memory : Memory} {item : Expression} {done : List Expression} {rest : List Char}
    (ends : EndsItem rest) {result : Expression × Memory × List Char}
    (next : (match repeated false low high (item :: done) (lazyMark lazy ++ rest) with
      | some (done, rest) => readSequence fuel memory done rest
      | none => none) = some result) :
    ∃ left, readSequence left memory (.repetition item low high (!lazy) :: done) rest =
      some result := by
  split at next
  · next done' after here =>
      obtain ⟨rfl, rfl⟩ := Prod.mk.inj (repeated_lazyMark ends here)
      exact ⟨_, next⟩
  · exact absurd next (by simp)

/-- A repetition is read as one of the item before it. -/
theorem sequence_count (count : Count) {fuel : Nat} {memory : Memory}
    (plain : memory.extended = false) {item : Expression} {done : List Expression}
    {rest : List Char} (ends : EndsItem rest) {result : Expression × Memory × List Char}
    (read : readSequence fuel memory (item :: done) (count.text ++ rest) = some result) :
    ∃ left, readSequence left memory
      (.repetition item count.times.low count.times.high (!count.lazy) :: done) rest =
        some result := by
  obtain ⟨times, lazy⟩ := count
  have shape : Count.text ⟨times, lazy⟩ ++ rest = times.text ++ (lazyMark lazy ++ rest) := by
    rw [Count.text, List.append_assoc]
    rfl
  rw [shape] at read
  cases fuel with
  | zero => simp [readSequence] at read
  | succ fuel =>
      cases times with
      | optional =>
          simp only [Times.text, List.cons_append, List.nil_append, readSequence, plain,
            Regex.Reader.skip, Bool.false_eq_true, if_false] at read
          exact sequence_repeated ends read
      | star =>
          simp only [Times.text, List.cons_append, List.nil_append, readSequence, plain,
            Regex.Reader.skip, Bool.false_eq_true, if_false] at read
          exact sequence_repeated ends read
      | plus =>
          simp only [Times.text, List.cons_append, List.nil_append, readSequence, plain,
            Regex.Reader.skip, Bool.false_eq_true, if_false] at read
          exact sequence_repeated ends read
      | exactly number small =>
          simp only [Times.text, List.cons_append, List.append_assoc, List.nil_append, readSequence,
            plain, Regex.Reader.skip, Bool.false_eq_true, if_false, bounds_exactly small] at read
          exact sequence_repeated ends read
      | atLeast low small =>
          simp only [Times.text, List.cons_append, List.append_assoc, List.nil_append, readSequence,
            plain, Regex.Reader.skip, Bool.false_eq_true, if_false, bounds_atLeast small] at read
          exact sequence_repeated ends read
      | between low high ordered small =>
          simp only [Times.text, List.cons_append, List.append_assoc, List.nil_append, readSequence,
            plain, Regex.Reader.skip, Bool.false_eq_true, if_false,
            bounds_between ordered small] at read
          exact sequence_repeated ends read

/-- An item with its repetition, if there is one, is read as an expression with its matches. -/
theorem sequence_countText (count : Option Count) {fuel : Nat} {memory : Memory}
    (plain : memory.extended = false) {item : Expression} {relation : Nat → Nat → Prop}
    (means : Means rules word text item relation) {done : List Expression} {rest : List Char}
    (ends : EndsItem rest) {result : Expression × Memory × List Char}
    (read : readSequence fuel memory (item :: done) (countText count ++ rest) = some result) :
    ∃ left counted, readSequence left memory (counted :: done) rest = some result ∧
      Means rules word text counted (Repeated count relation) := by
  cases count with
  | none => exact ⟨fuel, item, read, means⟩
  | some count =>
      obtain ⟨left, read⟩ := sequence_count count plain ends read
      exact ⟨left, _, read, means.repetition count _⟩

/-! ### Bodies -/

/-- What starts with no mark starts a group that captures. -/
theorem opening_capture {memory : Memory} (plain : memory.extended = false) {input : List Char}
    (ends : EndsItem input) :
    Regex.Reader.opening memory input =
      some (.capture, { memory with opened := memory.opened + 1 }, input) := by
  cases input with
  | nil => simp [Regex.Reader.opening, plain, Regex.Reader.skip]
  | cons char rest =>
      have other : char ≠ '?' := (ends char rfl).1
      simp [Regex.Reader.opening, plain, Regex.Reader.skip, other]

/-- A question mark and a colon start a group that captures nothing. -/
theorem opening_group {memory : Memory} (plain : memory.extended = false) (input : List Char) :
    Regex.Reader.opening memory ('?' :: ':' :: input) = some (.group [], memory, input) := by
  simp [Regex.Reader.opening, plain, Regex.Reader.skip, Regex.Reader.flags]
  rw [← plain]

/-- A group matches what its body matches. -/
theorem Means.group {body : Expression} {relation : Nat → Nat → Prop}
    (inner : Means rules word text body relation) :
    Means rules word text (.group [] body) relation := by
  obtain ⟨regex, means, same⟩ := inner
  refine ⟨regex, ?_, same⟩
  simp [Expression.meaning, Flags.setAll, means]

/-- A group that captures matches what its body matches. -/
theorem Means.capture {body : Expression} {relation : Nat → Nat → Prop}
    (inner : Means rules word text body relation) (index : Nat) :
    Means rules word text (.capture index body) relation := by
  obtain ⟨regex, means, same⟩ := inner
  refine ⟨.group index regex, ?_, same⟩
  simp [Expression.meaning, means]

/-- The reader of rows takes the first alternative of a body for a row with its matches. -/
def ReadsRow (rules : Rules) (word : Char → Bool) (text : List Char) (body : Body) : Prop :=
  ∀ fuel memory done tail result, memory.extended = false → EndsBody tail →
    readSequence fuel memory done (body.image .linear ++ tail) = some result →
      ∃ items after, result = (.ofConcat (done.reverse ++ items), after,
          othersText .linear body ++ tail) ∧ after.extended = false ∧
        MeansRow rules word text items (body.MatchesRow rules word text)

/-- The reader of alternatives takes a body for alternatives with its matches. -/
def ReadsChoice (rules : Rules) (word : Char → Bool) (text : List Char) (body : Body) : Prop :=
  ∀ fuel memory done tail result, memory.extended = false → EndsBody tail →
    alternatives fuel memory done (body.image .linear ++ tail) = some result →
      ∃ items after, result = (.ofAlternation (done.reverse ++ items), after, tail) ∧
        after.extended = false ∧ items ≠ [] ∧
          MeansChoice rules word text items (body.Matches rules word text)

/-- A group is read as an expression with the matches of its body. -/
theorem sequence_group {inner : Body} (inside : ReadsChoice rules word text inner) (captures : Bool)
    {fuel : Nat} {memory : Memory} (plain : memory.extended = false)
    {done : List Expression} {rest : List Char} {result : Expression × Memory × List Char}
    (read : readSequence fuel memory done
      (openText captures ++ inner.image .linear ++ ')' :: rest) = some result) :
    ∃ left after item, after.extended = false ∧
      readSequence left after (item :: done) rest = some result ∧
        Means rules word text item (inner.Matches rules word text) := by
  have ends : EndsBody (')' :: rest) := .inr ⟨rest, rfl⟩
  cases fuel with
  | zero => simp [readSequence] at read
  | succ fuel =>
      cases captures with
      | false =>
          simp only [openText, Bool.false_eq_true, if_false, List.cons_append, List.nil_append,
            readSequence, plain, Regex.Reader.skip, opening_group plain] at read
          split at read
          · next body after others here =>
              obtain ⟨items, closed, same, still, nonempty, means⟩ :=
                inside fuel memory [] _ _ plain ends here
              simp only [List.reverse_nil, List.nil_append, Prod.mk.injEq, List.cons.injEq,
                true_and] at same
              obtain ⟨rfl, rfl, rfl⟩ := same
              exact ⟨fuel, _, _, rfl, read,
                Means.group (means.ofAlternation nonempty)⟩
          · exact absurd read (by simp)
      | true =>
          have starts : EndsItem (inner.image .linear ++ ')' :: rest) :=
            inner.image_endsItem .linear ends
          simp only [openText, if_true, List.cons_append, List.nil_append,
            readSequence, plain, Regex.Reader.skip, Bool.false_eq_true, if_false,
            opening_capture plain starts] at read
          split at read
          · next body after others here =>
              obtain ⟨items, closed, same, still, nonempty, means⟩ :=
                inside fuel _ [] _ _ rfl ends here
              simp only [List.reverse_nil, List.nil_append, Prod.mk.injEq, List.cons.injEq,
                true_and] at same
              obtain ⟨rfl, rfl, rfl⟩ := same
              exact ⟨fuel, _, _, rfl, read,
                Means.capture (means.ofAlternation nonempty) _⟩
          · exact absurd read (by simp)

/-- After the first alternative the others are read, if there are any. -/
theorem choice_after {body : Body}
    (others : ∀ rest, body.others = some rest → ReadsChoice rules word text rest)
    {item : Expression} {relation : Nat → Nat → Prop}
    (first : MeansFrom start rules word text item relation) {fuel : Nat} {after : Memory}
    (plain : after.extended = false) {done : List Expression} {tail : List Char}
    (ends : EndsBody tail) {result : Expression × Memory × List Char}
    (read : (match some (item, after, othersText .linear body ++ tail) with
      | none => none
      | some (item, memory, '|' :: rest) => alternatives fuel memory (item :: done) rest
      | some (item, memory, rest) =>
          some (Expression.ofAlternation (item :: done).reverse, memory, rest)) = some result) :
    ∃ items last, result = (.ofAlternation (done.reverse ++ items), last, tail) ∧
      last.extended = false ∧ items ≠ [] ∧
        MeansChoiceFrom start rules word text items fun first last => relation first last ∨
          body.MatchesOthers rules word text first last := by
  cases later : body.others with
  | none =>
      have ending : othersText .linear body ++ tail = tail := by
        rw [othersText, later]
        rfl
      rw [ending] at read
      have same : (Expression.ofAlternation (done.reverse ++ [item]), after, tail) = result := by
        rcases ends with rfl | ⟨rest, rfl⟩
        · simpa using read
        · simpa using read
      refine ⟨[item], after, same.symm, plain, by simp, ?_⟩
      obtain ⟨regexes, made, here⟩ := first.choice
      refine ⟨regexes, made, fun start stop => ?_⟩
      simp [here, Body.matchesOthers_iff, later]
  | some rest =>
      have going : othersText .linear body ++ tail = '|' :: (rest.image .linear ++ tail) := by
        rw [othersText, later]
        rfl
      rw [going] at read
      obtain ⟨more, last, rfl, closed, -, choice⟩ :=
        others rest later fuel after (item :: done) tail result plain ends read
      refine ⟨item :: more, last, by simp, closed, by simp, ?_⟩
      obtain ⟨regexes, made, here⟩ := MeansChoiceFrom.cons first choice
      refine ⟨regexes, made, fun start stop => ?_⟩
      simp [here, Body.matchesOthers_iff, later]

/-- A body is read if its first row and its other alternatives are. -/
theorem ReadsRow.readsChoice {body : Body} (row : ReadsRow rules word text body)
    (others : ∀ rest, body.others = some rest → ReadsChoice rules word text rest) :
    ReadsChoice rules word text body := by
  intro fuel memory done tail result plain ends read
  cases fuel with
  | zero => simp [alternatives] at read
  | succ fuel =>
      rw [alternatives] at read
      cases here : readSequence fuel memory [] (body.image .linear ++ tail) with
      | none => simp [here] at read
      | some found =>
          obtain ⟨items, after, rfl, still, means⟩ := row fuel memory [] tail found plain ends here
          rw [here] at read
          exact choice_after others means.ofConcat still ends read

/-- The alternatives are read one after the other, and so are the parts of each. -/
theorem readsRow_and_others (body : Body) :
    ReadsRow rules word text body ∧
      ∀ rest, body.others = some rest → ReadsChoice rules word text rest := by
  induction body with
  | done =>
      refine ⟨?_, fun rest none => absurd none (by simp [Body.others])⟩
      intro fuel memory done tail result plain ends read
      cases fuel with
      | zero => simp [readSequence] at read
      | succ fuel =>
          have same : (Expression.ofConcat done.reverse, memory, tail) = result := by
            rcases ends with rfl | ⟨rest, rfl⟩
            · simpa [Body.image, readSequence, plain, Regex.Reader.skip] using read
            · simpa [Body.image, readSequence, plain, Regex.Reader.skip] using read
          refine ⟨[], memory, ?_, plain, .nil⟩
          rw [← same, List.append_nil]
          rfl
  | or rest ih =>
      constructor
      · intro fuel memory done tail result plain ends read
        cases fuel with
        | zero => simp [readSequence] at read
        | succ fuel =>
            simp only [Body.image, List.cons_append, readSequence, plain, Regex.Reader.skip,
              Bool.false_eq_true, if_false, Option.some.injEq] at read
            refine ⟨[], memory, ?_, plain, .nil⟩
            rw [← read, List.append_nil]
            rfl
      · intro next same
        obtain rfl := Option.some.inj same
        exact ih.1.readsChoice ih.2
  | item leaf count rest ih =>
      refine ⟨?_, ih.2⟩
      intro fuel memory done tail result plain ends read
      have found : ∃ item, ReadsItem (leaf.image .linear) item ∧
          Means rules word text item (leaf.Matches rules word text) :=
        readsItem_leaf leaf
      obtain ⟨item, reads, means⟩ := found
      rw [Body.image, List.append_assoc, List.append_assoc] at read
      obtain ⟨left, read⟩ := reads fuel memory done _ result plain read
      obtain ⟨left, counted, read, meansCounted⟩ :=
        sequence_countText count plain means (rest.image_endsItem .linear ends) read
      obtain ⟨items, after, rfl, still, row⟩ :=
        ih.1 left memory (counted :: done) tail result plain ends read
      exact ⟨counted :: items, after, by simp [othersText, Body.others], still,
        meansCounted.row.append row⟩
  | group captures inner count rest innerIh ih =>
      refine ⟨?_, ih.2⟩
      intro fuel memory done tail result plain ends read
      have inside : ReadsChoice rules word text inner := innerIh.1.readsChoice innerIh.2
      have shape : (Body.group captures inner count rest).image .linear ++ tail =
          openText captures ++ inner.image .linear ++
            ')' :: (countText count ++ (rest.image .linear ++ tail)) := by
        simp [Body.image]
      rw [shape] at read
      obtain ⟨left, after, item, still, read, means⟩ :=
        sequence_group inside captures plain read
      obtain ⟨left, counted, read, meansCounted⟩ :=
        sequence_countText count still means (rest.image_endsItem .linear ends) read
      obtain ⟨items, last, rfl, closed, row⟩ :=
        ih.1 left after (counted :: done) tail result still ends read
      exact ⟨counted :: items, last, by simp [othersText, Body.others], closed,
        meansCounted.row.append row⟩

/-- The first row of every body is read, by induction on the body. -/
theorem readsRow (body : Body) : ReadsRow rules word text body := (readsRow_and_others body).1

/-! ### Patterns -/

/-- The flags that stand before a body. -/
def flagText (rules : Rules) : List Char :=
  (if rules.ignoreCase then "(?i)".toList else []) ++
    if rules.multiLine then "(?m)".toList else []

/-- What those flags are read as. -/
def flagItems (rules : Rules) : List Expression :=
  (if rules.ignoreCase then [.flags [(.caseInsensitive, true)]] else []) ++
    if rules.multiLine then [.flags [(.multiLine, true)]] else []

/-- One flag in parentheses is read as a change of flags. -/
theorem opening_linearFlag {memory : Memory} (plain : memory.extended = false) {letter : Char}
    {name : Regex.FlagName}
    (known : letter = 'i' ∧ name = .caseInsensitive ∨ letter = 'm' ∧ name = .multiLine)
    (rest : List Char) :
    Regex.Reader.opening memory ('?' :: letter :: ')' :: rest) =
      some (.flags [(name, true)], memory, rest) := by
  rcases known with ⟨rfl, rfl⟩ | ⟨rfl, rfl⟩
  · have other : (Regex.FlagName.extended == .caseInsensitive) = false := rfl
    simp [Regex.Reader.opening, plain, Regex.Reader.skip, Regex.Reader.flags,
      Regex.Reader.flagNamed?, List.lookup_cons, other]
    rw [← plain]
  · have other : (Regex.FlagName.extended == .multiLine) = false := rfl
    simp [Regex.Reader.opening, plain, Regex.Reader.skip, Regex.Reader.flags,
      Regex.Reader.flagNamed?, List.lookup_cons, other]
    rw [← plain]

/-- A flag in a row is read, and the row goes on. -/
theorem sequence_flag {fuel : Nat} {memory : Memory} (plain : memory.extended = false)
    {done : List Expression} {letter : Char} {name : Regex.FlagName}
    (known : letter = 'i' ∧ name = .caseInsensitive ∨ letter = 'm' ∧ name = .multiLine)
    {rest : List Char} {result : Expression × Memory × List Char}
    (read : readSequence fuel memory done ('(' :: '?' :: letter :: ')' :: rest) = some result) :
    ∃ left, readSequence left memory (.flags [(name, true)] :: done) rest = some result := by
  cases fuel with
  | zero => simp [readSequence] at read
  | succ fuel =>
      simp only [readSequence, plain, Regex.Reader.skip, Bool.false_eq_true, if_false,
        opening_linearFlag plain known] at read
      exact ⟨fuel, read⟩

/-- The flags of a pattern are read, and the row goes on. -/
theorem sequence_flagText {fuel : Nat} {memory : Memory} (plain : memory.extended = false)
    {done : List Expression} {rest : List Char} {result : Expression × Memory × List Char}
    (read : readSequence fuel memory done (flagText rules ++ rest) = some result) :
    ∃ left, readSequence left memory ((flagItems rules).reverse ++ done) rest = some result := by
  obtain ⟨ignoreCase, multiLine⟩ := rules
  have letterI {fuel : Nat} {done : List Expression} {rest : List Char}
      (read : readSequence fuel memory done ("(?i)".toList ++ rest) = some result) :
      ∃ left, readSequence left memory (.flags [(.caseInsensitive, true)] :: done) rest =
        some result := sequence_flag plain (.inl ⟨rfl, rfl⟩) read
  have letterM {fuel : Nat} {done : List Expression} {rest : List Char}
      (read : readSequence fuel memory done ("(?m)".toList ++ rest) = some result) :
      ∃ left, readSequence left memory (.flags [(.multiLine, true)] :: done) rest =
        some result := sequence_flag plain (.inr ⟨rfl, rfl⟩) read
  cases ignoreCase with
  | false =>
      cases multiLine with
      | false => exact ⟨fuel, read⟩
      | true => exact letterM read
  | true =>
      cases multiLine with
      | false => exact letterI read
      | true =>
          have both : readSequence fuel memory done ("(?i)".toList ++ ("(?m)".toList ++ rest)) =
              some result := read
          obtain ⟨left, later⟩ := letterI both
          exact letterM later

/-- The flags before a body match nothing and are in force after them. -/
theorem means_flagItems :
    MeansRowFrom .standard rules word text (flagItems rules) fun first last => first = last := by
  obtain ⟨ignoreCase, multiLine⟩ := rules
  cases ignoreCase <;> cases multiLine
  all_goals
    refine ⟨_, rfl, fun first last => ?_⟩
    simp [Regex.MatchesRowBy, Regex.MatchesBy]

/-- What those flags mean as parts of a pattern matches nothing. -/
theorem meanings_flagItems (rules : Rules) (text : List Char) : ∃ empties,
    Expression.meanings .standard (flagItems rules) = some (empties, rules.flags) ∧
      ∀ first last, Regex.MatchesRow text empties first last ↔ first = last := by
  simp only [← Regex.matchesRowBy_ascii]
  exact means_flagItems

/-- A condition for the start of the text. -/
def startText (sticky : Bool) : List Char := if sticky then ['\\', 'A'] else []

/-- The body in a group if it is tied to the start of the text. -/
def Body.whole (sticky : Bool) (body : Body) : Body :=
  if sticky then .group false body none .done else body

/-- What this condition is read as. -/
def startItems (sticky : Bool) : List Expression := if sticky then [.anchor .textStart] else []

/-- The mark of a sticky pattern is read, and the row goes on. -/
theorem sequence_startText (sticky : Bool) {fuel : Nat} {memory : Memory}
    (plain : memory.extended = false) {done : List Expression} {rest : List Char}
    {result : Expression × Memory × List Char}
    (read : readSequence fuel memory done (startText sticky ++ rest) = some result) :
    ∃ left, readSequence left memory (startItems sticky ++ done) rest = some result := by
  cases sticky with
  | false => exact ⟨fuel, read⟩
  | true =>
      have reads : ReadsItem ['\\', 'A'] (.anchor .textStart) :=
        readsItem_simple ⟨'\\', ['A'], rfl, rfl⟩ fun _ => rfl
      exact reads fuel memory done rest result plain read

/-- A match may start at a position, which is the start of the text if it is tied to it. -/
def MayStart (sticky : Bool) (text : List Char) (first : Nat) : Prop :=
  sticky = true → Regex.Look.textStart.HoldsAt text first

/-- A sticky pattern starts at the start of the text alone. -/
theorem mayStart_iff {sticky : Bool} {first : Nat} (inside : first ≤ text.length) :
    MayStart sticky text first ↔ (sticky = true → first = 0) := by
  rw [MayStart, Regex.Look.holdsAt_textStart inside]

/-- What stands before a body lets a match start anywhere, or at the start of the text only. -/
theorem means_start (sticky : Bool) :
    MeansRowFrom .standard rules word text
      (flagItems rules ++ startItems sticky) fun first last =>
        first = last ∧ MayStart sticky text first := by
  have start : MeansRow rules word text (startItems sticky) fun first last =>
      first = last ∧ MayStart sticky text first := by
    cases sticky with
    | false => exact ⟨[], rfl, fun first last => by simp [Regex.MatchesRowBy, MayStart]⟩
    | true =>
        refine ⟨[.look .textStart], rfl, fun first last => ?_⟩
        have free : Regex.Look.textStart.boundary? = none := rfl
        simp only [Regex.MatchesRowBy, Regex.matchesBy_look free, Regex.Matches, MayStart]
        constructor
        · rintro ⟨_, ⟨starts, rfl⟩, rfl⟩
          exact ⟨rfl, fun _ => starts⟩
        · rintro ⟨rfl, starts⟩
          exact ⟨first, ⟨starts trivial, rfl⟩, rfl⟩
  obtain ⟨regexes, made, same⟩ := means_flagItems.append start
  refine ⟨regexes, made, fun first last => ?_⟩
  simp [same]

/-- The group of a sticky pattern matches what the body matches. -/
theorem matches_whole {sticky : Bool} {word : Char → Bool} {body : Body} {first last : Nat} :
    Body.Matches rules word text (body.whole sticky) first last ↔
      Body.Matches rules word text body first last := by
  cases sticky with
  | false => exact Iff.rfl
  | true => simp [Body.whole, Body.Matches, Body.MatchesRow, Body.MatchesOthers, Repeated]

/-- Only a body that is not in a group of its own has other alternatives. -/
theorem matchesOthers_whole {sticky : Bool} {word : Char → Bool} {body : Body} {first last : Nat}
    (here : Body.MatchesOthers rules word text (body.whole sticky) first last) :
    sticky = false := by
  cases sticky with
  | false => rfl
  | true => simp [Body.whole, Body.MatchesOthers] at here

/-- A match of the pattern is one of its body that starts where it may. -/
theorem whole_iff {sticky : Bool} {word : Char → Bool} {body : Body} {first last : Nat} :
    ((∃ middle, (first = middle ∧ MayStart sticky text first) ∧
      Body.MatchesRow rules word text (body.whole sticky) middle last) ∨
        Body.MatchesOthers rules word text (body.whole sticky) first last) ↔
      MayStart sticky text first ∧ Body.Matches rules word text body first last := by
  have whole : Body.Matches rules word text (body.whole sticky) first last ↔
      Body.Matches rules word text body first last := matches_whole
  rw [← whole]
  constructor
  · rintro (⟨_, ⟨rfl, starts⟩, row⟩ | others)
    · exact ⟨starts, .inl row⟩
    · have free := matchesOthers_whole others
      exact ⟨fun tied => absurd (free ▸ tied) (by decide), .inr others⟩
  · rintro ⟨starts, row | others⟩
    · exact .inl ⟨first, ⟨rfl, starts⟩, row⟩
    · exact .inr others

/-- A whole pattern is read as an expression that has its matches. -/
theorem alternatives_pattern (sticky : Bool) (body : Body) {fuel : Nat} {memory : Memory}
    (plain : memory.extended = false) {result : Expression × Memory × List Char}
    (read : alternatives fuel memory []
      (flagText rules ++ (startText sticky ++ (body.whole sticky).image .linear)) = some result) :
    MeansFrom .standard rules word text result.1 fun first last => MayStart sticky text first ∧
      body.Matches rules word text first last := by
  cases fuel with
  | zero => simp [alternatives] at read
  | succ fuel =>
      rw [alternatives] at read
      cases here : readSequence fuel memory []
          (flagText rules ++ (startText sticky ++ (body.whole sticky).image .linear)) with
      | none => simp [here] at read
      | some found =>
          rw [here] at read
          obtain ⟨left, here⟩ := sequence_flagText plain here
          obtain ⟨left, here⟩ := sequence_startText sticky plain here
          rw [← List.append_nil ((body.whole sticky).image .linear)] at here
          have row : ReadsRow rules word text (body.whole sticky) := readsRow _
          obtain ⟨items, after, rfl, still, means⟩ :=
            row left memory _ [] found plain (.inl rfl) here
          have prefixed := ((means_start sticky).append means).ofConcat
          have same : (startItems sticky ++ ((flagItems rules).reverse ++ [])).reverse =
              flagItems rules ++ startItems sticky := by
            cases sticky <;> simp [startItems]
          rw [same] at read
          obtain ⟨all, last, rfl, -, nonempty, choice⟩ :=
            choice_after (readsRow_and_others _).2 prefixed still (.inl rfl) read
          obtain ⟨regex, made, found⟩ := choice.ofAlternation nonempty
          refine ⟨regex, made, fun first last => ?_⟩
          exact (found first last).trans whole_iff

/-- The text of a body is translated to its image. -/
theorem engineText_text (engine : Engine) (body : Body) :
    engineText engine body.text = body.image engine := by
  have whole : translated engine false (body.text ++ []) = body.image engine ++ [] :=
    body.translated_text []
  rw [List.append_nil, List.append_nil] at whole
  exact whole

/-- A sticky body stands in a group behind the mark of the start. -/
theorem startText_whole (sticky : Bool) (body : Body) :
    startText sticky ++ (body.whole sticky).image .linear =
      if sticky then "\\A(?:".toList ++ body.image .linear ++ [')'] else body.image .linear := by
  cases sticky with
  | false => rfl
  | true => simp [startText, Body.whole, Body.image, openText, countText]

/-- The effective text is the flags, the mark of a sticky pattern and the image of the body. -/
theorem effective_eq {parts : Parts} {body : Body} (written : parts.body = body.text)
    (linear : engineFor parts.body = .linear) :
    parts.effective = flagText parts.rules ++
      (startText parts.sticky ++ (body.whole parts.sticky).image .linear) := by
  rw [Parts.effective, linear, written, engineText_text, startText_whole, flagText]
  simp only [List.append_assoc]
  rfl

/-- What is read of a pattern is read as alternatives to the end. -/
theorem read?_eq_some {input : List Char} {expression : Expression}
    (read : Regex.Reader.read? input = some expression) :
    ∃ fuel memory, alternatives fuel ⟨false, 0, []⟩ [] input = some (expression, memory, []) := by
  unfold Regex.Reader.read? at read
  split at read
  · next found memory here =>
      split at read
      · obtain rfl := Option.some.inj read
        exact ⟨_, memory, here⟩
      · exact absurd read (by simp)
  · exact absurd read (by simp)

/-- Whatever words are made of, what the linear engine reads for a body has its matches. -/
theorem linear_findsUnder_iff {parts : Parts} {body : Body} (written : parts.body = body.text)
    (linear : engineFor parts.body = .linear) {regex : Regex}
    (read : Regex.ofText? parts.effective = some regex) :
    regex.FindsUnder word text ↔ body.Finds parts.rules word text parts.sticky := by
  simp only [Regex.ofText?, effective_eq written linear, Option.bind_eq_bind,
    Option.bind_eq_some_iff] at read
  obtain ⟨expression, parsed, ⟨meant, flags⟩, means, made⟩ := read
  obtain ⟨fuel, memory, whole⟩ := read?_eq_some parsed
  have pattern : MeansFrom .standard parts.rules word text expression fun first last =>
      MayStart parts.sticky text first ∧ body.Matches parts.rules word text first last :=
    alternatives_pattern parts.sticky body rfl whole
  obtain ⟨found, same, here⟩ := pattern
  rw [means] at same
  obtain ⟨rfl, rfl⟩ := Prod.mk.inj (Option.some.inj same)
  have compiled : meant = regex := by
    simp only [Option.pure_def] at made
    split at made
    · exact Option.some.inj made
    · exact absurd made (by simp)
  rw [← compiled]
  apply exists_congr
  intro first
  apply exists_congr
  intro last
  rw [here]
  constructor
  · rintro ⟨inside, starts, matched⟩
    exact ⟨inside, (mayStart_iff inside).mp starts, matched⟩
  · rintro ⟨inside, starts, matched⟩
    exact ⟨inside, (mayStart_iff inside).mpr starts, matched⟩

end TypedJson.Pattern
