import TypedJson.Pattern.Basic
import TypedJson.Proofs.Backtrack.Layout
import TypedJson.Proofs.Pattern.BacktrackRow

namespace TypedJson.Pattern

open TypedJson.Backtrack (Expression)
open TypedJson.Backtrack.Reader (Memory alternatives piece opening withRepetition skip)
open TypedJson.Backtrack.Reader renaming sequence → readSequence

variable {rules : Rules} {text : List Char} {relation others : Nat → Nat → Prop}

/-! ### Boundaries -/

/-- The characters that count as word characters for the backtracking engine. -/
def Rules.word (rules : Rules) (char : Char) : Bool :=
  (rules.fold Regex.asciiWord).contains char

/-- The reader of alternatives takes one row up to a parenthesis. -/
theorem alternatives_only {source rest : List Char} {good : Expression → Prop} {depth : Nat}
    {memory : Memory} (plain : memory.extended = false)
    (reads : ∀ fuel result, readSequence fuel depth memory [] (source ++ ')' :: rest) = some result →
      ∃ body, result = (body, memory, ')' :: rest) ∧ good body)
    {fuel : Nat} {found : Expression × Memory × List Char}
    (read : alternatives fuel depth memory [] (source ++ ')' :: rest) = some found) :
    ∃ body, found = (body, memory, ')' :: rest) ∧ good body := by
  cases fuel with
  | zero => simp [alternatives] at read
  | succ fuel =>
      rw [alternatives] at read
      cases here : readSequence fuel depth memory [] (source ++ ')' :: rest) with
      | none => simp [here] at read
      | some result =>
          obtain ⟨body, rfl, fine⟩ := reads fuel result here
          have skips : skip memory (')' :: rest) = some (')' :: rest) :=
            skip_eq plain (uncommented_cons (by decide))
          simp only [here, skips] at read
          have ended : (if memory.numbered && !memory.names.isEmpty then none
              else some (body, memory, ')' :: rest)) = some found := read
          split at ended
          · exact absurd ended (by simp)
          · exact ⟨body, (Option.some.inj ended).symm, fine⟩

/-- The class of the word characters is read as one character. -/
theorem sequence_wordClass {fuel depth : Nat} {memory : Memory} (holds : rules.Holds memory)
    {rest : List Char} {result : Expression × Memory × List Char}
    (read : readSequence fuel depth memory [] (wordClass false ++ ')' :: rest) = some result) :
    ∃ body, result = (body, memory, ')' :: rest) ∧ body.isHard = false ∧
      body.isConstSize = true ∧ ∀ groups,
        Has text groups body (Regex.Matches text (.one (rules.fold Regex.asciiWord))) := by
  have ends : EndsRow (')' :: rest) := .inl (.inr ⟨rest, rfl⟩)
  obtain ⟨left, item, after, later, counted, remaining, here, counts, next⟩ :=
    sequence_piece holds.plain (uncommented_cons (by decide)) rfl read
  cases left with
  | zero => simp [piece] at here
  | succ left =>
      rw [piece_simple rfl (by decide)] at here
      obtain ⟨one, found, same⟩ := simple_wordClass false holds here
      obtain ⟨rfl, rfl, rfl⟩ : item = .set (.one one) ∧ after = memory ∧ later = ')' :: rest := by
        simpa using found
      have uncounted : (counted, remaining) = (.set (.one one), ')' :: rest) :=
        withRepetition_countText none holds ends.follows counts
      obtain ⟨rfl, rfl⟩ := Prod.mk.inj uncounted
      have ended := sequence_ends holds.plain ends next
      exact ⟨_, ended, rfl, rfl, has_set same⟩

/-- A set matches from a place just if it has the next character. -/
theorem exists_matches_one_iff {set : Regex.CharSet} {first : Nat} :
    (∃ other, Regex.Matches text (.one set) first other) ↔
      text[first]?.any set.contains = true := by
  simp only [Regex.Matches, Option.any_eq_true]
  constructor
  · rintro ⟨other, ⟨char, here, member⟩, rfl⟩
    exact ⟨char, here, member⟩
  · rintro ⟨char, here, member⟩
    exact ⟨first + 1, ⟨char, here, member⟩, rfl⟩

/-- A set matches up to a place just if it has the character before. -/
theorem exists_matches_one_behind_iff {set : Regex.CharSet} {first : Nat} :
    (∃ other, Regex.Matches text (.one set) other first) ↔
      (Regex.charBefore text.toArray first).any set.contains = true := by
  simp only [Regex.Matches, Option.any_eq_true, Regex.charBefore, List.getElem?_toArray]
  constructor
  · rintro ⟨other, ⟨char, here, member⟩, rfl⟩
    exact ⟨char, here, member⟩
  · rintro ⟨char, here, member⟩
    cases first with
    | zero => exact absurd here (by simp)
    | succ first => exact ⟨first, ⟨char, here, member⟩, rfl⟩

/-- A look-around for one character tests one neighbour of a position. -/
theorem looks_one_iff {set : Regex.CharSet} {first : Nat} (behind negated : Bool) :
    ((∃ other, if behind then Regex.Matches text (.one set) other first
      else Regex.Matches text (.one set) first other) ↔ negated = false) ↔
        (if behind then Regex.charBefore text.toArray first else text[first]?).any set.contains =
          !negated := by
  cases behind with
  | true =>
      simp only [if_true, exists_matches_one_behind_iff]
      cases negated <;> simp
  | false =>
      simp only [Bool.false_eq_true, if_false, exists_matches_one_iff]
      cases negated <;> simp

/-- A look-around for a word character tests one neighbour of a position. -/
theorem isPiece_wordLook (behind negated : Bool) :
    IsPiece rules text ('(' :: lookText behind negated ++ wordClass false ++ [')'])
      fun first last => first = last ∧
        ((if behind then Regex.charBefore text.toArray first else text[first]?).any rules.word =
          !negated) := by
  have reads (fuel depth : Nat) (memory : Memory) (rest : List Char)
      (found : Expression × Memory × List Char) (holds : rules.Holds memory)
      (read : alternatives fuel depth memory [] (wordClass false ++ ')' :: rest) = some found) :
      ∃ body, found = (body, memory, ')' :: rest) ∧ body.isHard = false ∧
        body.isConstSize = true ∧ ∀ groups,
          Has text groups body (Regex.Matches text (.one (rules.fold Regex.asciiWord))) :=
    alternatives_only holds.plain (fun _ _ here => sequence_wordClass holds here) read
  exact (isPiece_lookAround behind negated reads).congr fun first last =>
    and_congr_right' (looks_one_iff behind negated)

/-- Two look-arounds for a word character, one for each neighbour of a position. -/
theorem isRow_wordLooks (noneBefore noneAfter : Bool) :
    IsRow rules text ('(' :: lookText true noneBefore ++ wordClass false ++ [')'] ++
      ('(' :: lookText false noneAfter ++ wordClass false ++ [')'])) fun first last =>
        first = last ∧ (Regex.charBefore text.toArray first).any rules.word = !noneBefore ∧
          text[first]?.any rules.word = !noneAfter := by
  have before : IsPiece rules text ('(' :: lookText true noneBefore ++ wordClass false ++ [')']) _ :=
    isPiece_wordLook true noneBefore
  have after : IsPiece rules text ('(' :: lookText false noneAfter ++ wordClass false ++ [')']) _ :=
    isPiece_wordLook false noneAfter
  apply (before.append after.row).congr
  intro first last
  simp only [if_true, Bool.false_eq_true, if_false]
  constructor
  · rintro ⟨middle, ⟨rfl, one⟩, rfl, two⟩
    exact ⟨rfl, one, two⟩
  · rintro ⟨rfl, one, two⟩
    exact ⟨first, ⟨rfl, one⟩, rfl, two⟩

/-- A boundary is read as look-arounds for the characters before and after it. -/
theorem isPiece_boundary (negated : Bool) :
    IsPiece rules text (Token.escapeText .backtracking false (if negated then 'B' else 'b'))
      fun first last => BoundaryAt rules.word negated text first ∧ first = last := by
  have first : IsRow rules text _ _ := isRow_wordLooks false (!negated)
  have second : IsRow rules text _ _ := isRow_wordLooks true negated
  have choice := first.orElse second.choice
  have shape : Token.escapeText .backtracking false (if negated then 'B' else 'b') =
      openText false ++ ('(' :: lookText true false ++ wordClass false ++ [')'] ++
        ('(' :: lookText false (!negated) ++ wordClass false ++ [')']) ++
          '|' :: ('(' :: lookText true true ++ wordClass false ++ [')'] ++
            ('(' :: lookText false negated ++ wordClass false ++ [')']))) ++ [')'] := by
    cases negated <;> rfl
  rw [shape]
  apply (choice.group false).congr
  intro first last
  rw [BoundaryAt]
  cases (Regex.charBefore text.toArray first).any rules.word <;>
    cases text[first]?.any rules.word <;> cases negated <;> simp

/-- Every leaf is read as one piece with its matches. -/
theorem isPiece_leaf (leaf : Leaf) :
    IsPiece rules text (leaf.image .backtracking) (leaf.Matches rules rules.word text) := by
  cases leaf with
  | one literal => exact isPiece_literal literal
  | dot => exact isPiece_dot
  | start => exact isPiece_start
  | stop => exact isPiece_stop
  | common negated kind => exact isPiece_common negated kind
  | boundary negated => exact isPiece_boundary negated
  | set negated first others => exact isPiece_set negated first others

/-! ### Bodies -/

namespace Body

/-- The text of the first alternative. -/
def rowText : Body → List Char
  | done => []
  | or _ => []
  | item leaf count rest => leaf.image .backtracking ++ countText count ++ rest.rowText
  | group captures inner count rest =>
    openText captures ++ inner.image .backtracking ++ [')'] ++ countText count ++ rest.rowText

/-- The image of a body is that of its first row and of the other alternatives. -/
theorem image_eq_rowText (body : Body) :
    body.image .backtracking = body.rowText ++ othersText .backtracking body := by
  induction body with
  | done => rfl
  | or rest ih => rfl
  | item leaf count rest ih => simp [image, rowText, ih, othersText, others]
  | group captures inner count rest innerIh ih => simp [image, rowText, ih, othersText, others]

/-- The first alternative and the others make the alternatives. -/
theorem isChoice_of_row {body : Body}
    (row : IsRow rules text body.rowText (body.MatchesRow rules rules.word text))
    (others : ∀ rest, body.others = some rest →
      IsChoice rules text (rest.image .backtracking) (rest.Matches rules rules.word text)) :
    IsChoice rules text (body.image .backtracking) (body.Matches rules rules.word text) := by
  have same : body.Matches rules rules.word text = fun first last =>
      body.MatchesRow rules rules.word text first last ∨
        body.MatchesOthers rules rules.word text first last := rfl
  rw [image_eq_rowText, othersText, same]
  cases later : body.others with
  | none =>
      simp only [matchesOthers_iff, later, List.append_nil, reduceCtorEq, false_and, exists_false,
        or_false]
      exact row.choice
  | some rest =>
      simp only [matchesOthers_iff, later, Option.some.injEq, exists_eq_left']
      exact row.orElse (others rest later)

/-- The rows of a body are read one after the other, and so are the pieces of each. -/
theorem isRow_and_others (body : Body) :
    IsRow rules text body.rowText (body.MatchesRow rules rules.word text) ∧
      ∀ rest, body.others = some rest →
        IsChoice rules text (rest.image .backtracking) (rest.Matches rules rules.word text) := by
  induction body with
  | done => exact ⟨.nil, fun rest none => absurd none (by simp [others])⟩
  | or rest ih =>
      refine ⟨.nil, fun next same => ?_⟩
      obtain rfl := Option.some.inj same
      exact isChoice_of_row ih.1 ih.2
  | item leaf count rest ih => exact ⟨ih.1.cons (isPiece_leaf leaf) count, ih.2⟩
  | group captures inner count rest innerIh ih =>
      have inside := (isChoice_of_row innerIh.1 innerIh.2).group captures
      exact ⟨ih.1.cons inside count, ih.2⟩

/-- Every body is read as alternatives with its matches. -/
theorem isChoice (body : Body) :
    IsChoice rules text (body.image .backtracking) (body.Matches rules rules.word text) :=
  isChoice_of_row body.isRow_and_others.1 body.isRow_and_others.2

end Body

/-! ### Patterns -/

/-- The text of a body in a group and a look-ahead that always holds. -/
def forcedText (text : List Char) : List Char := openText false ++ text ++ ")(?=)".toList

def Body.forced (body : Body) : List Char := forcedText body.text

/-- A look-around is seen behind any text. -/
theorem opensLookAround_append {input : List Char} (opens : opensLookAround input = true)
    (before : List Char) : opensLookAround (before ++ input) = true := by
  induction before with
  | nil => exact opens
  | cons char rest ih =>
      rw [List.cons_append]
      unfold opensLookAround
      split
      · next empty => exact absurd empty (List.cons_ne_nil _ _)
      · rfl
      · rfl
      · rfl
      · rfl
      · next same =>
          rw [← (List.cons.inj same).2]
          exact ih

/-- The look-ahead makes the pattern one for the backtracking engine. -/
theorem engineFor_forcedText (text : List Char) : engineFor (forcedText text) = .backtracking := by
  have opens : opensLookAround ")(?=)".toList = true := rfl
  rw [engineFor, forcedText, opensLookAround_append opens, Bool.true_or, if_pos rfl]

/-- The look-ahead for nothing leaves the body to the backtracking engine. -/
theorem Body.engineFor_forced (body : Body) : engineFor body.forced = .backtracking :=
  engineFor_forcedText body.text

/-- The text that the backtracking engine reads for it. -/
theorem Body.engineText_forced (body : Body) :
    engineText .backtracking body.forced =
      openText false ++ body.image .backtracking ++ ")(?=)".toList := by
  have opened (input : List Char) : translated .backtracking false (openText false ++ input) =
      openText false ++ translated .backtracking false input := rfl
  have closed : translated .backtracking false ")(?=)".toList = ")(?=)".toList := rfl
  show translated .backtracking false body.forced = _
  rw [forced, forcedText, List.append_assoc, opened, body.translated_text, closed,
    List.append_assoc]

/-- The look-ahead for nothing holds everywhere. -/
theorem isPiece_nothingAhead :
    IsPiece rules text ('(' :: lookText false false ++ [] ++ [')']) fun first last =>
      first = last := by
  have inner {fuel depth : Nat} {memory : Memory} {rest : List Char}
      {result : Expression × Memory × List Char} (holds : rules.Holds memory)
      (read : readSequence fuel depth memory [] ([] ++ ')' :: rest) = some result) :
      ∃ body, result = (body, memory, ')' :: rest) ∧ body.isHard = false ∧
        body.isConstSize = true ∧ ∀ groups, Has text groups body fun first last => first = last :=
    ⟨.empty, sequence_ends holds.plain (.inl (.inr ⟨rest, rfl⟩)) read, rfl, rfl,
      fun _ => ⟨.empty, fun _ _ => Iff.rfl⟩⟩
  have reads (fuel depth : Nat) (memory : Memory) (rest : List Char)
      (found : Expression × Memory × List Char) (holds : rules.Holds memory)
      (read : alternatives fuel depth memory [] ([] ++ ')' :: rest) = some found) :=
    alternatives_only holds.plain (fun _ _ here => inner holds here) read
  apply (isPiece_lookAround false false reads).congr
  simp

/-- The forced body has the matches of the body. -/
theorem Body.isRow_forced (body : Body) :
    IsRow rules text (openText false ++ body.image .backtracking ++ ")(?=)".toList)
      (body.Matches rules rules.word text) := by
  have shape : openText false ++ body.image .backtracking ++ ")(?=)".toList =
      openText false ++ body.image .backtracking ++ [')'] ++
        ('(' :: lookText false false ++ [] ++ [')']) := by
    rw [List.append_assoc _ [')']]
    rfl
  rw [shape]
  apply ((body.isChoice.group false).append isPiece_nothingAhead.row).congr
  simp

/-- A condition for the start of the text. -/
theorem isPiece_textStart :
    IsPiece rules text ['\\', 'A'] (Regex.Matches text (.look .textStart)) := by
  apply isPiece_simple ⟨'\\', ['A'], rfl, rfl, by decide⟩
  intro memory rest found holds read
  have here : some (Expression.condition .textStart, memory, rest) = some found := read
  exact ⟨_, (Option.some.inj here).symm, fun groups => ⟨.condition _, fun _ _ => Iff.rfl⟩⟩

/-- A row in a group of its own if it is tied to the start of the text. -/
def tied (sticky : Bool) (source : List Char) : List Char :=
  if sticky then "\\A(?:".toList ++ source ++ [')'] else source

/-- A sticky row matches at the start of the text alone. -/
theorem IsRow.tied {source : List Char} (row : IsRow rules text source relation) (sticky : Bool) :
    IsRow rules text (tied sticky source) fun first last =>
      MayStart sticky text first ∧ relation first last := by
  cases sticky with
  | false => exact row.congr fun first last => by simp [MayStart]
  | true =>
      have whole := isPiece_textStart.append (row.choice.group false).row
      apply whole.congr
      intro first last
      simp only [Regex.Matches, MayStart, true_implies]
      constructor
      · rintro ⟨middle, ⟨starts, rfl⟩, matched⟩
        exact ⟨starts, matched⟩
      · rintro ⟨starts, matched⟩
        exact ⟨first, ⟨starts, rfl⟩, matched⟩

/-- The memory after a flag that is set at the start of a pattern. -/
def Flagged (letter : Char) (before after : Memory) : Prop :=
  letter = 'i' ∧ after = { before with ignoreCase := true } ∨
    letter = 'm' ∧ after = { before with multiLine := true }

/-- A flag starts no comment. -/
theorem Flagged.uncommented {letter : Char} {before after : Memory}
    (flagged : Flagged letter before after) {rest : List Char} :
    Uncommented ('(' :: '?' :: letter :: rest) := by
  rcases flagged with ⟨rfl, -⟩ | ⟨rfl, -⟩
  · exact uncommented_group (by decide)
  · exact uncommented_group (by decide)

/-- One flag in parentheses is read as a change of the memory. -/
theorem opening_flag {letter : Char} {before after : Memory} (plain : before.extended = false)
    (flagged : Flagged letter before after) (rest : List Char) :
    opening before ('?' :: letter :: ')' :: rest) = some (.nothing, after, rest) := by
  have question (input : List Char) : skip before ('?' :: input) = some ('?' :: input) :=
    skip_eq plain (uncommented_cons (by decide))
  have skips {memory : Memory} (plain : memory.extended = false) :
      skip memory (')' :: rest) = some (')' :: rest) :=
    skip_eq plain (uncommented_cons (by decide))
  rcases flagged with ⟨rfl, rfl⟩ | ⟨rfl, rfl⟩
  · have name : skip before ('i' :: ')' :: rest) = some ('i' :: ')' :: rest) :=
      skip_eq plain (uncommented_cons (by decide))
    simp [opening, question, Backtrack.Reader.flags, name, skips, plain]
  · have name : skip before ('m' :: ')' :: rest) = some ('m' :: ')' :: rest) :=
      skip_eq plain (uncommented_cons (by decide))
    simp [opening, question, Backtrack.Reader.flags, name, skips, plain]

/-- A flag leaves nothing in its row but changes the memory. -/
theorem sequence_backtrackFlag {letter : Char} {before after : Memory}
    (plain : before.extended = false) (flagged : Flagged letter before after) {rest : List Char}
    (follows : Follows rest) {fuel depth : Nat} {done : List Expression}
    {result : Expression × Memory × List Char}
    (read : readSequence fuel depth before done ('(' :: '?' :: letter :: ')' :: rest) = some result) :
    ∃ left, readSequence left depth after done rest = some result := by
  have still : after.extended = false := by
    rcases flagged with ⟨-, rfl⟩ | ⟨-, rfl⟩
    · exact plain
    · exact plain
  obtain ⟨left, item, memory, later, counted, remaining, here, counts, next⟩ :=
    sequence_piece plain flagged.uncommented rfl read
  cases left with
  | zero => simp [piece] at here
  | succ left =>
      simp only [piece, opening_flag plain flagged] at here
      split at here
      · exact absurd here (by simp)
      · obtain ⟨rfl, rfl, rfl⟩ : item = .empty ∧ memory = after ∧ later = rest := by
          simpa [eq_comm] using here
        rw [withRepetition, skip_eq still follows.uncommented] at counts
        simp only [Option.bind_eq_bind, Option.bind_some, repetition?_ends follows.ends] at counts
        obtain ⟨rfl, rfl⟩ := Prod.mk.inj (Option.some.inj counts)
        exact ⟨_, next⟩

/-- The flags before a pattern are in force after them. -/
theorem sequence_backtrackFlags {rest : List Char} (follows : Follows rest) {fuel depth size : Nat}
    {done : List Expression} {result : Expression × Memory × List Char}
    (read : readSequence fuel depth (.start size) done (flagText rules ++ rest) = some result) :
    ∃ left memory, rules.Holds memory ∧ readSequence left depth memory done rest = some result := by
  obtain ⟨ignoreCase, multiLine⟩ := rules
  cases ignoreCase with
  | false =>
      cases multiLine with
      | false => exact ⟨fuel, .start size, ⟨rfl, rfl, rfl, rfl, rfl⟩, read⟩
      | true =>
          obtain ⟨left, later⟩ := sequence_backtrackFlag rfl (.inr ⟨rfl, rfl⟩) follows read
          exact ⟨left, _, ⟨rfl, rfl, rfl, rfl, rfl⟩, later⟩
  | true =>
      cases multiLine with
      | false =>
          obtain ⟨left, later⟩ := sequence_backtrackFlag rfl (.inl ⟨rfl, rfl⟩) follows read
          exact ⟨left, _, ⟨rfl, rfl, rfl, rfl, rfl⟩, later⟩
      | true =>
          have between : Follows ("(?m)".toList ++ rest) :=
            ⟨endsItem_cons (by decide), uncommented_group (by decide)⟩
          have both : readSequence fuel depth (.start size) done
              ("(?i)".toList ++ ("(?m)".toList ++ rest)) = some result := read
          obtain ⟨left, later⟩ := sequence_backtrackFlag rfl (.inl ⟨rfl, rfl⟩) between both
          obtain ⟨left, later⟩ := sequence_backtrackFlag rfl (.inr ⟨rfl, rfl⟩) follows later
          exact ⟨left, _, ⟨rfl, rfl, rfl, rfl, rfl⟩, later⟩

/-- A whole pattern of one row is read with the matches of the row. -/
theorem alternatives_flags {source : List Char} (row : IsRow rules text source relation)
    {fuel depth size : Nat} {result : Expression × Memory × List Char}
    (read : alternatives fuel depth (.start size) [] (flagText rules ++ source) = some result) :
    Has text result.2.1.opened result.1 relation := by
  have ends : EndsRow [] := .inl (.inl rfl)
  have follows : Follows source := by
    have appended := row.follows [] ends
    rw [List.append_nil] at appended
    exact appended
  cases fuel with
  | zero => simp [alternatives] at read
  | succ fuel =>
      rw [alternatives] at read
      cases here : readSequence fuel depth (.start size) [] (flagText rules ++ source) with
      | none => simp [here] at read
      | some found =>
          obtain ⟨left, memory, holds, later⟩ := sequence_backtrackFlags follows here
          rw [← List.append_nil source] at later
          obtain ⟨items, after, rfl, goes, made⟩ :=
            row.reads left depth memory [] [] found holds ends later
          simp only [here, skip_eq goes.holds.plain ends.follows.uncommented] at read
          have ended : (if after.numbered && !after.names.isEmpty then none
              else some (Expression.ofConcat ([].reverse ++ items), after, [])) = some result :=
            read
          split at ended
          · exact absurd ended (by simp)
          · obtain rfl := Option.some.inj ended
            exact made.ofConcat

/-- What the reader returns for flags and a row has the matches of the row. -/
theorem backtrack_read? {source : List Char} (row : IsRow rules text source relation)
    {expression : Expression} {groups : Nat}
    (read : Backtrack.Reader.read? (flagText rules ++ source) = some (expression, groups)) :
    Has text groups expression relation := by
  simp only [Backtrack.Reader.read?] at read
  split at read
  · next found memory whole =>
      obtain ⟨rfl, rfl⟩ := Prod.mk.inj (Option.some.inj read)
      exact alternatives_flags row whole
  · exact absurd read (by simp)

/-- The text that the backtracking engine reads for a forced body. -/
theorem effective_forced {parts : Parts} {body : Body} (written : parts.body = body.forced) :
    parts.effective = flagText parts.rules ++ tied parts.sticky
      (openText false ++ body.image .backtracking ++ ")(?=)".toList) := by
  rw [Parts.effective, written, body.engineFor_forced, body.engineText_forced]
  rfl

end TypedJson.Pattern

namespace TypedJson.Backtrack

/-- Whether some part of the text matches; nothing if the search is given up. -/
def outcome (pattern : Backtrack) (text : List Char) : Option Bool :=
  match pattern with
  | plain regex => some (regex.isMatch text)
  | program code => code.outcome text.toArray

theorem isMatch_eq_outcome (pattern : Backtrack) (text : List Char) :
    pattern.isMatch text = (pattern.outcome text).getD false := by
  cases pattern with
  | plain regex => rfl
  | program code => rfl

/-- A search for a regular expression that is not given up finds a match if there is one. -/
theorem outcome_ofExpression? {groups : Nat} {expression : Expression}
    (regular : Expression.Regular groups expression) {search : Backtrack}
    (made : ofExpression? groups expression = some search) {text : List Char} {answer : Bool}
    (settled : search.outcome text = some answer) :
    answer = true ↔
      ∃ first last, first ≤ text.length ∧ expression.Matches text first last := by
  unfold ofExpression? at made
  split at made
  · obtain ⟨program, found, rfl⟩ := Option.map_eq_some_iff.mp made
    exact Program.outcome_eq_some regular found settled
  · simp only [Option.bind_eq_bind, Option.bind_eq_some_iff, Option.pure_def] at made
    obtain ⟨regex, plain, compiled⟩ := made
    split at compiled
    · obtain rfl := Option.some.inj compiled
      obtain rfl : regex.isMatch text = answer := Option.some.inj settled
      simp only [Regex.isMatch_iff_matches, Expression.matches_plain? regular plain]
    · exact absurd compiled (by simp)

end TypedJson.Backtrack

namespace TypedJson.Pattern

variable {text : List Char}

/-- The backtracking engine finds the matches of a forced body in which words are folded. -/
theorem forced_outcome_iff {parts : Parts} {body : Body} (written : parts.body = body.forced)
    {search : Backtrack} (read : Backtrack.ofText? parts.effective = some search) {answer : Bool}
    (settled : search.outcome text = some answer) :
    answer = true ↔ body.Finds parts.rules parts.rules.word text parts.sticky := by
  have row : IsRow parts.rules text _ _ := body.isRow_forced.tied parts.sticky
  simp only [Backtrack.ofText?, effective_forced written, Option.bind_eq_bind,
    Option.bind_eq_some_iff] at read
  obtain ⟨⟨expression, groups⟩, found, made⟩ := read
  have has := backtrack_read? row found
  rw [Backtrack.outcome_ofExpression? has.regular made settled]
  apply exists_congr
  intro first
  apply exists_congr
  intro last
  rw [has.same]
  apply and_congr_right
  intro inside
  rw [mayStart_iff inside]

end TypedJson.Pattern
