import TypedJson.Proofs.Pattern.BacktrackText

namespace TypedJson.Pattern

open TypedJson.Backtrack (Expression)
open TypedJson.Backtrack.Expression (Regular)
open TypedJson.Backtrack.Reader (Memory alternatives piece opening close withRepetition
  skip)
open TypedJson.Backtrack.Reader renaming sequence → readSequence

variable {rules : Rules} {text : List Char} {relation others : Nat → Nat → Prop}

/-! ### Rows -/

/-- What ends a row: the next alternative or the end of the body. -/
def EndsRow (input : List Char) : Prop := EndsBody input ∨ ∃ rest, input = '|' :: rest

/-- What ends a row may follow a piece. -/
theorem EndsRow.follows {input : List Char} (ends : EndsRow input) : Follows input := by
  rcases ends with ends | ⟨rest, rfl⟩
  · exact ends.follows
  · exact ⟨endsItem_cons (by decide), uncommented_cons (by decide)⟩

/-- Before what ends it a row is read to its end. -/
theorem sequence_ends {fuel depth : Nat} {memory : Memory} (plain : memory.extended = false)
    {done : List Expression} {tail : List Char} (ends : EndsRow tail)
    {result : Expression × Memory × List Char}
    (read : readSequence fuel depth memory done tail = some result) :
    result = (.ofConcat done.reverse, memory, tail) := by
  cases fuel with
  | zero => simp [readSequence] at read
  | succ fuel =>
      rw [readSequence, skip_eq plain ends.follows.uncommented] at read
      rcases ends with (rfl | ⟨rest, rfl⟩) | ⟨rest, rfl⟩
      · exact (Option.some.inj read).symm
      · exact (Option.some.inj read).symm
      · exact (Option.some.inj read).symm

/-- A row is read piece by piece, each with its repetition. -/
theorem sequence_piece {fuel depth : Nat} {memory : Memory} (plain : memory.extended = false)
    {done : List Expression} {char : Char} {others : List Char}
    (uncommented : Uncommented (char :: others)) (unmarked : isMark char = false)
    {result : Expression × Memory × List Char}
    (read : readSequence fuel depth memory done (char :: others) = some result) :
    ∃ left item after rest counted later,
      piece left depth memory (char :: others) = some (item, after, rest) ∧
        withRepetition after item rest = some (counted, later) ∧
          readSequence left depth after (if counted.isEmpty then done else counted :: done) later =
            some result := by
  cases fuel with
  | zero => simp [readSequence] at read
  | succ fuel =>
      have goes : char ≠ '|' ∧ char ≠ ')' := by
        constructor
        all_goals
          exact ne_of_test unmarked (by decide)
      have inside : ((char :: others).isEmpty || (char :: others).head? == some '|' ||
          (char :: others).head? == some ')') = false := by
        simp [goes]
      rw [readSequence, skip_eq plain uncommented] at read
      simp only [inside, Bool.false_eq_true, if_false] at read
      cases here : piece fuel depth memory (char :: others) with
      | none => simp [here] at read
      | some found =>
          obtain ⟨item, after, rest⟩ := found
          rw [here] at read
          cases counts : withRepetition after item rest with
          | none => simp [counts] at read
          | some found =>
              obtain ⟨counted, later⟩ := found
              simp only [counts] at read
              exact ⟨fuel, item, after, rest, counted, later, here, counts, read⟩

/-- Expressions in a row are regular and have the matches of a relation. -/
structure HasRow (text : List Char) (groups : Nat) (items : List Expression)
    (relation : Nat → Nat → Prop) : Prop where
  regular : ∀ item ∈ items, Regular groups item
  same : ∀ first last, Expression.MatchesRow text items first last ↔ relation first last

namespace HasRow

variable {groups : Nat} {items : List Expression} {relation others : Nat → Nat → Prop}

theorem nil : HasRow text groups [] fun first last => first = last :=
  ⟨fun _ none => absurd none List.not_mem_nil, fun _ _ => Iff.rfl⟩

theorem mono {more : Nat} (row : HasRow text groups items relation) (least : groups ≤ more) :
    HasRow text more items relation :=
  ⟨fun item inside => (row.regular item inside).mono least, row.same⟩

theorem append {more : List Expression} (first : HasRow text groups items relation)
    (second : HasRow text groups more others) :
    HasRow text groups (items ++ more) fun first last =>
      ∃ middle, relation first middle ∧ others middle last := by
  constructor
  · intro item inside
    rcases List.mem_append.mp inside with here | there
    · exact first.regular item here
    · exact second.regular item there
  · intro start stop
    simp only [Backtrack.Expression.matchesRow_append, first.same, second.same]

/-- A row as one expression matches what the row matches. -/
theorem ofConcat (row : HasRow text groups items relation) :
    Has text groups (.ofConcat items) relation := by
  match items with
  | [] => exact ⟨.empty, row.same⟩
  | [item] =>
      refine ⟨row.regular item List.mem_cons_self, fun first last => ?_⟩
      rw [← row.same]
      simp [Backtrack.Expression.ofConcat, Backtrack.Expression.MatchesRow]
  | item :: next :: rest => exact ⟨.concat row.regular, row.same⟩

end HasRow

/-- One item, of which nothing is kept if it is empty. -/
theorem Has.row {groups : Nat} {item : Expression} {relation : Nat → Nat → Prop}
    (has : Has text groups item relation) :
    HasRow text groups (if item.isEmpty then [] else [item]) relation := by
  split
  · next empty =>
      have none : item = .empty := by
        cases item with
        | empty => rfl
        | _ => exact absurd empty Bool.false_ne_true
      subst none
      exact ⟨fun _ inside => absurd inside List.not_mem_nil, has.same⟩
  · refine ⟨fun other inside => ?_, fun first last => ?_⟩
    · rw [List.mem_singleton.mp inside]
      exact has.regular
    · rw [← has.same]
      simp [Backtrack.Expression.MatchesRow]

/-- Text that is read as one row with the matches of a relation. -/
structure IsRow (rules : Rules) (text source : List Char) (relation : Nat → Nat → Prop) :
    Prop where
  follows : ∀ tail, EndsRow tail → Follows (source ++ tail)
  reads : ∀ fuel depth memory done tail result, rules.Holds memory → EndsRow tail →
    readSequence fuel depth memory done (source ++ tail) = some result →
      ∃ items after, result = (.ofConcat (done.reverse ++ items), after, tail) ∧
        Goes rules memory after ∧ HasRow text after.opened items relation

/-- A piece may follow a piece. -/
theorem IsPiece.follows {source : List Char} (here : IsPiece rules text source relation)
    (rest : List Char) : Follows (source ++ rest) := by
  refine ⟨?_, here.uncommented rest⟩
  obtain ⟨char, others, rfl, unmarked⟩ := here.starts
  apply endsItem_cons
  intro inside
  simp only [List.mem_cons, List.not_mem_nil, or_false] at inside
  rcases inside with rfl | rfl | rfl | rfl
  all_goals exact absurd unmarked (by decide)

/-- A piece adds an expression to the row, with its repetition. -/
theorem IsPiece.sequence {source rest : List Char} (here : IsPiece rules text source relation)
    (count : Option Count) (follows : Follows rest) {memory : Memory} (holds : rules.Holds memory)
    {fuel depth : Nat} {done : List Expression} {result : Expression × Memory × List Char}
    (read : readSequence fuel depth memory done (source ++ (countText count ++ rest)) = some result) :
    ∃ left after items, readSequence left depth after (items.reverse ++ done) rest = some result ∧
      Goes rules memory after ∧ HasRow text after.opened items (Repeated count relation) := by
  have uncommented := here.uncommented (countText count ++ rest)
  have reads := here.reads
  obtain ⟨char, others, rfl, unmarked⟩ := here.starts
  obtain ⟨left, item, after, later, found, ending, first, counts, next⟩ :=
    sequence_piece holds.plain uncommented unmarked read
  obtain ⟨same, after', shape, goes, has⟩ := reads left depth memory _ _ holds first
  obtain ⟨rfl, rfl, rfl⟩ : item = same ∧ after = after' ∧ later = countText count ++ rest := by
    simpa using shape
  obtain ⟨rfl, rfl⟩ := Prod.mk.inj (withRepetition_countText count goes.holds follows counts)
  refine ⟨left, after, _, ?_, goes, (has.counted count).row⟩
  split at next
  · next empty =>
      rw [if_pos empty]
      exact next
  · next nonempty =>
      rw [if_neg nonempty]
      exact next

/-- The matches of a piece may be said in other words. -/
theorem IsPiece.congr {source : List Char} (here : IsPiece rules text source relation)
    (same : ∀ first last, relation first last ↔ others first last) :
    IsPiece rules text source others := by
  have equal : relation = others := by
    funext first last
    exact propext (same first last)
  exact equal ▸ here

namespace IsRow

theorem nil : IsRow rules text [] fun first last => first = last := by
  refine ⟨fun tail ends => ends.follows, ?_⟩
  intro fuel depth memory done tail result holds ends read
  refine ⟨[], memory, ?_, .refl holds, .nil⟩
  rw [List.append_nil]
  exact sequence_ends holds.plain ends read

theorem cons {source rest : List Char} (row : IsRow rules text rest others)
    (here : IsPiece rules text source relation) (count : Option Count) :
    IsRow rules text (source ++ countText count ++ rest) fun first last =>
      ∃ middle, Repeated count relation first middle ∧ others middle last := by
  have shape (tail : List Char) : source ++ countText count ++ rest ++ tail =
      source ++ (countText count ++ (rest ++ tail)) := by
    simp only [List.append_assoc]
  constructor
  · intro tail ends
    rw [shape]
    exact here.follows _
  · intro fuel depth memory done tail result holds ends read
    rw [shape] at read
    obtain ⟨left, middle, items, read, goes, first⟩ :=
      here.sequence count (row.follows tail ends) holds read
    obtain ⟨more, after, rfl, later, second⟩ :=
      row.reads left depth middle _ tail result goes.holds ends read
    refine ⟨items ++ more, after, by simp, goes.trans later, ?_⟩
    exact (first.mono later.grows).append second

/-- The matches of a row may be said in other words. -/
theorem congr {source : List Char} (row : IsRow rules text source relation)
    (same : ∀ first last, relation first last ↔ others first last) :
    IsRow rules text source others := by
  have equal : relation = others := by
    funext first last
    exact propext (same first last)
  exact equal ▸ row

end IsRow

/-- A piece without a repetition before the rest of its row. -/
theorem IsPiece.append {source rest : List Char} (here : IsPiece rules text source relation)
    (row : IsRow rules text rest others) :
    IsRow rules text (source ++ rest) fun first last =>
      ∃ middle, relation first middle ∧ others middle last := by
  have counted := row.cons here none
  rw [countText, Option.map_none, Option.getD_none, List.append_nil] at counted
  exact counted

/-- A piece alone in its row. -/
theorem IsPiece.row {source : List Char} (here : IsPiece rules text source relation) :
    IsRow rules text source relation := by
  have nothing : IsRow rules text [] fun first last => first = last := .nil
  have single := here.append nothing
  rw [List.append_nil] at single
  exact single.congr fun first last => by simp

/-! ### Alternatives -/

/-- One of several expressions, of which there may be only one. -/
def oneOf : List Expression → Expression
  | [item] => item
  | items => .alternation items

/-- Several alternatives are an alternation. -/
theorem oneOf_several {items : List Expression} (several : 1 < items.length) :
    oneOf items = .alternation items := by
  match items with
  | [] => exact absurd several (by decide)
  | [item] => exact absurd several (by simp)
  | item :: next :: rest => rfl

/-- Alternatives are regular and together have the matches of a relation. -/
structure HasChoice (text : List Char) (groups : Nat) (items : List Expression)
    (relation : Nat → Nat → Prop) : Prop where
  nonempty : items ≠ []
  regular : ∀ item ∈ items, Regular groups item
  same : ∀ first last, Expression.MatchesChoice text items first last ↔ relation first last

namespace HasChoice

variable {groups : Nat} {items : List Expression}

/-- One alternative matches what it matches. -/
theorem single {item : Expression} (has : Has text groups item relation) :
    HasChoice text groups [item] relation := by
  refine ⟨by simp, fun other inside => ?_, fun first last => ?_⟩
  · rw [List.mem_singleton.mp inside]
    exact has.regular
  · simp [Backtrack.Expression.MatchesChoice, has.same]

theorem cons {item : Expression} (has : Has text groups item relation)
    (choice : HasChoice text groups items others) :
    HasChoice text groups (item :: items) fun first last =>
      relation first last ∨ others first last := by
  refine ⟨by simp, fun other inside => ?_, fun first last => ?_⟩
  · rcases List.mem_cons.mp inside with rfl | later
    · exact has.regular
    · exact choice.regular other later
  · simp only [Backtrack.Expression.MatchesChoice, has.same, choice.same]

/-- Alternatives as one expression match what one of them matches. -/
theorem oneOf (choice : HasChoice text groups items relation) :
    Has text groups (oneOf items) relation := by
  match items with
  | [] => exact absurd rfl choice.nonempty
  | [item] =>
      refine ⟨choice.regular item List.mem_cons_self, fun first last => ?_⟩
      rw [← choice.same]
      simp [Pattern.oneOf, Backtrack.Expression.MatchesChoice]
  | item :: next :: rest => exact ⟨.alternation choice.nonempty choice.regular, choice.same⟩

end HasChoice

theorem Has.mono {groups more : Nat} {item : Expression} (has : Has text groups item relation)
    (least : groups ≤ more) : Has text more item relation :=
  ⟨has.regular.mono least, has.same⟩

/-- Text that is read as alternatives with the matches of a relation. -/
structure IsChoice (rules : Rules) (text source : List Char) (relation : Nat → Nat → Prop) :
    Prop where
  follows : ∀ tail, EndsBody tail → Follows (source ++ tail)
  reads : ∀ fuel depth memory done tail result, rules.Holds memory → EndsBody tail →
    alternatives fuel depth memory done (source ++ tail) = some result →
      ∃ items after, result = (oneOf (done.reverse ++ items), after, tail) ∧
        Goes rules memory after ∧ HasChoice text after.opened items relation

/-- The reader of alternatives reads a row first. -/
theorem alternatives_row {source tail : List Char} (row : IsRow rules text source relation)
    (ends : EndsRow tail) {fuel depth : Nat} {memory : Memory} (holds : rules.Holds memory)
    {done : List Expression} {result : Expression × Memory × List Char}
    (read : alternatives fuel depth memory done (source ++ tail) = some result) :
    ∃ left item after, Goes rules memory after ∧ Has text after.opened item relation ∧
      (match some tail with
        | none => none
        | some ('|' :: rest) => alternatives left depth after (item :: done) rest
        | some rest =>
          if done.isEmpty then
            if after.numbered && !after.names.isEmpty then none else some (item, after, rest)
          else some (.alternation (item :: done).reverse, after, rest)) = some result := by
  cases fuel with
  | zero => simp [alternatives] at read
  | succ fuel =>
      rw [alternatives] at read
      cases here : readSequence fuel depth memory [] (source ++ tail) with
      | none => simp [here] at read
      | some found =>
          obtain ⟨items, after, rfl, goes, made⟩ :=
            row.reads fuel depth memory [] tail found holds ends here
          simp only [here, skip_eq goes.holds.plain ends.follows.uncommented] at read
          exact ⟨fuel, _, after, goes, made.ofConcat, read⟩

namespace IsRow

/-- A row alone is the only alternative. -/
theorem choice {source : List Char} (row : IsRow rules text source relation) :
    IsChoice rules text source relation := by
  refine ⟨fun tail ends => row.follows tail (.inl ends), ?_⟩
  intro fuel depth memory done tail result holds ends read
  obtain ⟨left, item, after, goes, has, read⟩ := alternatives_row row (.inl ends) holds read
  refine ⟨[item], after, ?_, goes, .single has⟩
  have ended : (if done.isEmpty then
      if after.numbered && !after.names.isEmpty then none else some (item, after, tail)
      else some (.alternation (item :: done).reverse, after, tail)) = some result := by
    rcases ends with rfl | ⟨rest, rfl⟩
    · exact read
    · exact read
  cases done with
  | nil =>
      simp only [List.isEmpty_nil, if_true] at ended
      split at ended
      · exact absurd ended (by simp)
      · exact (Option.some.inj ended).symm
  | cons first rest =>
      have reversed : (item :: first :: rest).reverse = (first :: rest).reverse ++ [item] :=
        List.reverse_cons
      have several : 1 < (item :: first :: rest).reverse.length := by simp
      rw [← reversed, oneOf_several several]
      exact (Option.some.inj ended).symm

/-- A row and further alternatives. -/
theorem orElse {source more : List Char} (row : IsRow rules text source relation)
    (choice : IsChoice rules text more others) :
    IsChoice rules text (source ++ '|' :: more) fun first last =>
      relation first last ∨ others first last := by
  have shape (tail : List Char) : source ++ '|' :: more ++ tail =
      source ++ '|' :: (more ++ tail) := by simp
  constructor
  · intro tail ends
    rw [shape]
    exact row.follows _ (.inr ⟨_, rfl⟩)
  · intro fuel depth memory done tail result holds ends read
    rw [shape] at read
    obtain ⟨left, item, middle, goes, has, read⟩ :=
      alternatives_row row (.inr ⟨_, rfl⟩) holds read
    obtain ⟨items, after, rfl, later, made⟩ :=
      choice.reads left depth middle (item :: done) tail result goes.holds ends read
    refine ⟨item :: items, after, by simp, goes.trans later, ?_⟩
    exact .cons (has.mono later.grows) made

end IsRow

/-! ### Groups -/

/-- A group opens no comment. -/
theorem uncommented_open {input : List Char} (captures : Bool) (ends : EndsItem input) :
    Uncommented (openText captures ++ input) := by
  cases captures with
  | false =>
      intro comment same
      have third : ':' = '#' := (List.cons.inj (List.cons.inj (List.cons.inj same).2).2).1
      exact absurd third (by decide)
  | true =>
      intro comment same
      have second : input = '?' :: '#' :: comment := (List.cons.inj same).2
      exact (ends '?' (by rw [second]; rfl)).1 rfl

/-- What starts like no group with a mark starts a group that captures. -/
theorem opening_named {memory : Memory} (plain : memory.extended = false) {input : List Char}
    (follows : Follows input) :
    opening memory input =
      some (.capture, { memory with opened := memory.opened + 1 }, input) := by
  rw [opening, skip_eq plain follows.uncommented]
  cases input with
  | nil => rfl
  | cons char rest =>
      have other : char ≠ '?' := (follows.ends char rfl).1
      simp [other]

/-- A question mark and a colon start a group that captures nothing. -/
theorem opening_plain {memory : Memory} (plain : memory.extended = false) (input : List Char) :
    opening memory ('?' :: ':' :: input) = some (.plain, memory, input) := by
  have question : skip memory ('?' :: ':' :: input) = some ('?' :: ':' :: input) :=
    skip_eq plain (uncommented_cons (by decide))
  have colon : skip memory (':' :: input) = some (':' :: input) :=
    skip_eq plain (uncommented_cons (by decide))
  simp [opening, question, Backtrack.Reader.flags, colon]

/-- How a look-around opens, after its parenthesis. -/
def lookText (behind negated : Bool) : List Char :=
  '?' :: (if behind then ['<'] else []) ++ [if negated then '!' else '=']

/-- The mark of a look-around starts one. -/
theorem opening_lookAround {memory : Memory} (plain : memory.extended = false)
    (behind negated : Bool) (input : List Char) :
    opening memory (lookText behind negated ++ input) =
      some (.lookAround behind negated, memory, input) := by
  have skips : skip memory (lookText behind negated ++ input) =
      some (lookText behind negated ++ input) := by
    apply skip_eq plain
    cases behind <;> cases negated <;> exact uncommented_cons (by decide)
  rw [opening, skips]
  cases behind <;> cases negated <;> rfl

/-- A closing parenthesis closes. -/
theorem close_eq {memory : Memory} (plain : memory.extended = false) (rest : List Char) :
    close memory (')' :: rest) = some rest := by
  rw [close, skip_eq plain (uncommented_cons (by decide))]
  rfl

/-- A group is read with the alternatives inside of it. -/
theorem piece_group {inner rest : List Char} (choice : IsChoice rules text inner relation)
    {fuel depth : Nat} {memory : Memory} (holds : rules.Holds memory) (captures : Bool)
    {found : Expression × Memory × List Char}
    (read : piece fuel depth memory (openText captures ++ inner ++ ')' :: rest) = some found) :
    ∃ item after, found = (item, after, rest) ∧ Goes rules memory after ∧
      Has text after.opened item relation := by
  have ends : EndsBody (')' :: rest) := .inr ⟨rest, rfl⟩
  cases fuel with
  | zero => simp [piece] at read
  | succ fuel =>
      cases captures with
      | false =>
          simp only [openText, Bool.false_eq_true, if_false, List.cons_append, List.nil_append,
            piece, opening_plain holds.plain] at read
          split at read
          · exact absurd read (by simp)
          · split at read
            · next body after later here =>
                obtain ⟨items, closed, same, goes, made⟩ :=
                  choice.reads fuel _ memory [] _ _ holds ends here
                simp only [List.reverse_nil, List.nil_append, Prod.mk.injEq, List.cons.injEq,
                  true_and] at same
                obtain ⟨rfl, rfl, rfl⟩ := same
                have back : Goes rules memory (after.withFlagsOf memory) :=
                  ⟨⟨holds.case, holds.lines, holds.dots, holds.greed, holds.plain⟩, goes.grows⟩
                exact ⟨_, _, (Option.some.inj read).symm, back, made.oneOf⟩
            · exact absurd read (by simp)
      | true =>
          have follows := choice.follows _ ends
          simp only [openText, if_true, List.cons_append, List.nil_append,
            piece, opening_named holds.plain follows] at read
          split at read
          · exact absurd read (by simp)
          · have opened : rules.Holds { memory with opened := memory.opened + 1 } :=
              ⟨holds.case, holds.lines, holds.dots, holds.greed, holds.plain⟩
            cases here : alternatives fuel (depth + 1)
                { memory with opened := memory.opened + 1 } [] (inner ++ ')' :: rest) with
            | none => simp [here] at read
            | some parsed =>
                obtain ⟨items, after, rfl, goes, made⟩ :=
                  choice.reads fuel _ _ [] _ parsed opened ends here
                simp only [here, close_eq goes.holds.plain] at read
                have grows : Goes rules memory after :=
                  ⟨goes.holds, Nat.le_trans (Nat.le_succ _) goes.grows⟩
                have has := made.oneOf
                exact ⟨_, after, (Option.some.inj read).symm, grows,
                  ⟨.group goes.grows has.regular, has.same⟩⟩

/-- Alternatives in parentheses are a piece. -/
theorem IsChoice.group {inner : List Char} (choice : IsChoice rules text inner relation)
    (captures : Bool) : IsPiece rules text (openText captures ++ inner ++ [')']) relation := by
  have shape (rest : List Char) : openText captures ++ inner ++ [')'] ++ rest =
      openText captures ++ (inner ++ ')' :: rest) := by simp
  constructor
  · cases captures with
    | false => exact ⟨'(', _, rfl, rfl⟩
    | true => exact ⟨'(', _, rfl, rfl⟩
  · intro rest
    rw [shape]
    exact uncommented_open captures (choice.follows _ (.inr ⟨rest, rfl⟩)).ends
  · intro fuel depth memory rest found holds read
    rw [shape, ← List.append_assoc] at read
    exact piece_group choice holds captures read

/-- A look-around is read with what is read inside of it. -/
theorem isPiece_lookAround {inner : List Char} (behind negated : Bool)
    (reads : ∀ fuel depth memory rest found, rules.Holds memory →
      alternatives fuel depth memory [] (inner ++ ')' :: rest) = some found →
        ∃ body, found = (body, memory, ')' :: rest) ∧ body.isHard = false ∧
          body.isConstSize = true ∧ ∀ groups, Has text groups body relation) :
    IsPiece rules text ('(' :: lookText behind negated ++ inner ++ [')']) fun first last =>
      first = last ∧ ((∃ other, if behind then relation other first else relation first other) ↔
        negated = false) := by
  have shape (rest : List Char) : '(' :: lookText behind negated ++ inner ++ [')'] ++ rest =
      '(' :: (lookText behind negated ++ (inner ++ ')' :: rest)) := by simp
  constructor
  · exact ⟨'(', _, rfl, rfl⟩
  · intro rest comment same
    rw [shape] at same
    have inside := (List.cons.inj (List.cons.inj same).2).2
    cases behind <;> cases negated <;> exact absurd (List.cons.inj inside).1 (by decide)
  · intro fuel depth memory rest found holds read
    rw [shape] at read
    cases fuel with
    | zero => simp [piece] at read
    | succ fuel =>
        simp only [piece, opening_lookAround holds.plain] at read
        split at read
        · exact absurd read (by simp)
        · cases here : alternatives fuel (depth + 1) memory [] (inner ++ ')' :: rest) with
          | none => simp [here] at read
          | some parsed =>
              obtain ⟨body, rfl, easy, sized, has⟩ := reads fuel _ memory rest parsed holds here
              simp only [here, close_eq holds.plain] at read
              refine ⟨_, memory, (Option.some.inj read).symm, .refl holds, ?_⟩
              have inside := has memory.opened
              refine ⟨.lookAround easy (fun _ => sized) inside.regular, fun first last => ?_⟩
              simp only [Backtrack.Expression.Matches, inside.same]

end TypedJson.Pattern
