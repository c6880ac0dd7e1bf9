import TypedJson.Proofs.Pattern.Agreement
import TypedJson.Proofs.Pattern.BracketRow

namespace TypedJson.Pattern

open TypedJson.Backtrack.Reader (Memory bracketText classText)

/-! ### Gathering -/

/-- Before some text the reader of classes passes another text on as a third one. -/
def PassesOn (memory : Memory) (source passed follow : List Char) : Prop :=
  ∀ fuel depth, (source ++ follow).length < fuel →
    ∃ left, follow.length < left ∧ classText memory fuel depth (source ++ follow) =
      (classText memory left depth follow).map fun (text, rest) => (passed ++ text, rest)

namespace PassesOn

variable {memory : Memory} {follow : List Char}

theorem nil : PassesOn memory [] [] follow := by
  intro fuel depth enough
  refine ⟨fuel, enough, ?_⟩
  simp

theorem append {source passed other more : List Char}
    (first : PassesOn memory source passed (other ++ follow))
    (second : PassesOn memory other more follow) :
    PassesOn memory (source ++ other) (passed ++ more) follow := by
  intro fuel depth enough
  rw [List.append_assoc] at enough ⊢
  obtain ⟨left, room, read⟩ := first fuel depth enough
  obtain ⟨last, room, later⟩ := second left depth room
  refine ⟨last, room, ?_⟩
  rw [read, later, Option.map_map]
  congr 1
  funext found
  exact congrArg (·, found.2) (List.append_assoc _ _ _).symm

/-- A character that is no sign of a class is passed on. -/
theorem single {char : Char} (allowed : char ∉ ['\\', '[', ']']) :
    PassesOn memory [char] [char] follow := by
  intro fuel depth enough
  simp only [List.mem_cons, List.not_mem_nil, or_false, not_or] at allowed
  obtain ⟨slash, opens, closes⟩ := allowed
  cases fuel with
  | zero => exact absurd enough (Nat.not_lt_zero _)
  | succ fuel =>
      refine ⟨fuel, Nat.lt_of_succ_lt_succ enough, ?_⟩
      rw [List.singleton_append, classText]
      · rfl
      · exact slash
      · exact opens
      · exact closes

/-- Characters that are no signs of a class are passed on. -/
theorem ofList {chars : List Char}
    (allowed : chars.all (fun char => !(['\\', '[', ']'].contains char)) = true) :
    PassesOn memory chars chars follow := by
  induction chars with
  | nil => exact nil
  | cons char others ih =>
      rw [List.all_cons, Bool.and_eq_true] at allowed
      have plain : char ∉ ['\\', '[', ']'] := by simpa using allowed.1
      exact (single plain).append (ih allowed.2)

/-- An escape is passed on as its character, quoted if it has to be. -/
theorem escaped {source : List Char} {char : Char}
    (reads : Backtrack.Reader.escape memory true (source ++ follow) = some (.char char, follow)) :
    PassesOn memory ('\\' :: source) (Backtrack.Reader.quoteInClass char) follow := by
  intro fuel depth enough
  cases fuel with
  | zero => exact absurd enough (Nat.not_lt_zero _)
  | succ fuel =>
      refine ⟨fuel, ?_, ?_⟩
      · simp only [List.cons_append, List.length_cons, List.length_append] at enough
        omega
      · simp only [List.cons_append, classText, reads]

/-- A class inside is passed on with its brackets. -/
theorem nested {source passed : List Char}
    (inner : PassesOn memory source passed (']' :: follow)) :
    PassesOn memory ('[' :: source ++ [']']) ('[' :: passed ++ [']']) follow := by
  intro fuel depth enough
  have shape : '[' :: source ++ [']'] ++ follow = '[' :: (source ++ ']' :: follow) := by simp
  rw [shape] at enough ⊢
  cases fuel with
  | zero => exact absurd enough (Nat.not_lt_zero _)
  | succ fuel =>
      obtain ⟨left, room, read⟩ := inner fuel (depth + 1) (Nat.lt_of_succ_lt_succ enough)
      cases left with
      | zero => exact absurd room (Nat.not_lt_zero _)
      | succ left =>
          refine ⟨left, Nat.lt_of_succ_lt_succ room, ?_⟩
          rw [classText, read]
          simp [classText, Function.comp_def]

end PassesOn

/-- Brackets that the reader does not count. -/
def BracketItem.isBalanced : BracketItem → Bool
  | range _ last _ _ _ => last != '['
  | _ => true

/-- The image of an item is passed on, its codes as characters. -/
theorem BracketItem.passesOn_image {item : BracketItem} (balanced : item.isBalanced = true)
    (opening : item.text.head? ≠ some '[') (memory : Memory) (follow : List Char) :
    PassesOn memory (item.image true) (item.image false) follow := by
  have plain {char : Char} (allowed : isBracketLiteral char = true) (other : char ≠ '[') :
      char ∉ ['\\', '[', ']'] := by
    intro inside
    simp only [List.mem_cons, List.not_mem_nil, or_false] at inside
    obtain rfl | rfl | rfl := inside
    · exact absurd allowed (by decide)
    · exact other rfl
    · exact absurd allowed (by decide)
  cases item with
  | literal char allowed =>
      exact PassesOn.single (plain allowed fun same => opening (by simp [text, same]))
  | range first last firstAllowed lastAllowed ordered =>
      have start := plain firstAllowed fun same => opening (by simp [text, same])
      have stop := plain lastAllowed (by simpa [isBalanced] using balanced)
      have hyphen : PassesOn memory ['-', last] ['-', last] follow :=
        (PassesOn.single (by decide)).append (PassesOn.single stop)
      exact (PassesOn.single start).append hyphen
  | shorthand escape =>
      obtain ⟨negated, kind⟩ := escape
      cases kind with
      | digit =>
          cases negated with
          | false => exact PassesOn.ofList (by decide)
          | true =>
              exact PassesOn.nested (PassesOn.ofList (by decide) : PassesOn _ "^0-9".toList _ _)
      | word =>
          cases negated with
          | false => exact PassesOn.ofList (by decide)
          | true =>
              exact PassesOn.nested
                (PassesOn.ofList (by decide) : PassesOn _ "^A-Za-z0-9_".toList _ _)
  | backspace =>
      have reads : Backtrack.Reader.escape memory true ("x08".toList ++ follow) =
          some (.char '\x08', follow) := rfl
      exact PassesOn.escaped reads
  | quoted char allowed =>
      have known := of_contains Regex.Reader.isEscapable (by decide) allowed
      have special := of_contains Regex.Reader.isMeta (by decide) allowed
      have reads : Backtrack.Reader.escape memory true ([char] ++ follow) =
          some (.char char, follow) := backtrack_escape known memory true follow
      have passed := PassesOn.escaped reads
      rwa [Backtrack.Reader.quoteInClass, if_pos special] at passed
  | hyphen => exact PassesOn.single (by decide)

/-- Items that are read apart do not start with a bracket. -/
theorem BracketItem.opening_of_readApart {items : List BracketItem}
    (apart : readApart items = true) : ∀ item ∈ items, item.text.head? ≠ some '[' := by
  induction items with
  | nil => exact fun item inside => absurd inside List.not_mem_nil
  | cons item others ih =>
      simp only [readApart, standsBefore, Bool.and_eq_true, bne_iff_ne] at apart
      intro other inside
      obtain rfl | later := List.mem_cons.mp inside
      · exact apart.1.1.1
      · exact ih apart.2 other later

namespace Bracket

/-- The items of a bracket that is read apart do not start with one. -/
theorem opening_of_readsApart {bracket : Bracket} (apart : bracket.readsApart = true) :
    ∀ item ∈ bracket.items, item.text.head? ≠ some '[' := by
  intro item inside
  rw [← bracket.items.takeWhile_append_dropWhile (p := BracketItem.isHyphen)] at inside
  obtain first | later := List.mem_append.mp inside
  · have hyphen := List.mem_takeWhile_imp first
    cases item with
    | hyphen => decide
    | _ => exact absurd hyphen (by simp [BracketItem.isHyphen])
  · exact BracketItem.opening_of_readApart apart item later

/-- Brackets that the backtracking reader counts right. -/
def isBalanced (bracket : Bracket) : Bool := bracket.items.all BracketItem.isBalanced

/-- The images of the items are passed on one by one. -/
theorem passesOn_items {bracket : Bracket} (apart : bracket.readsApart = true)
    (balanced : bracket.isBalanced = true) (memory : Memory) (follow : List Char) :
    PassesOn memory (bracket.items.flatMap (BracketItem.image true))
      (bracket.items.flatMap (BracketItem.image false)) follow := by
  have opening := opening_of_readsApart apart
  rw [isBalanced, List.all_eq_true] at balanced
  generalize bracket.items = items at opening balanced
  induction items with
  | nil => exact PassesOn.nil
  | cons item others ih =>
      rw [List.flatMap_cons, List.flatMap_cons]
      exact (BracketItem.passesOn_image (balanced item List.mem_cons_self)
        (opening item List.mem_cons_self) memory _).append
          (ih (fun other later => opening other (List.mem_cons_of_mem _ later))
            fun other later => balanced other (List.mem_cons_of_mem _ later))

/-- Nothing special starts the text of a bracket after its caret. -/
theorem follow_starts (byCode : Bool) (bracket : Bracket) (after : List Char) :
    ∃ char rest, BracketItem.follow byCode bracket.items after = char :: rest ∧ char ≠ ']' ∧
      (bracket.negated = false → char ≠ '^') := by
  obtain ⟨item, others, shape⟩ := List.exists_cons_of_ne_nil bracket.filled
  obtain ⟨char, rest, image, closing, marks⟩ := item.image_starts byCode
  refine ⟨char, rest ++ BracketItem.follow byCode others after, ?_, closing, ?_⟩
  · rw [shape, BracketItem.follow, List.flatMap_cons, image, BracketItem.follow]
    simp
  · rintro plain rfl
    apply bracket.caret plain
    rw [shape, List.flatMap_cons, List.head?_append, marks '^' (by decide) rfl]
    rfl

/-- The text of a bracket is handed over whole, with a backspace as it is. -/
theorem bracketText_image {bracket : Bracket} (apart : bracket.readsApart = true)
    (balanced : bracket.isBalanced = true) (memory : Memory) (after : List Char) :
    bracketText memory (negation bracket.negated ++
        BracketItem.follow true bracket.items after) = some (bracket.image false, after) := by
  obtain ⟨char, rest, shape, closing, caret⟩ := bracket.follow_starts true after
  have opened : bracketText memory (negation bracket.negated ++
      BracketItem.follow true bracket.items after) =
        (classText memory ((BracketItem.follow true bracket.items after).length + 1) 0
          (BracketItem.follow true bracket.items after)).map
            fun (text, rest) => ('[' :: negation bracket.negated ++ text, rest) := by
    rw [shape]
    cases negated : bracket.negated with
    | false => simp [bracketText, negation, closing, caret negated]
    | true => simp [bracketText, negation, closing]
  obtain ⟨left, room, read⟩ := passesOn_items apart balanced memory (']' :: after)
    ((BracketItem.follow true bracket.items after).length + 1) 0 (Nat.lt_succ_self _)
  cases left with
  | zero => exact absurd room (Nat.not_lt_zero _)
  | succ left =>
      rw [opened]
      refine (congrArg (Option.map _) read).trans ?_
      simp [classText, image]

/-- The linear engine reads what is handed over. -/
theorem read?_image {bracket : Bracket} (byCode : Bool) (apart : bracket.readsApart = true) :
    Regex.Reader.read? (bracket.image byCode) = some (.set (bracket.expression byCode)) := by
  have filled : 2 ≤ (bracket.image byCode).length := by
    simp [image]
    omega
  obtain ⟨fuel, enough⟩ : ∃ fuel, 3 * (bracket.image byCode).length + 6 = fuel + 1 + 1 + 1 :=
    ⟨3 * (bracket.image byCode).length + 3, rfl⟩
  have one : Regex.Reader.sequence (fuel + 1 + 1) ⟨false, 0, []⟩ []
      (bracket.image byCode ++ []) = some (.set (bracket.expression byCode), ⟨false, 0, []⟩, []) := by
    rw [sequence_bracket byCode apart rfl]
    rfl
  rw [List.append_nil] at one
  have shallow : (bracket.expression byCode).depth ≤ Regex.Reader.depthLimit :=
    Nat.le_trans (bracket.depth_le byCode) (by decide)
  rw [Regex.Reader.read?, enough, Regex.Reader.alternatives, one]
  exact if_pos shallow

/-- The linear engine makes the set of the bracket of what is passed on. -/
theorem classRegex_image {bracket : Bracket} (apart : bracket.readsApart = true) {memory : Memory}
    (cased : memory.ignoreCase = false) :
    Backtrack.Reader.classRegex memory (bracket.image false) =
      some (.set (.one (bracket.set .exact))) := by
  have flags : memory.classFlags = Rules.flags .exact := by
    simp [Memory.classFlags, cased, Rules.flags, Rules.exact, Regex.Flags.standard]
  simp only [Backtrack.Reader.classRegex, read?_image false apart, flags,
    Regex.Expression.meaning, bracket.meaning_expression, Option.map_some, Option.bind_eq_bind,
    Option.bind_some, Option.pure_def]

end Bracket

/-! ### Backtracking -/

/-- A piece that nothing repeats. -/
theorem backtrack_sequence_simple {fuel depth : Nat} {memory : Memory}
    (plain : memory.extended = false) {done : List Backtrack.Expression} {char : Char}
    {rest after : List Char} {item : Backtrack.Expression}
    (unmarked : isMark char = false) (closed : char ∉ ['(', '|', ')'])
    (reads : Backtrack.Reader.simple memory (char :: rest) = some (item, memory, after))
    (follows : Follows after) (filled : item.isEmpty = false) :
    Backtrack.Reader.sequence (fuel + 2) depth memory done (char :: rest) =
      Backtrack.Reader.sequence (fuel + 1) depth memory (item :: done) after := by
  simp only [List.mem_cons, List.not_mem_nil, or_false, not_or] at closed
  have here : Backtrack.Reader.piece (fuel + 1) depth memory (char :: rest) =
      some (item, memory, after) := by
    rw [piece_simple unmarked closed.1, reads]
  have alone : Backtrack.Reader.withRepetition memory item after = some (item, after) := by
    rw [Backtrack.Reader.withRepetition, skip_eq plain follows.uncommented]
    simp only [Option.bind_eq_bind, Option.bind_some, repetition?_ends follows.ends,
      Option.pure_def]
  have goesOn : ((char :: rest).isEmpty || (char :: rest).head? == some '|' ||
      (char :: rest).head? == some ')') = false := by
    simp [closed.2.1, closed.2.2]
  rw [Backtrack.Reader.sequence, skip_eq plain (uncommented_cons closed.1)]
  simp only [goesOn, Bool.false_eq_true, if_false, here, alone, filled]

/-- What a pattern of one bracket is read as. -/
theorem alternatives_bracket {bracket : Bracket} (apart : bracket.readsApart = true)
    (balanced : bracket.isBalanced = true) (fuel size : Nat) :
    Backtrack.Reader.alternatives (fuel + 6) 0 (.start size) [] (rowImage [bracket]) =
      some (.concat [.condition .textStart, .set (.one (bracket.set .exact)),
        .condition .textEnd], .start size, []) := by
  have shape : rowImage [bracket] = '^' :: '[' :: (negation bracket.negated ++
      BracketItem.follow true bracket.items ['$']) := by
    simp [rowImage, Bracket.image, BracketItem.follow]
  have ends {char : Char} {rest : List Char} (other : char ∉ ['?', '*', '+', '\x7b', '(']) :
      Follows (char :: rest) := by
    simp only [List.mem_cons, List.not_mem_nil, or_false, not_or] at other
    refine ⟨endsItem_cons ?_, uncommented_cons other.2.2.2.2⟩
    simp [other]
  have regex := Bracket.classRegex_image apart (show (Memory.start size).ignoreCase = false from rfl)
  have set : Backtrack.Reader.simple (.start size) ('[' :: (negation bracket.negated ++
      BracketItem.follow true bracket.items ['$'])) =
        some (.set (.one (bracket.set .exact)), .start size, ['$']) := by
    simp only [Backtrack.Reader.simple, Bracket.bracketText_image apart balanced,
      regex, Option.bind_eq_bind, Option.bind_some, Option.pure_def]
  have row : Backtrack.Reader.sequence (fuel + 5) 0 (.start size) [] (rowImage [bracket]) =
      some (.concat [.condition .textStart, .set (.one (bracket.set .exact)),
        .condition .textEnd], .start size, []) := by
    rw [shape, backtrack_sequence_simple rfl rfl (by decide) rfl (ends (by decide)) rfl,
      backtrack_sequence_simple rfl rfl (by decide) set (ends (by decide)) rfl,
      backtrack_sequence_simple rfl rfl (by decide) rfl (EndsBody.follows (.inl rfl)) rfl,
      Backtrack.Reader.sequence, skip_eq rfl (EndsBody.follows (.inl rfl)).uncommented]
    rfl
  rw [Backtrack.Reader.alternatives, row]
  rfl

/-- The backtracking engine reads the bracket as a plain expression, if that is small. -/
theorem ofText?_bracket {bracket : Bracket} (apart : bracket.readsApart = true)
    (balanced : bracket.isBalanced = true) :
    Backtrack.ofText? (rowImage [bracket]) =
      if (Regex.seq (patternRegexes false false [bracket])).isCompilable then
        some (.plain (.seq (patternRegexes false false [bracket])))
      else none := by
  have enough : 4 * (rowImage [bracket]).length + 8 = 4 * (rowImage [bracket]).length + 2 + 6 := rfl
  have read : Backtrack.Reader.read? (rowImage [bracket]) =
      some (.concat [.condition .textStart, .set (.one (bracket.set .exact)),
        .condition .textEnd], 0) := by
    rw [Backtrack.Reader.read?, enough, alternatives_bracket apart balanced]
    rfl
  rw [Backtrack.ofText?, read]
  rfl

/-! ### Patterns -/

namespace Bracket

/-- The pattern that ties a bracket to both ends of the text. -/
def body (bracket : Bracket) : List Char := '^' :: (bracket.text ++ ['$'])

def source (bracket : Bracket) : String := String.ofList bracket.body

/-- The body of one bracket is translated to the image of a row. -/
theorem engineText_body (engine : Engine) (bracket : Bracket) :
    engineText engine bracket.body = rowImage [bracket] := by
  have start : translated engine false bracket.body =
      '^' :: translated engine false (bracket.text ++ ['$']) := translated_cons (by decide)
  have ending : translated engine false ['$'] = ['$'] := rfl
  show translated engine false bracket.body = _
  rw [start, Bracket.translated_text, ending, rowImage, List.flatMap_singleton]

/-- Whether the engine for a bracket takes each item for what it stands for. -/
def keepsMeaning (bracket : Bracket) : Bool :=
  bracket.readsApart && (engineFor bracket.body == .linear || bracket.isBalanced)

/-- The search that both engines make of a bracket that keeps its meaning. -/
def matcher (bracket : Bracket) : Matcher :=
  let regex := Regex.seq (patternRegexes false false [bracket])
  match engineFor bracket.body with
  | .linear => .linear regex
  | .backtracking => .backtracking (.plain regex)

/-- Both engines make the matcher of the bracket, if it is small. -/
theorem matcher?_body {bracket : Bracket} (keeps : bracket.keepsMeaning = true) :
    Parts.matcher? ⟨bracket.body, []⟩ =
      if (Regex.seq (patternRegexes false false [bracket])).isCompilable then
        some bracket.matcher else none := by
  rw [keepsMeaning, Bool.and_eq_true, Bool.or_eq_true, beq_iff_eq] at keeps
  obtain ⟨apart, engine⟩ := keeps
  have single : ∀ other ∈ [bracket], other.readsApart = true := by simpa using apart
  have effective : Parts.effective ⟨bracket.body, []⟩ = rowImage [bracket] :=
    engineText_body _ bracket
  rw [Parts.matcher?, effective, matcher]
  dsimp only
  cases known : engineFor bracket.body with
  | linear =>
      have read := ofText?_patternImage false false single
      rw [show patternImage false false [bracket] = rowImage [bracket] from rfl] at read
      dsimp only
      rw [read]
      split <;> rfl
  | backtracking =>
      have balanced : bracket.isBalanced = true :=
        engine.resolve_left (by rw [known]; decide)
      dsimp only
      rw [ofText?_bracket apart balanced]
      split <;> rfl

/-- The body alone is a source without flags. -/
theorem ofSource_body (bracket : Bracket) : Parts.ofSource bracket.body = ⟨bracket.body, []⟩ := by
  have bare : Parts.delimited? bracket.body = none := by
    unfold Parts.delimited?
    dsimp only
    split
    · next same _ => exact absurd (List.cons.inj same).1 (by decide)
    · rfl
  rw [Parts.ofSource, bare, Option.getD_none]

/-- The matcher accepts a text of one character of the bracket. -/
theorem isMatch_matcher (bracket : Bracket) (text : List Char) :
    bracket.matcher.isMatch text = true ↔
      ∃ char, text = [char] ∧ bracket.contains char = true := by
  have same : bracket.matcher.isMatch text =
      (Regex.seq (patternRegexes false false [bracket])).isMatch text := by
    rw [matcher]
    split <;> rfl
  rw [same, isMatch_patternRegexes, List.forall₂_cons_left_iff]
  simp only [List.forall₂_nil_left_iff]
  constructor
  · rintro ⟨char, _, member, rfl, rfl⟩
    exact ⟨char, rfl, bracket.contains_set char ▸ member⟩
  · rintro ⟨char, rfl, member⟩
    exact ⟨char, [], (bracket.contains_set char).trans member, rfl, rfl⟩

/-- A bracket takes room for its items. -/
theorem setsCost_le (bracket : Bracket) :
    setsCost .exact [bracket] ≤ 5640 * bracket.items.length + 8000 := by
  have cost := Regex.CharSet.leafCost_le (bracket.set .exact)
  have few := Nat.le_trans (Regex.CharSet.length_codeRanges_le (bracket.set .exact))
    bracket.spans_set_le
  rw [setsCost, List.map_singleton, List.sum_singleton]
  omega

/--
A bracket that keeps its meaning is compiled unless it is very long, and then it matches the texts
of one character that is in it.
-/
theorem isMatch_bracket_iff {bracket : Bracket} (keeps : bracket.keepsMeaning = true) :
    (bracket.items.length ≤ 1800 → ∃ pattern, ofSource? bracket.source = some pattern) ∧
      ∀ pattern, ofSource? bracket.source = some pattern → ∀ text : String,
        pattern.isMatch text = true ↔
          ∃ char, text.toList = [char] ∧ bracket.contains char = true := by
  have found := matcher?_body keeps
  rw [source, ofSource?, String.toList_ofList, ofSource_body]
  constructor
  · intro short
    have cost := bracket.setsCost_le
    have room : 5640 * 1800 + 8000 + 336 ≤ Regex.Footprint.limit := by decide
    have compiled : (Regex.seq (patternRegexes false false [bracket])).isCompilable = true :=
      isCompilable_patternRegexes (show setsCost .exact [bracket] + 336 ≤ _ by omega)
    rw [compiled, if_pos rfl] at found
    exact ⟨_, congrArg (Option.map _) found⟩
  · intro pattern read text
    obtain ⟨matcher, made, rfl⟩ := Option.map_eq_some_iff.mp read
    rw [found] at made
    split at made
    · obtain rfl := Option.some.inj made
      exact bracket.isMatch_matcher text.toList
    · exact absurd made (by simp)

/-- A bracket that holds the start of a look-ahead, so that it is left to backtracking. -/
def lookAhead : Bracket :=
  ⟨true, [.literal '(' rfl, .literal '?' rfl, .literal '=' rfl, .shorthand ⟨false, .digit⟩, .hyphen],
    by decide, by decide⟩

/-- A bracket with the mark of a look-ahead in it keeps its meaning. -/
theorem isMatch_lookAhead_iff :
    ∃ pattern, ofSource? "^[^(?=\\d-]$" = some pattern ∧ ∀ text : String,
      pattern.isMatch text = true ↔
        ∃ char, text.toList = [char] ∧ lookAhead.contains char = true := by
  have source : lookAhead.source = "^[^(?=\\d-]$" := by decide
  obtain ⟨parses, matched⟩ := isMatch_bracket_iff (show lookAhead.keepsMeaning = true by decide)
  obtain ⟨pattern, read⟩ := parses (by decide)
  exact ⟨pattern, source ▸ read, matched pattern read⟩

/-- A bracket that stands for itself in ECMAScript, and opens a class of its own for the engines. -/
def openBracket : Bracket := ⟨false, [.literal '[' rfl], by decide, by decide⟩

/-- A bracket in a bracket is refused. -/
theorem ofSource?_openBracket :
    openBracket.source = "^[[]$" ∧ ofSource? "^[[]$" = none := by
  decide +kernel

end Bracket

end TypedJson.Pattern
