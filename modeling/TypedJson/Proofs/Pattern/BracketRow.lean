import TypedJson.Proofs.Pattern.BracketSet

namespace TypedJson.Pattern

open TypedJson.Regex (CharSet Expression Flags)
open TypedJson.Regex.Reader (Memory alternatives)
open TypedJson.Regex.Reader renaming sequence → readSequence

/-- The texts that an engine reads for brackets, between the marks of both ends. -/
def rowImage (brackets : List Bracket) : List Char :=
  '^' :: (brackets.flatMap (Bracket.image true) ++ ['$'])

/-- What such a text is read as. -/
def rowItems (brackets : List Bracket) : List Expression :=
  .anchor .lineStart :: (brackets.map fun bracket => .set (bracket.expression true)) ++
    [.anchor .lineEnd]

/-- Several items are a row. -/
theorem ofConcat_many {items : List Expression} (many : 1 < items.length) :
    Expression.ofConcat items = .concat items :=
  match items, many with
  | _ :: _ :: _, _ => rfl

/-- A row has its brackets and two marks. -/
theorem length_rowItems (brackets : List Bracket) :
    (rowItems brackets).length = brackets.length + 2 := by
  simp [rowItems]

section Reading

variable {fuel : Nat} {memory : Memory} {done : List Expression} {rest : List Char}

/-- A bracket in a row is read as its set. -/
theorem sequence_bracket (byCode : Bool) {bracket : Bracket} (apart : bracket.readsApart = true)
    (plain : memory.extended = false) :
    readSequence (fuel + 1) memory done (bracket.image byCode ++ rest) =
      readSequence fuel memory (.set (bracket.expression byCode) :: done) rest := by
  have shape : bracket.image byCode ++ rest =
      '[' :: (negation bracket.negated ++ BracketItem.follow byCode bracket.items rest) := by
    simp [Bracket.image, BracketItem.follow]
  rw [shape]
  simp only [readSequence, plain, Regex.Reader.skip, Bool.false_eq_true, if_false,
    bracketClass_image byCode apart rest]
  rfl

/-- Brackets in a row are read one by one. -/
theorem sequence_brackets {brackets : List Bracket}
    (apart : ∀ bracket ∈ brackets, bracket.readsApart = true) (plain : memory.extended = false) :
    readSequence (fuel + brackets.length) memory done
        (brackets.flatMap (Bracket.image true) ++ rest) =
      readSequence fuel memory
        ((brackets.map fun bracket => .set (bracket.expression true)).reverse ++ done) rest := by
  induction brackets generalizing done with
  | nil => rfl
  | cons bracket others ih =>
      rw [List.flatMap_cons, List.append_assoc, List.length_cons, ← Nat.add_assoc,
        sequence_bracket true (apart bracket List.mem_cons_self) plain,
        ih fun other later => apart other (List.mem_cons_of_mem _ later)]
      simp

/-- The marks of both ends are read as conditions. -/
theorem sequence_anchor {mark : Char} {kind : Regex.Anchor}
    (known : mark = '^' ∧ kind = .lineStart ∨ mark = '$' ∧ kind = .lineEnd)
    (plain : memory.extended = false) :
    readSequence (fuel + 1) memory done (mark :: rest) =
      readSequence fuel memory (.anchor kind :: done) rest := by
  obtain ⟨rfl, rfl⟩ | ⟨rfl, rfl⟩ := known
  · rw [sequence_simple plain (by decide)]
    rfl
  · rw [sequence_simple plain (by decide)]
    rfl

/-- A row is read up to its end. -/
theorem sequence_row {brackets : List Bracket}
    (apart : ∀ bracket ∈ brackets, bracket.readsApart = true) (plain : memory.extended = false)
    (ends : rest = [] ∨ ∃ after, rest = ')' :: after) :
    readSequence (fuel + brackets.length + 3) memory done (rowImage brackets ++ rest) =
      some (.ofConcat (done.reverse ++ rowItems brackets), memory, rest) := by
  have last (done : List Expression) : readSequence (fuel + 1) memory done rest =
      some (.ofConcat done.reverse, memory, rest) := by
    obtain rfl | ⟨after, rfl⟩ := ends
    · simp [readSequence, plain, Regex.Reader.skip]
    · exact sequence_close plain
  have first : fuel + brackets.length + 3 = fuel + 1 + 1 + brackets.length + 1 := by omega
  rw [rowImage, List.cons_append, first, sequence_anchor (.inl ⟨rfl, rfl⟩) plain,
    List.append_assoc, sequence_brackets apart plain, List.singleton_append,
    sequence_anchor (.inr ⟨rfl, rfl⟩) plain, last]
  simp [rowItems]

/-- The flag for case before a row. -/
theorem sequence_caseFlag (plain : memory.extended = false) :
    readSequence (fuel + 1) memory done ("(?i)".toList ++ rest) =
      readSequence fuel memory (.flags [(.caseInsensitive, true)] :: done) rest := by
  obtain ⟨extended, opened, names⟩ := memory
  obtain rfl : extended = false := plain
  rfl

/-- A row in a group that is tied to the start of the text. -/
theorem sequence_tied {brackets : List Bracket}
    (apart : ∀ bracket ∈ brackets, bracket.readsApart = true) (plain : memory.extended = false) :
    readSequence (fuel + brackets.length + 6) memory done
        ("\\A(?:".toList ++ rowImage brackets ++ [')']) =
      some (.ofConcat (done.reverse ++ [.anchor .textStart, .group [] (.concat (rowItems brackets))]),
        memory, []) := by
  have start (fuel : Nat) (rest : List Char) :
      readSequence (fuel + 1) memory done ('\\' :: 'A' :: rest) =
        readSequence fuel memory (.anchor .textStart :: done) rest := by
    rw [sequence_simple plain (by decide)]
    rfl
  have inner (fuel : Nat) : alternatives (fuel + brackets.length + 4) memory []
      (rowImage brackets ++ [')']) = some (.concat (rowItems brackets), memory, [')']) := by
    have row : readSequence (fuel + brackets.length + 3) memory [] (rowImage brackets ++ [')']) =
        some (.concat (rowItems brackets), memory, [')']) := by
      rw [sequence_row apart plain (.inr ⟨[], rfl⟩), List.reverse_nil, List.nil_append,
        ofConcat_many (by rw [length_rowItems]; omega)]
    rw [alternatives, row]
    rfl
  have shape : "\\A(?:".toList ++ rowImage brackets ++ [')'] =
      '\\' :: 'A' :: '(' :: '?' :: ':' :: (rowImage brackets ++ [')']) := rfl
  have last (done : List Expression) : readSequence (fuel + brackets.length + 4) memory done [] =
      some (.ofConcat done.reverse, memory, []) := by
    simp [readSequence, plain, Regex.Reader.skip]
  rw [shape, start, readSequence]
  simp only [plain, Regex.Reader.skip, Bool.false_eq_true, if_false, opening_group plain, inner]
  rw [← plain, last]
  simp

/-- What a whole pattern of brackets is read as. -/
def patternItems (ignoreCase sticky : Bool) (brackets : List Bracket) : List Expression :=
  flagItems ⟨ignoreCase, false⟩ ++
    if sticky then [.anchor .textStart, .group [] (.concat (rowItems brackets))]
    else rowItems brackets

/-- The text that the engine reads for a row under some flags. -/
def patternImage (ignoreCase sticky : Bool) (brackets : List Bracket) : List Char :=
  flagText ⟨ignoreCase, false⟩ ++
    if sticky then "\\A(?:".toList ++ rowImage brackets ++ [')'] else rowImage brackets

/-- The image of a pattern is read as its items. -/
theorem alternatives_patternImage (ignoreCase sticky : Bool) {brackets : List Bracket}
    (apart : ∀ bracket ∈ brackets, bracket.readsApart = true) (plain : memory.extended = false) :
    alternatives (fuel + brackets.length + 8) memory [] (patternImage ignoreCase sticky brackets) =
      some (.concat (patternItems ignoreCase sticky brackets), memory, []) := by
  have body (fuel : Nat) (done : List Expression) :
      readSequence (fuel + brackets.length + 6) memory done
        (if sticky then "\\A(?:".toList ++ rowImage brackets ++ [')'] else rowImage brackets) =
      some (.ofConcat (done.reverse ++ if sticky then
        [.anchor .textStart, .group [] (.concat (rowItems brackets))] else rowItems brackets),
        memory, []) := by
    cases sticky with
    | true => exact sequence_tied apart plain
    | false =>
        have size : fuel + brackets.length + 6 = fuel + 3 + brackets.length + 3 := by omega
        have row : readSequence (fuel + 3 + brackets.length + 3) memory done
            (rowImage brackets ++ []) = some (.ofConcat (done.reverse ++ rowItems brackets),
              memory, []) := sequence_row apart plain (.inl rfl)
        rw [size, ← List.append_nil (if false then _ else _)]
        exact row
  have many : 1 < (patternItems ignoreCase sticky brackets).length := by
    cases sticky <;> simp [patternItems, length_rowItems]
    omega
  have whole : readSequence (fuel + brackets.length + 7) memory []
      (patternImage ignoreCase sticky brackets) =
        some (.concat (patternItems ignoreCase sticky brackets), memory, []) := by
    rw [← ofConcat_many many]
    cases ignoreCase with
    | true => exact (sequence_caseFlag plain).trans (body fuel [.flags [(.caseInsensitive, true)]])
    | false =>
        have size : fuel + brackets.length + 7 = fuel + 1 + brackets.length + 6 := by omega
        rw [size]
        exact body (fuel + 1) []
  rw [alternatives, whole]
  rfl

end Reading

/-! ### Depth -/

/-- Items of a class nest as deeply as the deepest. -/
theorem classDepthItems_le {items : List Regex.ClassExpression} {bound : Nat}
    (small : ∀ item ∈ items, item.depth ≤ bound) :
    Regex.ClassExpression.depthItems items ≤ bound := by
  induction items with
  | nil => exact Nat.zero_le _
  | cons item rest ih =>
      exact Nat.max_le.mpr ⟨small item List.mem_cons_self,
        ih fun other later => small other (List.mem_cons_of_mem _ later)⟩

/-- A class nests one deeper than its items. -/
theorem depth_ofItems_le {items : List Regex.ClassExpression} {bound : Nat}
    (small : ∀ item ∈ items, item.depth ≤ bound) :
    (Regex.ClassExpression.ofItems items).depth ≤ bound + 1 := by
  match items with
  | [] => exact Nat.zero_le _
  | [item] => exact Nat.le_succ_of_le (small item List.mem_cons_self)
  | item :: next :: rest => exact Nat.succ_le_succ (classDepthItems_le small)

/-- An item nests at most twice. -/
theorem BracketItem.depth_le {byCode : Bool} {item : BracketItem}
    {expression : Regex.ClassExpression} (inside : expression ∈ item.expressions byCode) :
    expression.depth ≤ 2 := by
  cases item with
  | shorthand escape =>
      obtain ⟨negated, kind⟩ := escape
      revert expression
      cases negated <;> cases kind <;>
        simp [expressions, AsciiKind.items, digitItems, wordItems,
          Regex.ClassExpression.ofItems, Regex.ClassExpression.depth,
          Regex.ClassExpression.depthItems]
  | _ =>
      obtain rfl := List.mem_singleton.mp inside
      exact Nat.zero_le _

/-- A bracket nests at most four times. -/
theorem Bracket.depth_le (byCode : Bool) (bracket : Bracket) :
    (bracket.expression byCode).depth ≤ 4 := by
  apply Nat.succ_le_succ
  apply depth_ofItems_le
  intro expression inside
  obtain ⟨item, -, here⟩ := List.mem_flatMap.mp inside
  exact BracketItem.depth_le here

/-- Items nest as deeply as the deepest. -/
theorem depthItems_le {items : List Expression} {bound : Nat}
    (small : ∀ item ∈ items, item.depth ≤ bound) : Expression.depthItems items ≤ bound := by
  induction items with
  | nil => exact Nat.zero_le _
  | cons item rest ih =>
      exact Nat.max_le.mpr ⟨small item List.mem_cons_self,
        ih fun other later => small other (List.mem_cons_of_mem _ later)⟩

/-- The items of a row nest at most four times. -/
theorem depth_rowItems_le {brackets : List Bracket} :
    ∀ item ∈ rowItems brackets, item.depth ≤ 4 := by
  intro item inside
  simp only [rowItems, List.cons_append, List.mem_cons, List.mem_append, List.mem_map,
    List.not_mem_nil, or_false] at inside
  obtain rfl | ⟨bracket, -, rfl⟩ | rfl := inside
  · exact Nat.zero_le _
  · exact bracket.depth_le true
  · exact Nat.zero_le _

/-- A pattern of brackets nests at most seven times. -/
theorem depth_patternItems_le (ignoreCase sticky : Bool) (brackets : List Bracket) :
    (Expression.concat (patternItems ignoreCase sticky brackets)).depth ≤ 7 := by
  apply Nat.succ_le_succ
  apply depthItems_le
  intro item inside
  obtain flag | body := List.mem_append.mp inside
  · cases ignoreCase with
    | false => exact absurd flag List.not_mem_nil
    | true =>
        obtain rfl := List.mem_singleton.mp flag
        exact Nat.zero_le _
  · cases sticky with
    | false => exact Nat.le_trans (depth_rowItems_le item body) (by decide)
    | true =>
        obtain rfl | last := List.mem_cons.mp body
        · exact Nat.zero_le _
        · obtain rfl := List.mem_singleton.mp last
          exact Nat.succ_le_succ (Nat.succ_le_succ (depthItems_le depth_rowItems_le))

/-- A pattern is at least as long as its row. -/
theorem length_patternImage_le (ignoreCase sticky : Bool) (brackets : List Bracket) :
    brackets.length + 2 ≤ (patternImage ignoreCase sticky brackets).length := by
  have images : brackets.length ≤ (brackets.flatMap (Bracket.image true)).length := by
    induction brackets with
    | nil => exact Nat.le_refl _
    | cons bracket others ih =>
        have one : 1 ≤ (bracket.image true).length := by simp [Bracket.image]
        rw [List.flatMap_cons, List.length_append, List.length_cons]
        omega
  have row : brackets.length + 2 ≤ (rowImage brackets).length := by
    rw [rowImage, List.length_cons, List.length_append, List.length_singleton]
    omega
  cases sticky with
  | false =>
      rw [patternImage, List.length_append]
      exact Nat.le_add_left_of_le row
  | true =>
      rw [patternImage, List.length_append]
      refine Nat.le_add_left_of_le ?_
      simp only [if_true, List.length_append]
      omega

/-- A row of brackets under some flags is read as what it says. -/
theorem read?_patternImage (ignoreCase sticky : Bool) {brackets : List Bracket}
    (apart : ∀ bracket ∈ brackets, bracket.readsApart = true) :
    Regex.Reader.read? (patternImage ignoreCase sticky brackets) =
      some (.concat (patternItems ignoreCase sticky brackets)) := by
  have long := length_patternImage_le ignoreCase sticky brackets
  obtain ⟨fuel, enough⟩ : ∃ fuel, 3 * (patternImage ignoreCase sticky brackets).length + 6 =
      fuel + brackets.length + 8 :=
    ⟨3 * (patternImage ignoreCase sticky brackets).length + 6 - (brackets.length + 8), by omega⟩
  have shallow := depth_patternItems_le ignoreCase sticky brackets
  rw [Regex.Reader.read?, enough, alternatives_patternImage ignoreCase sticky apart rfl]
  exact if_pos (Nat.le_trans shallow (by decide))

/-! ### Meaning -/

/-- The expression of a row: one character of each set, and both ends of the text. -/
def rowRegexes (rules : Rules) (brackets : List Bracket) : List Regex :=
  .look .textStart :: (brackets.map fun bracket => .one (bracket.set rules)) ++ [.look .textEnd]

def patternRegexes (ignoreCase sticky : Bool) (brackets : List Bracket) : List Regex :=
  (if ignoreCase then [.empty] else []) ++
    if sticky then [.look .textStart, .seq (rowRegexes ⟨ignoreCase, false⟩ brackets)]
    else rowRegexes ⟨ignoreCase, false⟩ brackets

/-- The items of a row mean the expressions of the row. -/
theorem meanings_rowItems (ignoreCase : Bool) (brackets : List Bracket) :
    Expression.meanings (Rules.flags ⟨ignoreCase, false⟩) (rowItems brackets) =
      some (rowRegexes ⟨ignoreCase, false⟩ brackets, Rules.flags ⟨ignoreCase, false⟩) := by
  have sets : Expression.meanings (Rules.flags ⟨ignoreCase, false⟩)
      (brackets.map fun bracket => .set (bracket.expression true)) =
        some (brackets.map fun bracket => .one (bracket.set ⟨ignoreCase, false⟩),
          Rules.flags ⟨ignoreCase, false⟩) := by
    induction brackets with
    | nil => rfl
    | cons bracket others ih =>
        simp only [List.map_cons, Expression.meanings, Expression.meaning,
          bracket.meaning_expression, Option.map_some, ih, Option.bind_eq_bind, Option.bind_some,
          Option.pure_def]
  have start : Expression.meanings (Rules.flags ⟨ignoreCase, false⟩) [.anchor .lineStart] =
      some ([.look .textStart], Rules.flags ⟨ignoreCase, false⟩) := rfl
  exact meanings_append' (meanings_append' start sets) rfl

/-- A pattern of brackets means the expressions of its row, after its flags. -/
theorem meaning_patternItems (ignoreCase sticky : Bool) (brackets : List Bracket) :
    (Expression.concat (patternItems ignoreCase sticky brackets)).meaning .standard =
      some (.seq (patternRegexes ignoreCase sticky brackets),
        Rules.flags ⟨ignoreCase, false⟩) := by
  have flag : Expression.meanings .standard (flagItems ⟨ignoreCase, false⟩) =
      some (if ignoreCase then [.empty] else [], Rules.flags ⟨ignoreCase, false⟩) := by
    cases ignoreCase <;> rfl
  have row := meanings_rowItems ignoreCase brackets
  have body : Expression.meanings (Rules.flags ⟨ignoreCase, false⟩) (if sticky then
      [.anchor .textStart, .group [] (.concat (rowItems brackets))] else rowItems brackets) =
        some (if sticky then
          [.look .textStart, .seq (rowRegexes ⟨ignoreCase, false⟩ brackets)]
          else rowRegexes ⟨ignoreCase, false⟩ brackets, Rules.flags ⟨ignoreCase, false⟩) := by
    cases sticky with
    | false => exact row
    | true =>
        simp [Expression.meanings, Expression.meaning, Flags.setAll, row, Regex.Anchor.condition]
  have whole := meanings_append' flag body
  simp only [Expression.meaning, patternItems, whole, Option.bind_eq_bind, Option.bind_some,
    Option.pure_def]
  rfl

/-! ### Size -/

/-- A bound for the bytes of the sets of a row. -/
def setsCost (rules : Rules) (brackets : List Bracket) : Nat :=
  (brackets.map fun bracket =>
    (Regex.Shape.ofRanges (bracket.set rules).charRanges).leafCost).sum

/-- The expressions of a row are sets and conditions. -/
theorem isLeaf_of_mem_rowRegexes {rules : Rules} {brackets : List Bracket} :
    ∀ item ∈ rowRegexes rules brackets, item.shape.isLeaf = true := by
  intro item inside
  simp only [rowRegexes, List.cons_append, List.mem_cons, List.mem_append, List.mem_map,
    List.not_mem_nil, or_false] at inside
  obtain rfl | ⟨bracket, -, rfl⟩ | rfl := inside
  · rw [Regex.shape]
    rfl
  · rw [Regex.shape]
    exact Regex.Shape.isLeaf_ofRanges _
  · rw [Regex.shape]
    rfl

/-- A row takes the room of its sets and of two marks. -/
theorem rowCost_rowRegexes (rules : Rules) (brackets : List Bracket) :
    ((rowRegexes rules brackets).map fun item => item.shape.rowCost).sum =
      setsCost rules brackets + 64 := by
  have look (condition : Regex.Look) : (Regex.look condition).shape.rowCost = 32 := by
    rw [Regex.shape]
    exact Regex.Shape.rowCost_leaf rfl
  have sets : ((brackets.map fun bracket => Regex.one (bracket.set rules)).map
      fun item => item.shape.rowCost).sum = setsCost rules brackets := by
    rw [setsCost, List.map_map]
    congr 1
    apply List.map_congr_left
    intro bracket _
    show (Regex.one (bracket.set rules)).shape.rowCost = _
    rw [Regex.shape, Regex.Shape.rowCost_leaf (Regex.Shape.isLeaf_ofRanges _)]
  rw [rowRegexes, List.map_append, List.sum_append, List.map_cons, List.sum_cons, sets, look,
    List.map_singleton, List.sum_singleton, look]
  omega

/-- Expressions have their shapes one by one. -/
theorem shapes_eq_map (items : List Regex) : Regex.shapes items = items.map Regex.shape := by
  induction items with
  | nil => rfl
  | cons item rest ih => rw [Regex.shapes, List.map_cons, ih]

/-- A pattern of brackets is compiled if its sets are small. -/
theorem isCompilable_patternRegexes {ignoreCase sticky : Bool} {brackets : List Bracket}
    (small : setsCost ⟨ignoreCase, false⟩ brackets + 336 ≤ Regex.Footprint.limit) :
    (Regex.seq (patternRegexes ignoreCase sticky brackets)).isCompilable = true := by
  have rows : ∀ item ∈ rowRegexes ⟨ignoreCase, false⟩ brackets, item.shape.IsRow :=
    fun item inside => Regex.Shape.isRow_leaf (isLeaf_of_mem_rowRegexes item inside)
  have shapes : ∀ shape ∈ Regex.shapes (rowRegexes ⟨ignoreCase, false⟩ brackets),
      shape.IsRow := by
    rw [shapes_eq_map]
    simpa using rows
  have cost := rowCost_rowRegexes ⟨ignoreCase, false⟩ brackets
  have whole : (Regex.seq (rowRegexes ⟨ignoreCase, false⟩ brackets)).shape.IsRow ∧
      (Regex.seq (rowRegexes ⟨ignoreCase, false⟩ brackets)).shape.rowCost =
        setsCost ⟨ignoreCase, false⟩ brackets + 64 := by
    rw [Regex.shape]
    refine ⟨Regex.Shape.isRow_ofRow shapes, ?_⟩
    rw [Regex.Shape.rowCost_ofRow shapes, shapes_eq_map, List.map_map, ← cost]
    rfl
  have empty : Regex.empty.shape.IsRow ∧ Regex.empty.shape.rowCost = 0 := by
    rw [Regex.shape]
    exact ⟨fun leaf inside => absurd inside List.not_mem_nil, rfl⟩
  have start : (Regex.look .textStart).shape.IsRow ∧
      (Regex.look .textStart).shape.rowCost = 32 := by
    rw [Regex.shape]
    exact ⟨Regex.Shape.isRow_leaf rfl, Regex.Shape.rowCost_leaf rfl⟩
  apply Regex.isCompilable_seq
  · intro item inside
    obtain flag | body := List.mem_append.mp inside
    · cases ignoreCase with
      | false => exact absurd flag List.not_mem_nil
      | true =>
          obtain rfl := List.mem_singleton.mp flag
          exact empty.1
    · cases sticky with
      | false => exact rows item body
      | true =>
          obtain rfl | last := List.mem_cons.mp body
          · exact start.1
          · obtain rfl := List.mem_singleton.mp last
            exact whole.1
  · have flag : ((if ignoreCase then [Regex.empty] else []).map
        fun item => item.shape.rowCost).sum = 0 := by
      cases ignoreCase <;> simp [empty.2]
    rw [patternRegexes, List.map_append, List.sum_append, flag]
    cases sticky with
    | false =>
        show 0 + ((rowRegexes ⟨ignoreCase, false⟩ brackets).map _).sum + 240 ≤ _
        omega
    | true =>
        simp only [if_true, List.map_cons, List.map_nil, List.sum_cons, List.sum_nil, start.2,
          whole.2]
        omega

/-! ### Matches -/

/-- One character of each set up to the end of the text. -/
theorem matchesRow_sets {text : List Char} (sets : List CharSet) {first : Nat}
    (inside : first ≤ text.length) (last : Nat) :
    Regex.MatchesRow text (sets.map .one ++ [.look .textEnd]) first last ↔
      last = text.length ∧
        List.Forall₂ (fun set char => CharSet.contains set char = true) sets (text.drop first) := by
  induction sets generalizing first with
  | nil =>
      simp only [List.map_nil, List.nil_append, Regex.MatchesRow, Regex.Matches,
        Regex.Look.holdsAt_textEnd, List.forall₂_nil_left_iff, List.drop_eq_nil_iff]
      constructor
      · rintro ⟨middle, ⟨past, rfl⟩, rfl⟩
        exact ⟨Nat.le_antisymm inside past, past⟩
      · rintro ⟨rfl, past⟩
        exact ⟨first, ⟨past, rfl⟩, Nat.le_antisymm inside past⟩
  | cons set rest ih =>
      rw [List.map_cons, List.cons_append, Regex.MatchesRow]
      by_cases more : first < text.length
      · have there : text[first]? = some text[first] := List.getElem?_eq_getElem more
        have next : text.drop first = text[first] :: text.drop (first + 1) :=
          List.drop_eq_getElem_cons more
        rw [next, List.forall₂_cons]
        simp only [Regex.Matches, there, Option.some.injEq]
        constructor
        · rintro ⟨middle, ⟨⟨char, rfl, member⟩, rfl⟩, others⟩
          obtain ⟨ends, row⟩ := (ih more).mp others
          exact ⟨ends, member, row⟩
        · rintro ⟨ends, member, row⟩
          exact ⟨first + 1, ⟨⟨_, rfl, member⟩, rfl⟩, (ih more).mpr ⟨ends, row⟩⟩
      · have none : text[first]? = none := List.getElem?_eq_none (Nat.le_of_not_lt more)
        have empty : text.drop first = [] := List.drop_eq_nil_iff.mpr (Nat.le_of_not_lt more)
        simp [Regex.Matches, none, empty]

/-- The start of the text is at its first place. -/
theorem matches_textStart {text : List Char} {first last : Nat} (inside : first ≤ text.length) :
    Regex.Matches text (.look .textStart) first last ↔ first = 0 ∧ last = 0 := by
  have starts : MayStart true text first ↔ (true = true → first = 0) := mayStart_iff inside
  simp only [MayStart, forall_const] at starts
  simp only [Regex.Matches, starts]
  constructor
  · rintro ⟨rfl, rfl⟩
    exact ⟨rfl, rfl⟩
  · rintro ⟨rfl, rfl⟩
    exact ⟨rfl, rfl⟩

/-- A row matches a whole text with one character of each bracket. -/
theorem matchesRow_rowRegexes {text : List Char} {rules : Rules} {brackets : List Bracket}
    {first last : Nat} (inside : first ≤ text.length) :
    Regex.MatchesRow text (rowRegexes rules brackets) first last ↔
      first = 0 ∧ last = text.length ∧
        List.Forall₂ (fun bracket char => (Bracket.set rules bracket).contains char = true)
          brackets text := by
  have sets := matchesRow_sets (brackets.map (Bracket.set rules)) (Nat.zero_le text.length) last
  rw [List.map_map, List.forall₂_map_left_iff, List.drop_zero] at sets
  rw [← sets, rowRegexes, List.cons_append, Regex.MatchesRow]
  simp only [matches_textStart inside]
  constructor
  · rintro ⟨middle, ⟨starts, rfl⟩, row⟩
    exact ⟨starts, row⟩
  · rintro ⟨starts, row⟩
    exact ⟨0, ⟨starts, rfl⟩, row⟩

/-- A row of brackets matches the texts with one character of each. -/
theorem isMatch_patternRegexes (ignoreCase sticky : Bool) (brackets : List Bracket)
    (text : List Char) :
    (Regex.seq (patternRegexes ignoreCase sticky brackets)).isMatch text = true ↔
      List.Forall₂ (fun bracket char =>
        (Bracket.set ⟨ignoreCase, false⟩ bracket).contains char = true) brackets text := by
  have tied {first last : Nat} (inside : first ≤ text.length) :
      Regex.MatchesRow text (if sticky then
        [.look .textStart, .seq (rowRegexes ⟨ignoreCase, false⟩ brackets)]
        else rowRegexes ⟨ignoreCase, false⟩ brackets) first last ↔
      Regex.MatchesRow text (rowRegexes ⟨ignoreCase, false⟩ brackets) first last := by
    cases sticky with
    | false => exact Iff.rfl
    | true =>
        simp only [if_true, Regex.MatchesRow]
        constructor
        · rintro ⟨_, start, _, row, rfl⟩
          obtain ⟨rfl, rfl⟩ := (matches_textStart inside).mp start
          rwa [Regex.Matches] at row
        · intro row
          obtain ⟨rfl, -⟩ := (matchesRow_rowRegexes inside).mp row
          refine ⟨0, (matches_textStart inside).mpr ⟨rfl, rfl⟩, last, ?_, rfl⟩
          rwa [Regex.Matches]
  have row {first last : Nat} (inside : first ≤ text.length) :
      Regex.Matches text (.seq (patternRegexes ignoreCase sticky brackets)) first last ↔
        Regex.MatchesRow text (rowRegexes ⟨ignoreCase, false⟩ brackets) first last := by
    rw [← tied inside]
    cases ignoreCase with
    | false => exact Iff.rfl
    | true => simp [Regex.Matches, patternRegexes, Regex.MatchesRow]
  rw [Regex.isMatch_iff_matches]
  constructor
  · rintro ⟨first, last, inside, matched⟩
    exact ((matchesRow_rowRegexes inside).mp ((row inside).mp matched)).2.2
  · intro members
    have start := Nat.zero_le text.length
    exact ⟨0, text.length, start,
      (row start).mpr ((matchesRow_rowRegexes start).mpr ⟨rfl, rfl, members⟩)⟩

/-- What the linear engine makes of a row of brackets. -/
theorem ofText?_patternImage (ignoreCase sticky : Bool) {brackets : List Bracket}
    (apart : ∀ bracket ∈ brackets, bracket.readsApart = true) :
    Regex.ofText? (patternImage ignoreCase sticky brackets) =
      if (Regex.seq (patternRegexes ignoreCase sticky brackets)).isCompilable then
        some (.seq (patternRegexes ignoreCase sticky brackets))
      else none := by
  simp only [Regex.ofText?, read?_patternImage ignoreCase sticky apart, Option.bind_eq_bind,
    Option.bind_some, meaning_patternItems, Option.pure_def]

end TypedJson.Pattern
