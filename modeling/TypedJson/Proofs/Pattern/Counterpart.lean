import TypedJson.Proofs.Pattern.BacktrackBody

namespace TypedJson.Pattern

open TypedJson.Backtrack (Expression)
open TypedJson.Backtrack.Expression (Regular)
open TypedJson.Regex (CharSet Look)

/-- The look-arounds of a boundary: one neighbour is to be a word character, and the other not. -/
def boundaryLooks (set : CharSet) (negated : Bool) : Expression :=
  let word := .set (.one set)
  .alternation
    [.concat [.lookAround true false word, .lookAround false (!negated) word],
      .concat [.lookAround true true word, .lookAround false negated word]]

/--
What the linear engine reads as a row and what the backtracking engine reads as one are built
alike. Rows and groups may stand inside of others on each side, and parts that match nothing may
stand anywhere. A boundary stands against the look-arounds for the word characters given.
-/
inductive Counterpart (groups : Nat) (word : Char → Bool) : List Regex → List Expression → Prop
  | nil : Counterpart groups word [] []
  | empty {regexes : List Regex} {expressions : List Expression}
      (rest : Counterpart groups word regexes expressions) :
      Counterpart groups word (.empty :: regexes) expressions
  | seq {items regexes : List Regex} {expressions : List Expression}
      (rest : Counterpart groups word (items ++ regexes) expressions) :
      Counterpart groups word (.seq items :: regexes) expressions
  | capture {index : Nat} {body : Regex} {regexes : List Regex} {expressions : List Expression}
      (rest : Counterpart groups word (body :: regexes) expressions) :
      Counterpart groups word (.group index body :: regexes) expressions
  | nothing {regexes : List Regex} {expressions : List Expression}
      (rest : Counterpart groups word regexes expressions) :
      Counterpart groups word regexes (.empty :: expressions)
  /-- The look-ahead that forces the backtracking engine on a body. -/
  | nothingAhead {regexes : List Regex} {expressions : List Expression}
      (rest : Counterpart groups word regexes expressions) :
      Counterpart groups word regexes (.lookAround false false .empty :: expressions)
  | concat {regexes : List Regex} {items expressions : List Expression}
      (rest : Counterpart groups word regexes (items ++ expressions)) :
      Counterpart groups word regexes (.concat items :: expressions)
  | group {index : Nat} {body : Expression} {regexes : List Regex} {expressions : List Expression}
      (known : index ≤ groups) (rest : Counterpart groups word regexes (body :: expressions)) :
      Counterpart groups word regexes (.group index body :: expressions)
  /-- The sets may be written in different ways. -/
  | one {set other : CharSet} {item : Expression} {regexes : List Regex}
      {expressions : List Expression} (plain : item.plain? = some (.one other))
      (same : ∀ char, set.contains char = other.contains char)
      (rest : Counterpart groups word regexes expressions) :
      Counterpart groups word (.one set :: regexes) (item :: expressions)
  | look {condition : Look} {regexes : List Regex} {expressions : List Expression}
      (free : condition.boundary? = none) (rest : Counterpart groups word regexes expressions) :
      Counterpart groups word (.look condition :: regexes) (.condition condition :: expressions)
  | boundary {condition : Look} {negated : Bool} {set : CharSet} {regexes : List Regex}
      {expressions : List Expression} (found : condition.boundary? = some negated)
      (words : set.contains = word) (rest : Counterpart groups word regexes expressions) :
      Counterpart groups word (.look condition :: regexes)
        (boundaryLooks set negated :: expressions)
  | alternatives {items regexes : List Regex} {others expressions : List Expression}
      (nonempty : others ≠ []) (size : items.length = others.length)
      (each : ∀ pair ∈ items.zip others, Counterpart groups word [pair.1] [pair.2])
      (rest : Counterpart groups word regexes expressions) :
      Counterpart groups word (.alt items :: regexes) (.alternation others :: expressions)
  /-- Which number of rounds is tried first makes no difference. -/
  | rounds {body : Regex} {other : Expression} {low : Nat} {high : Option Nat}
      {greedy prefersMore : Bool} {regexes : List Regex} {expressions : List Expression}
      (ordered : ∀ bound, high = some bound → low ≤ bound)
      (inner : Counterpart groups word [body] [other])
      (rest : Counterpart groups word regexes expressions) :
      Counterpart groups word (.rounds body low high greedy :: regexes)
        (.rounds other low high prefersMore :: expressions)

variable {groups : Nat} {word : Char → Bool} {text : List Char}

/-- A boundary as look-arounds is regular. -/
theorem regular_boundaryLooks (set : CharSet) (negated : Bool) :
    Regular groups (boundaryLooks set negated) := by
  have looks (behind none : Bool) :
      Regular groups (.lookAround behind none (.set (.one set))) :=
    .lookAround rfl (fun _ => rfl) (.set set)
  have row (noneBefore noneAfter : Bool) : Regular groups (.concat
      [.lookAround true noneBefore (.set (.one set)),
        .lookAround false noneAfter (.set (.one set))]) := by
    apply Regular.concat
    simp [looks]
  apply Regular.alternation (by simp)
  simp [row]

/-- Two look-arounds in a row test both neighbours of a position. -/
theorem matches_looks {set : CharSet} (words : set.contains = word) (noneBefore noneAfter : Bool)
    {first last : Nat} :
    Expression.Matches text (.concat [.lookAround true noneBefore (.set (.one set)),
        .lookAround false noneAfter (.set (.one set))]) first last ↔
      first = last ∧ (Regex.charBefore text.toArray first).any word = !noneBefore ∧
        text[first]?.any word = !noneAfter := by
  have look (behind none : Bool) (start stop : Nat) :
      Expression.Matches text (.lookAround behind none (.set (.one set))) start stop ↔
        start = stop ∧ (if behind then Regex.charBefore text.toArray start
          else text[start]?).any word = !none := by
    rw [← words]
    exact and_congr_right' (looks_one_iff behind none)
  rw [Expression.Matches, Expression.MatchesRow]
  simp only [Expression.MatchesRow, look, if_true, Bool.false_eq_true, if_false]
  constructor
  · rintro ⟨_, ⟨rfl, before⟩, _, ⟨rfl, after⟩, rfl⟩
    exact ⟨rfl, before, after⟩
  · rintro ⟨rfl, before, after⟩
    exact ⟨first, ⟨rfl, before⟩, first, ⟨rfl, after⟩, rfl⟩

/-- The look-arounds hold where the boundary is. -/
theorem matches_boundaryLooks {set : CharSet} (words : set.contains = word) (negated : Bool)
    {first last : Nat} : (boundaryLooks set negated).Matches text first last ↔
      BoundaryAt word negated text first ∧ first = last := by
  simp only [boundaryLooks]
  rw [Expression.Matches, Expression.MatchesChoice, Expression.MatchesChoice,
    Expression.MatchesChoice, matches_looks words, matches_looks words, BoundaryAt]
  cases (Regex.charBefore text.toArray first).any word <;>
    cases text[first]?.any word <;> cases negated <;> simp

/-- What is one set as an ordinary expression is regular. -/
theorem regular_of_plain?_one {item : Expression} {set : CharSet}
    (plain : item.plain? = some (.one set)) : Regular groups item := by
  cases item with
  | anyChar lineFeed => exact .anyChar lineFeed
  | literal char ignoreCase => exact .literal char ignoreCase
  | set regex =>
      obtain rfl := Option.some.inj plain
      exact .set set
  | rounds body low high greedy =>
      rw [Expression.plain?] at plain
      split at plain <;> simp at plain
  | _ => simp [Expression.plain?] at plain

namespace Counterpart

variable {regexes : List Regex} {expressions : List Expression}

/-- What has a counterpart is regular. -/
theorem regular (alike : Counterpart groups word regexes expressions) :
    ∀ expression ∈ expressions, Regular groups expression := by
  induction alike with
  | nil => simp
  | empty rest ih => exact ih
  | seq rest ih => exact ih
  | capture rest ih => exact ih
  | nothing rest ih => exact List.forall_mem_cons.mpr ⟨.empty, ih⟩
  | nothingAhead rest ih =>
      exact List.forall_mem_cons.mpr ⟨.lookAround rfl (fun _ => rfl) .empty, ih⟩
  | concat rest ih =>
      rw [List.forall_mem_append] at ih
      exact List.forall_mem_cons.mpr ⟨.concat ih.1, ih.2⟩
  | group known rest ih =>
      rw [List.forall_mem_cons] at ih
      exact List.forall_mem_cons.mpr ⟨.group known ih.1, ih.2⟩
  | one plain same rest ih =>
      exact List.forall_mem_cons.mpr ⟨regular_of_plain?_one plain, ih⟩
  | look free rest ih => exact List.forall_mem_cons.mpr ⟨.condition _, ih⟩
  | boundary found words rest ih =>
      exact List.forall_mem_cons.mpr ⟨regular_boundaryLooks _ _, ih⟩
  | alternatives nonempty size each rest eachIh ih =>
      refine List.forall_mem_cons.mpr ⟨.alternation nonempty fun other inside => ?_, ih⟩
      rw [← List.map_snd_zip (Nat.le_of_eq size.symm)] at inside
      obtain ⟨pair, paired, rfl⟩ := List.mem_map.mp inside
      exact eachIh pair paired pair.2 (List.mem_singleton.mpr rfl)
  | rounds ordered inner rest innerIh ih =>
      rw [List.forall_mem_singleton] at innerIh
      exact List.forall_mem_cons.mpr ⟨.rounds ordered innerIh, ih⟩

/-- What holds for rows of one item holds for the items. -/
theorem single_iff {regex : Regex} {expression : Expression} {first last : Nat}
    (same : Regex.MatchesRowBy (Look.HoldsUnder word text) text [regex] first last ↔
      Expression.MatchesRow text [expression] first last) :
    Regex.MatchesBy (Look.HoldsUnder word text) text regex first last ↔
      expression.Matches text first last := by
  simpa [Regex.MatchesRowBy, Expression.MatchesRow] using same

/-- Alternatives with the same matches each have the same matches together. -/
theorem choice_iff {items : List Regex} {others : List Expression} {first last : Nat}
    (size : items.length = others.length)
    (each : ∀ pair ∈ items.zip others,
      Regex.MatchesBy (Look.HoldsUnder word text) text pair.1 first last ↔
        pair.2.Matches text first last) :
    Regex.MatchesChoiceBy (Look.HoldsUnder word text) text items first last ↔
      Expression.MatchesChoice text others first last := by
  induction items generalizing others with
  | nil =>
      obtain rfl := List.length_eq_zero_iff.mp size.symm
      rfl
  | cons item rest ih =>
      cases others with
      | nil => cases size
      | cons other more =>
          rw [List.zip_cons_cons, List.forall_mem_cons] at each
          rw [Regex.MatchesChoiceBy, Expression.MatchesChoice, each.1,
            ih (Nat.succ.inj size) each.2]

/-- Rows that are built alike have the same matches. -/
theorem matchesRow_iff (alike : Counterpart groups word regexes expressions) (first last : Nat) :
    Regex.MatchesRowBy (Look.HoldsUnder word text) text regexes first last ↔
      Expression.MatchesRow text expressions first last := by
  induction alike generalizing first last with
  | nil => rfl
  | empty rest ih => simp [Regex.MatchesRowBy, Regex.MatchesBy, ih]
  | seq rest ih =>
      rw [← ih, Regex.matchesRowBy_append]
      rfl
  | capture rest ih =>
      rw [← ih]
      rfl
  | nothing rest ih => simp [Expression.MatchesRow, Expression.Matches, ih]
  | nothingAhead rest ih => simp [Expression.MatchesRow, Expression.Matches, ih]
  | concat rest ih =>
      rw [ih, Expression.matchesRow_append]
      rfl
  | group known rest ih =>
      rw [ih]
      rfl
  | @one set other item regexes expressions plain same rest ih =>
      have here (start stop : Nat) : Regex.Matches text (.one set) start stop ↔
          item.Matches text start stop := by
        have regular : Regular 0 item := regular_of_plain?_one plain
        rw [← Expression.matches_plain? regular plain]
        simp only [Regex.Matches, same]
      simp only [Regex.MatchesRowBy, Regex.MatchesBy, here, ih, Expression.MatchesRow]
  | look free rest ih =>
      simp only [Regex.MatchesRowBy, Regex.matchesBy_look free, Regex.Matches, ih,
        Expression.MatchesRow, Expression.Matches]
  | boundary found words rest ih =>
      simp only [Regex.MatchesRowBy, Regex.MatchesBy, Look.HoldsUnder, found, ih,
        Expression.MatchesRow, matches_boundaryLooks words]
  | alternatives nonempty size each rest eachIh ih =>
      have choice (start stop : Nat) := choice_iff size fun pair paired =>
        single_iff (eachIh pair paired start stop)
      simp only [Regex.MatchesRowBy, Regex.MatchesBy, choice, ih, Expression.MatchesRow,
        Expression.Matches]
  | rounds ordered inner rest innerIh ih =>
      have round (start stop : Nat) := single_iff (innerIh start stop)
      simp only [Regex.MatchesRowBy, Regex.MatchesBy, Regex.rounds_congr round, ih,
        Expression.MatchesRow, Expression.Matches]

end Counterpart

end TypedJson.Pattern
