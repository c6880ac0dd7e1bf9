import TypedJson.Backtrack.Expression
import TypedJson.Proofs.Regex.Matches

namespace TypedJson.Backtrack.Expression

open TypedJson.Regex (Rounds WithinRounds)

mutual

/-- The part of a text between two positions matches. -/
def Matches (text : List Char) : Expression → Nat → Nat → Prop
  | empty, first, last => first = last
  | anyChar lineFeed, first, last =>
    (∃ char, text[first]? = some char ∧ (lineFeed = true ∨ char ≠ '\n')) ∧ last = first + 1
  | condition look, first, last => look.HoldsAt text first ∧ first = last
  | literal char ignoreCase, first, last =>
    Regex.Matches text (.one (if ignoreCase then .caseClosure (.single char) else .single char))
      first last
  | set regex, first, last => Regex.Matches text regex first last
  | concat items, first, last => MatchesRow text items first last
  | alternation items, first, last => MatchesChoice text items first last
  | group _ body, first, last => Matches text body first last
  | lookAround behind negated body, first, last =>
    first = last ∧ ((∃ other, if behind then Matches text body other first
      else Matches text body first other) ↔ negated = false)
  | rounds body low high _, first, last =>
    ∃ count, WithinRounds low high count ∧ Rounds (Matches text body) count first last
  | backReference _, _, _ => False
  | atomic _, _, _ => False
  | keepOut, _, _ => False
  | searchStart, _, _ => False
  | groupSet _, _, _ => False
  | conditional _ _ _, _, _ => False

def MatchesRow (text : List Char) : List Expression → Nat → Nat → Prop
  | [], first, last => first = last
  | item :: rest, first, last =>
    ∃ middle, Matches text item first middle ∧ MatchesRow text rest middle last

def MatchesChoice (text : List Char) : List Expression → Nat → Nat → Prop
  | [], _, _ => False
  | item :: rest, first, last => Matches text item first last ∨ MatchesChoice text rest first last

end

/-- The expressions whose matches are given part by part, with groups up to a number. -/
inductive Regular (groups : Nat) : Expression → Prop
  | empty : Regular groups .empty
  | anyChar (lineFeed : Bool) : Regular groups (.anyChar lineFeed)
  | condition (look : Regex.Look) : Regular groups (.condition look)
  | literal (char : Char) (ignoreCase : Bool) : Regular groups (.literal char ignoreCase)
  | set (set : Regex.CharSet) : Regular groups (.set (.one set))
  | concat {items : List Expression} (all : ∀ item ∈ items, Regular groups item) :
      Regular groups (.concat items)
  | alternation {items : List Expression} (nonempty : items ≠ [])
      (all : ∀ item ∈ items, Regular groups item) : Regular groups (.alternation items)
  | group {index : Nat} {body : Expression} (known : index ≤ groups)
      (inner : Regular groups body) : Regular groups (.group index body)
  | lookAround {behind negated : Bool} {body : Expression} (easy : body.isHard = false)
      (sized : behind = true → body.isConstSize = true) (inner : Regular groups body) :
      Regular groups (.lookAround behind negated body)
  | rounds {body : Expression} {low : Nat} {high : Option Nat} {greedy : Bool}
      (ordered : ∀ bound, high = some bound → low ≤ bound) (inner : Regular groups body) :
      Regular groups (.rounds body low high greedy)

variable {text : List Char} {groups : Nat}

/-- More groups do no harm. -/
theorem Regular.mono {more : Nat} (least : groups ≤ more) {expression : Expression}
    (regular : Regular groups expression) : Regular more expression := by
  induction regular with
  | empty => exact .empty
  | anyChar lineFeed => exact .anyChar lineFeed
  | condition look => exact .condition look
  | literal char ignoreCase => exact .literal char ignoreCase
  | set set => exact .set set
  | concat all ih => exact .concat ih
  | alternation nonempty all ih => exact .alternation nonempty ih
  | group known inner ih => exact .group (Nat.le_trans known least) ih
  | lookAround easy sized inner ih => exact .lookAround easy sized ih
  | rounds ordered inner ih => exact .rounds ordered ih

/-- A choice matches what one of its items matches. -/
theorem matchesChoice_iff {items : List Expression} {first last : Nat} :
    MatchesChoice text items first last ↔ ∃ item ∈ items, Matches text item first last := by
  induction items with
  | nil => simp [MatchesChoice]
  | cons item rest ih => simp [MatchesChoice, ih]

/-- Two rows match one after the other. -/
theorem matchesRow_append {items others : List Expression} {first last : Nat} :
    MatchesRow text (items ++ others) first last ↔
      ∃ middle, MatchesRow text items first middle ∧ MatchesRow text others middle last := by
  induction items generalizing first with
  | nil => simp [MatchesRow]
  | cons item rest ih =>
      simp only [List.cons_append, MatchesRow, ih]
      constructor
      · rintro ⟨between, here, middle, more, after⟩
        exact ⟨middle, ⟨between, here, more⟩, after⟩
      · rintro ⟨middle, ⟨between, here, more⟩, after⟩
        exact ⟨between, here, middle, more, after⟩

/-- Ordinary items, as a row or as a choice, match what their ordinary forms match. -/
theorem plainAll?_eq_some {items : List Expression} {regexes : List Regex}
    (plain : plainAll? items = some regexes)
    (same : ∀ item ∈ items, ∀ regex, item.plain? = some regex →
      ∀ first last, Regex.Matches text regex first last ↔ item.Matches text first last) :
    (∀ first last, Regex.MatchesRow text regexes first last ↔ MatchesRow text items first last) ∧
      ∀ first last,
        Regex.MatchesChoice text regexes first last ↔ MatchesChoice text items first last := by
  induction items generalizing regexes with
  | nil =>
      obtain rfl := Option.some.inj plain
      exact ⟨fun _ _ => Iff.rfl, fun _ _ => Iff.rfl⟩
  | cons item rest ih =>
      simp only [plainAll?, Option.bind_eq_bind, Option.bind_eq_some_iff, Option.pure_def] at plain
      obtain ⟨regex, first, others, more, made⟩ := plain
      obtain rfl := Option.some.inj made
      rw [List.forall_mem_cons] at same
      obtain ⟨row, choice⟩ := ih more same.2
      constructor
      · intro start stop
        simp only [Regex.MatchesRow, MatchesRow, same.1 regex first, row]
      · intro start stop
        simp only [Regex.MatchesChoice, MatchesChoice, same.1 regex first, choice]

/-- What needs no backtracking has the matches of its ordinary regular expression. -/
theorem matches_plain? {expression : Expression} (regular : Regular groups expression)
    {regex : Regex} (plain : expression.plain? = some regex) (first last : Nat) :
    Regex.Matches text regex first last ↔ expression.Matches text first last := by
  induction regular generalizing regex first last with
  | empty =>
      obtain rfl := Option.some.inj plain
      rfl
  | anyChar lineFeed =>
      obtain rfl := Option.some.inj plain
      rw [Regex.Matches, Matches]
      cases lineFeed <;>
        simp [Regex.CharSet.contains_all, Regex.CharSet.contains_complement,
          ← Bool.not_eq_true, Regex.CharSet.contains_single]
  | condition look =>
      obtain rfl := Option.some.inj plain
      rfl
  | literal char ignoreCase =>
      obtain rfl := Option.some.inj plain
      rfl
  | set set =>
      obtain rfl := Option.some.inj plain
      rfl
  | concat all ih =>
      rw [plain?, Option.map_eq_some_iff] at plain
      obtain ⟨regexes, plain, rfl⟩ := plain
      exact (plainAll?_eq_some plain ih).1 first last
  | alternation nonempty all ih =>
      rw [plain?, Option.map_eq_some_iff] at plain
      obtain ⟨regexes, plain, rfl⟩ := plain
      exact (plainAll?_eq_some plain ih).2 first last
  | group known inner ih =>
      rw [plain?, Option.map_eq_some_iff] at plain
      obtain ⟨regex, plain, rfl⟩ := plain
      exact ih plain first last
  | lookAround easy sized inner ih => simp [plain?] at plain
  | rounds ordered inner ih =>
      rw [plain?] at plain
      split at plain
      · simp at plain
      · rw [Option.map_eq_some_iff] at plain
        obtain ⟨regex, plain, rfl⟩ := plain
        simp only [Regex.Matches, Matches, Regex.rounds_congr (ih plain)]

/-- Matches run forward and end inside of the text. -/
theorem forward_matches {expression : Expression} (regular : Regular groups expression) :
    Regex.Forward text.length (expression.Matches text) := by
  induction regular with
  | empty =>
      rintro first _ rfl
      exact ⟨Nat.le_refl _, id⟩
  | anyChar lineFeed =>
      rintro first _ ⟨⟨char, here, -⟩, rfl⟩
      have inside := (List.getElem?_eq_some_iff.mp here).1
      exact ⟨Nat.le_succ first, fun _ => inside⟩
  | condition look =>
      rintro first _ ⟨-, rfl⟩
      exact ⟨Nat.le_refl _, id⟩
  | literal char ignoreCase => exact Regex.forward_matches text _
  | set set => exact Regex.forward_matches text _
  | concat all ih => exact forwardRow ih
  | alternation nonempty all ih =>
      intro first last found
      obtain ⟨item, inside, here⟩ := matchesChoice_iff.mp found
      exact ih item inside first last here
  | group known inner ih => exact ih
  | lookAround easy sized inner ih =>
      rintro first _ ⟨rfl, -⟩
      exact ⟨Nat.le_refl _, id⟩
  | rounds ordered inner ih =>
      rintro first last ⟨count, -, through⟩
      exact ih.rounds count first last through
where
  forwardRow {items : List Expression}
      (forward : ∀ item ∈ items, Regex.Forward text.length (item.Matches text)) :
      Regex.Forward text.length (MatchesRow text items) := by
    induction items with
    | nil =>
        rintro first _ rfl
        exact ⟨Nat.le_refl _, id⟩
    | cons item rest ih =>
        rintro first last ⟨middle, here, others⟩
        rw [List.forall_mem_cons] at forward
        have one := forward.1 first middle here
        have more := ih forward.2 middle last others
        exact ⟨Nat.le_trans one.1 more.1, fun inside => more.2 (one.2 inside)⟩

/-- No item takes less than the least size. -/
theorem leastSize_le {items : List Expression} {item : Expression} (inside : item ∈ items) :
    leastSize items ≤ item.minSize := by
  induction items with
  | nil => simp at inside
  | cons first rest ih =>
      cases rest with
      | nil =>
          obtain rfl := List.mem_singleton.mp inside
          exact Nat.le_refl _
      | cons second others =>
          rw [leastSize]
          · obtain rfl | inside := List.mem_cons.mp inside
            · exact Nat.min_le_left _ _
            · exact Nat.le_trans (Nat.min_le_right _ _) (ih inside)
          · simp

/-- So many rounds take at least so many times the least size of one. -/
theorem rounds_minSize {size count first last : Nat} {round : Nat → Nat → Prop}
    (least : ∀ first last, round first last → first + size ≤ last)
    (through : Rounds round count first last) : first + size * count ≤ last := by
  induction count generalizing first with
  | zero =>
      obtain rfl := through
      simp
  | succ count ih =>
      obtain ⟨middle, here, rest⟩ := through
      have one := least first middle here
      have more := ih rest
      rw [Nat.mul_succ]
      omega

/-- A match takes at least as many characters as the least size says. -/
theorem minSize_le {expression : Expression} (regular : Regular groups expression)
    {first last : Nat} (found : expression.Matches text first last) :
    first + expression.minSize ≤ last := by
  induction regular generalizing first last with
  | empty =>
      obtain rfl := found
      exact Nat.le_refl _
  | anyChar lineFeed => exact Nat.le_of_eq found.2.symm
  | condition look =>
      obtain ⟨-, rfl⟩ := found
      exact Nat.le_refl _
  | literal char ignoreCase => exact Nat.le_of_eq found.2.symm
  | set set => exact Nat.le_of_eq found.2.symm
  | concat all ih => exact rowSize ih found
  | alternation nonempty all ih =>
      obtain ⟨item, inside, here⟩ := matchesChoice_iff.mp found
      have least := leastSize_le inside
      have size := ih item inside here
      rw [minSize]
      omega
  | group known inner ih => exact ih found
  | lookAround easy sized inner ih =>
      obtain ⟨rfl, -⟩ := found
      exact Nat.le_refl _
  | @rounds body low high greedy ordered inner ih =>
      obtain ⟨count, ⟨least, -⟩, through⟩ := found
      have size := rounds_minSize (fun _ _ => ih) through
      have more := Nat.mul_le_mul_left body.minSize least
      rw [minSize]
      omega
where
  rowSize {items : List Expression}
      (least : ∀ item ∈ items, ∀ {first last : Nat}, item.Matches text first last →
        first + item.minSize ≤ last) {first last : Nat}
      (found : MatchesRow text items first last) : first + sumSizes items ≤ last := by
    induction items generalizing first with
    | nil =>
        obtain rfl := found
        exact Nat.le_refl _
    | cons item rest ih =>
        obtain ⟨middle, here, others⟩ := found
        rw [List.forall_mem_cons] at least
        have one := least.1 here
        have more := ih least.2 others
        rw [sumSizes]
        omega

/-- A row is of constant size just if each item is. -/
theorem allConstSize_iff {items : List Expression} :
    allConstSize items = true ↔ ∀ item ∈ items, item.isConstSize = true := by
  induction items with
  | nil => simp [allConstSize]
  | cons item rest ih => simp [allConstSize, ih]

/-- Alternatives of one constant size all have it. -/
theorem sameConstSize_some {size : Nat} {items : List Expression}
    (same : sameConstSize (some size) items = true) :
    ∀ item ∈ items, item.isConstSize = true ∧ item.minSize = size := by
  induction items with
  | nil => simp
  | cons item rest ih =>
      simp only [sameConstSize, Option.isNone_some, Bool.false_or, Bool.and_eq_true,
        beq_iff_eq, Option.some.injEq] at same
      obtain ⟨⟨const, rfl⟩, others⟩ := same
      rw [List.forall_mem_cons]
      exact ⟨⟨const, rfl⟩, ih others⟩

/-- The least size of items of one size is that size. -/
theorem leastSize_eq {size : Nat} {items : List Expression} (nonempty : items ≠ [])
    (same : ∀ item ∈ items, item.minSize = size) : leastSize items = size := by
  induction items with
  | nil => exact absurd rfl nonempty
  | cons item rest ih =>
      rw [List.forall_mem_cons] at same
      cases rest with
      | nil => exact same.1
      | cons second others =>
          rw [leastSize, same.1, ih (by simp) same.2, Nat.min_self]
          simp

/-- Alternatives of one constant size have it as the size of the choice. -/
theorem sameConstSize_none {items : List Expression} (same : sameConstSize none items = true) :
    ∀ item ∈ items, item.isConstSize = true ∧ item.minSize = leastSize items := by
  cases items with
  | nil => simp
  | cons first rest =>
      simp only [sameConstSize, Option.isNone_none, Bool.true_or, Bool.and_true,
        Bool.and_eq_true] at same
      have sizes : ∀ item ∈ first :: rest, item.isConstSize = true ∧
          item.minSize = first.minSize := by
        rw [List.forall_mem_cons]
        exact ⟨⟨same.1, rfl⟩, sameConstSize_some same.2⟩
      rw [leastSize_eq (by simp) fun item inside => (sizes item inside).2]
      exact sizes

/-- So many rounds of constant size take so many times that size. -/
theorem rounds_eq_size {size count first last : Nat} {round : Nat → Nat → Prop}
    (exact : ∀ first last, round first last → last = first + size)
    (through : Rounds round count first last) : last = first + size * count := by
  induction count generalizing first with
  | zero => exact through.symm
  | succ count ih =>
      obtain ⟨middle, here, rest⟩ := through
      obtain rfl := exact first middle here
      rw [ih rest, Nat.mul_succ]
      omega

/-- A row of constant size takes the sum of the sizes of its items. -/
theorem eq_sumSizes {items : List Expression} (const : allConstSize items = true)
    (exact : ∀ item ∈ items, item.isConstSize = true → ∀ {first last : Nat},
      item.Matches text first last → last = first + item.minSize) {first last : Nat}
    (found : MatchesRow text items first last) : last = first + sumSizes items := by
  induction items generalizing first with
  | nil => exact found.symm
  | cons item rest ih =>
      obtain ⟨middle, here, others⟩ := found
      rw [allConstSize, Bool.and_eq_true] at const
      rw [List.forall_mem_cons] at exact
      obtain rfl := exact.1 const.1 here
      rw [ih const.2 exact.2 others, sumSizes, Nat.add_assoc]

/-- A match of constant size takes just as many characters as the size says. -/
theorem eq_minSize {expression : Expression} (regular : Regular groups expression)
    (const : expression.isConstSize = true) {first last : Nat}
    (found : expression.Matches text first last) : last = first + expression.minSize := by
  induction regular generalizing first last with
  | empty => exact found.symm
  | anyChar lineFeed => exact found.2
  | condition look => exact found.2.symm
  | literal char ignoreCase => exact found.2
  | set set => exact found.2
  | concat all ih => exact eq_sumSizes const ih found
  | alternation nonempty all ih =>
      obtain ⟨item, inside, here⟩ := matchesChoice_iff.mp found
      obtain ⟨itemConst, size⟩ := sameConstSize_none const item inside
      rw [minSize, ← size]
      exact ih item inside itemConst here
  | group known inner ih => exact ih const found
  | lookAround easy sized inner ih => exact found.1.symm
  | @rounds body low high greedy ordered inner ih =>
      rw [isConstSize, Bool.and_eq_true, beq_iff_eq] at const
      obtain ⟨bodyConst, rfl⟩ := const
      obtain ⟨count, ⟨least, most⟩, through⟩ := found
      have bound := most low rfl
      obtain rfl : count = low := by omega
      exact rounds_eq_size (fun _ _ => ih bodyConst) through

end TypedJson.Backtrack.Expression
