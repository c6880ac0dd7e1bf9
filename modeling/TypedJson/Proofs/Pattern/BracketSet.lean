import TypedJson.Proofs.Pattern.BracketText
import TypedJson.Proofs.Pattern.LinearText
import TypedJson.Proofs.Regex.Footprint

namespace TypedJson.Pattern

open TypedJson.Regex (CharSet ClassExpression Flags)

variable {rules : Rules}

/-- Items of a class mean the union of their sets. -/
theorem meaning_ofItems {flags : Flags} {items : List ClassExpression} {sets : List CharSet}
    (means : ClassExpression.meanings flags items = some sets) :
    (ClassExpression.ofItems items).meaning flags = some (.unionAll sets) := by
  match items with
  | [] =>
      obtain rfl := Option.some.inj means
      rfl
  | [item] =>
      simp only [ClassExpression.meanings, Option.bind_eq_bind, Option.bind_eq_some_iff,
        Option.pure_def, Option.bind_some] at means
      obtain ⟨set, here, made⟩ := means
      obtain rfl := Option.some.inj made
      exact here
  | item :: next :: rest =>
      simp only [ClassExpression.ofItems, ClassExpression.meaning, means, Option.map_some]

/-- A class means the union of its items with the case applied, or the complement. -/
theorem meaning_bracketed (negated : Bool) {items : List ClassExpression} {sets : List CharSet}
    (means : ClassExpression.meanings rules.flags items = some sets) :
    (ClassExpression.bracketed negated (.ofItems items)).meaning rules.flags =
      some (negateIf negated (rules.fold (.unionAll sets))) := by
  simp only [ClassExpression.meaning, meaning_ofItems means, Option.bind_eq_bind,
    Option.bind_some, rules.governs.fold, Flags.negate?, rules.governs.unicode, if_true]
  cases negated <;> rfl

/-! ### Items -/

namespace AsciiKind

def sets : AsciiKind → List CharSet
  | digit => [.between '0' '9']
  | word => [.between 'A' 'Z', .between 'a' 'z', .between '0' '9', .single '_']

/-- A class of ASCII means its sets. -/
theorem meanings_items (rules : Rules) (kind : AsciiKind) :
    ClassExpression.meanings rules.flags kind.items = some kind.sets := by
  cases kind <;> rfl

end AsciiKind

namespace BracketItem

def sets (rules : Rules) : BracketItem → List CharSet
  | literal char _ => [.single char]
  | range first last _ _ _ => [.between first last]
  | shorthand escape =>
    if escape.negated then [.complement (rules.fold (.unionAll escape.kind.sets))]
    else escape.kind.sets
  | backspace => [.single '\x08']
  | quoted char _ => [.single char]
  | hyphen => [.single '-']

/-- An item means its sets. -/
theorem meanings_expressions (rules : Rules) (byCode : Bool) (item : BracketItem) :
    ClassExpression.meanings rules.flags (item.expressions byCode) = some (item.sets rules) := by
  cases item with
  | shorthand escape =>
      obtain ⟨negated, kind⟩ := escape
      cases negated with
      | false => exact kind.meanings_items rules
      | true =>
          show ClassExpression.meanings rules.flags [.bracketed true (.ofItems kind.items)] = _
          simp only [ClassExpression.meanings, meaning_bracketed true (kind.meanings_items rules),
            Option.bind_eq_bind, Option.bind_some, Option.pure_def]
          rfl
  | _ => rfl

/-- Items mean their sets one by one. -/
theorem meanings_all (rules : Rules) (byCode : Bool) (items : List BracketItem) :
    ClassExpression.meanings rules.flags (items.flatMap (expressions byCode)) =
      some (items.flatMap (sets rules)) := by
  induction items with
  | nil => rfl
  | cons item others ih =>
      rw [List.flatMap_cons, List.flatMap_cons]
      exact meanings_append (item.meanings_expressions rules byCode) ih

end BracketItem

namespace Bracket

/-- What a bracket reads as. -/
def expression (byCode : Bool) (bracket : Bracket) : ClassExpression :=
  .bracketed bracket.negated
    (.ofItems (bracket.items.flatMap (BracketItem.expressions byCode)))

def set (rules : Rules) (bracket : Bracket) : CharSet :=
  negateIf bracket.negated
    (rules.fold (.unionAll (bracket.items.flatMap (BracketItem.sets rules))))

/-- A bracket means its set. -/
theorem meaning_expression (rules : Rules) (byCode : Bool) (bracket : Bracket) :
    (bracket.expression byCode).meaning rules.flags = some (bracket.set rules) :=
  meaning_bracketed bracket.negated (BracketItem.meanings_all rules byCode bracket.items)

end Bracket

/-! ### Members -/

/-- A union has what one of its sets has. -/
theorem contains_unionAll (sets : List CharSet) (char : Char) :
    (CharSet.unionAll sets).contains char = sets.any fun set => set.contains char :=
  containsCode_unionAll sets char.toNat

/-- A single character is its only member. -/
theorem contains_single (char other : Char) :
    (CharSet.single other).contains char = (char == other) := by
  rw [Bool.eq_iff_iff, Regex.CharSet.contains_single, beq_iff_eq]

/-- A range has what lies between its ends. -/
theorem contains_between (first last char : Char) :
    (CharSet.between first last).contains char = (first ≤ char && char ≤ last) := by
  have order (one other : Char) : one ≤ other ↔ one.toNat ≤ other.toNat := Iff.rfl
  simp [CharSet.between, CharSet.contains, CharSet.containsCode, Unicode.inRanges, order]

/-- The case of letters counts. -/
def Rules.exact : Rules := ⟨false, false⟩

/-- Without flags no set is folded. -/
theorem Rules.exact_fold (set : CharSet) : Rules.exact.fold set = set := rfl

/-- The sets of a class of ASCII have its characters. -/
theorem AsciiKind.any_sets (kind : AsciiKind) (char : Char) :
    (kind.sets.any fun set => set.contains char) = kind.contains char := by
  cases kind with
  | digit => simp [sets, contains, contains_between, Char.isDigit, Char.le_def]
  | word =>
      have letters : char.isAlphanum =
          (decide (65 ≤ char.val ∧ char.val ≤ 90) || (97 ≤ char.val && char.val ≤ 122) ||
            char.isDigit) := rfl
      simp [sets, contains, contains_between, contains_single, letters, Char.isDigit,
        Char.le_def, Bool.or_assoc]

/-- The sets of an item have its characters. -/
theorem BracketItem.any_sets (item : BracketItem) (char : Char) :
    ((item.sets .exact).any fun set => set.contains char) = item.contains char := by
  cases item with
  | shorthand escape =>
      obtain ⟨negated, kind⟩ := escape
      have plain := kind.any_sets char
      cases negated with
      | false => simpa [sets, contains, ClassEscape.contains] using plain
      | true =>
          simp [sets, contains, ClassEscape.contains, Rules.exact_fold, contains_unionAll, plain,
            Regex.CharSet.contains_complement]
  | range first last firstAllowed lastAllowed ordered =>
      simp [sets, contains, contains_between]
  | _ => simp [sets, contains, contains_single]

/-- The set of a bracket has the members of its items, or all others. -/
theorem Bracket.contains_set (bracket : Bracket) (char : Char) :
    (bracket.set .exact).contains char = bracket.contains char := by
  have items : (CharSet.unionAll (bracket.items.flatMap (BracketItem.sets .exact))).contains char =
      bracket.items.any (BracketItem.contains char) := by
    rw [contains_unionAll, List.any_flatMap]
    simp only [BracketItem.any_sets]
  rw [set, contains, Rules.exact_fold, ← items]
  cases bracket.negated with
  | false => simp [negateIf]
  | true => simp [negateIf, Regex.CharSet.contains_complement]

/-! ### Sizes -/

/-- A union has at most the ranges of its sets. -/
theorem spans_unionAll (sets : List CharSet) :
    (CharSet.unionAll sets).spans = (sets.map CharSet.spans).sum := by
  induction sets with
  | nil => rfl
  | cons set rest ih =>
      cases rest with
      | nil => simp [CharSet.unionAll]
      | cons next others =>
          show set.spans + (CharSet.unionAll (next :: others)).spans = _
          rw [ih]
          rfl

/-- An item has at most five ranges. -/
theorem BracketItem.spans_sets_le (item : BracketItem) :
    ((item.sets .exact).map CharSet.spans).sum ≤ 5 := by
  cases item with
  | shorthand escape =>
      obtain ⟨negated, kind⟩ := escape
      cases negated <;> cases kind <;> decide
  | _ => exact Nat.le_of_ble_eq_true rfl

/-- A bracket has at most five ranges for each item, and one more. -/
theorem Bracket.spans_set_le (bracket : Bracket) :
    (bracket.set .exact).spans ≤ 5 * bracket.items.length + 1 := by
  have items : ((bracket.items.flatMap (BracketItem.sets .exact)).map CharSet.spans).sum ≤
      5 * bracket.items.length := by
    induction bracket.items with
    | nil => exact Nat.le_refl _
    | cons item others ih =>
        have here := item.spans_sets_le
        rw [List.flatMap_cons, List.map_append, List.sum_append, List.length_cons]
        omega
  rw [set, Rules.exact_fold]
  cases bracket.negated with
  | false =>
      show (CharSet.unionAll _).spans ≤ _
      rw [spans_unionAll]
      omega
  | true =>
      show (CharSet.unionAll _).spans + 1 ≤ _
      rw [spans_unionAll]
      omega

end TypedJson.Pattern
