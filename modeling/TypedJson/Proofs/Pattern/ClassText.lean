import TypedJson.Proofs.Pattern.Body

namespace TypedJson.Pattern

open TypedJson.Regex (CharSet ClassExpression CommonClass Flags asciiWord)
open TypedJson.Regex.Reader (Atom OpenClass classAtom classItem classOpen classRest bracketClass)

/-- A text that starts with a character of a class or with an escape. -/
def StartsItem (text : List Char) : Prop :=
  ∃ char others, text = char :: others ∧ (isMember char = true ∨ char = '\\')

/-- A text that starts with nothing that is special at the start of a class. -/
def StartsClass (text : List Char) : Prop :=
  ∃ char others, text = char :: others ∧ char ≠ '^' ∧ char ≠ '-' ∧ char ≠ ']'

theorem StartsItem.append {text : List Char} (starts : StartsItem text) (rest : List Char) :
    StartsItem (text ++ rest) := by
  obtain ⟨char, others, rfl, allowed⟩ := starts
  exact ⟨char, others ++ rest, rfl, allowed⟩

/-- What starts an item starts a class. -/
theorem StartsItem.startsClass {text : List Char} (starts : StartsItem text) :
    StartsClass text := by
  obtain ⟨char, others, rfl, allowed⟩ := starts
  refine ⟨char, others, rfl, ?_, ?_, ?_⟩
  · rintro rfl
    exact absurd allowed (by decide)
  · rintro rfl
    exact absurd allowed (by decide)
  · rintro rfl
    exact absurd allowed (by decide)

theorem StartsClass.append {text : List Char} (starts : StartsClass text) (rest : List Char) :
    StartsClass (text ++ rest) := by
  obtain ⟨char, others, rfl, allowed⟩ := starts
  exact ⟨char, others ++ rest, rfl, allowed⟩

/-- What starts a class does not start with a hyphen. -/
theorem StartsClass.head_ne {text : List Char} (starts : StartsClass text) :
    text.head? ≠ some '-' := by
  obtain ⟨char, others, rfl, -, hyphen, -⟩ := starts
  intro same
  exact hyphen (Option.some.inj same)

/-- The class with some members after those read so far. -/
def pushAll (pending : OpenClass) (items : List ClassExpression) : OpenClass :=
  { pending with items := items.reverse ++ pending.items }

/-- A reader of classes turns the text into the items, whatever stands before and after it. -/
def Collects (text : List Char) (items : List ClassExpression) : Prop :=
  ∀ fuel negated pending rest result, rest.head? ≠ some '-' →
    classRest false fuel negated pending (text ++ rest) = some result →
      ∃ left, classRest false left negated (pushAll pending items) rest = some result

namespace Collects

theorem nil : Collects [] [] := fun fuel _ _ _ _ _ read => ⟨fuel, read⟩

theorem append {text other : List Char} {items more : List ClassExpression}
    (first : Collects text items) (second : Collects other more) (starts : other.head? ≠ some '-') :
    Collects (text ++ other) (items ++ more) := by
  intro fuel negated pending rest result ends read
  have follows : (other ++ rest).head? ≠ some '-' := by
    cases other with
    | nil => exact ends
    | cons char others => exact starts
  rw [List.append_assoc] at read
  obtain ⟨left, read⟩ := first fuel negated pending (other ++ rest) result follows read
  obtain ⟨left, read⟩ := second left negated _ rest result ends read
  refine ⟨left, ?_⟩
  have same : pushAll (pushAll pending items) more = pushAll pending (items ++ more) := by
    simp [pushAll]
  rw [← same]
  exact read

end Collects

/-- A character of a class or an escape starts an item. -/
theorem classRest_item {fuel : Nat} {negated : Bool} {pending : OpenClass} {text : List Char}
    (starts : StartsItem text) :
    classRest false (fuel + 1) negated pending text =
      match classItem false text with
      | some (item, rest) => classRest false fuel negated (pending.push item) rest
      | none => none := by
  obtain ⟨char, others, rfl, allowed⟩ := starts
  rw [classRest, Regex.Reader.skip]
  simp only [Bool.false_eq_true, if_false]
  split
  · next empty => exact absurd empty (List.cons_ne_nil _ _)
  all_goals first
    | rfl
    | (next same =>
        rw [(List.cons.inj same).1] at allowed
        exact absurd allowed (by decide))

/-- What reads as one item makes a member. -/
theorem collects_item {text : List Char} (starts : StartsItem text) {item : ClassExpression}
    (reads : ∀ rest, rest.head? ≠ some '-' → ∀ found,
      classItem false (text ++ rest) = some found → found = (item, rest)) :
    Collects text [item] := by
  intro fuel negated pending rest result ends read
  cases fuel with
  | zero => simp [classRest] at read
  | succ fuel =>
      rw [classRest_item (starts.append rest)] at read
      split at read
      · next found after here =>
          obtain ⟨rfl, rfl⟩ := Prod.mk.inj (reads rest ends _ here)
          exact ⟨fuel, read⟩
      · exact absurd read (by simp)

/-- One member is collected as one item. -/
theorem collects_atom {text : List Char} (starts : StartsItem text) {atom : Atom}
    {item : ClassExpression} (reads : ∀ rest, classAtom false (text ++ rest) = some (atom, rest))
    (member : atom.toClass? = some item) : Collects text [item] := by
  apply collects_item starts
  intro rest ends found here
  simp only [classItem, reads, Option.bind_eq_bind, Option.bind_some, Regex.Reader.skip,
    Bool.false_eq_true, if_false] at here
  split at here
  · exact absurd here (by simp)
  · exact absurd rfl ends
  · simp only [member, Option.bind_some, Option.pure_def, Option.some.injEq] at here
    exact here.symm

/-- Two characters with a hyphen between them are collected as a range. -/
theorem collects_range {first last : Char} (firstAllowed : isMember first = true)
    (lastAllowed : isMember last = true) (ordered : first ≤ last) :
    Collects [first, '-', last] [.range first false last false] := by
  apply collects_item ⟨first, _, rfl, .inl firstAllowed⟩
  intro rest ends found here
  have plain {char : Char} (allowed : isMember char = true) (input : List Char) :
      classAtom false (char :: input) = some (.literal char false, input) := by
    rw [classAtom]
    exact ne_of_test allowed (by decide)
  have closed : last ≠ ']' := ne_of_test lastAllowed (by decide)
  have hyphen : last ≠ '-' := ne_of_test lastAllowed (by decide)
  simp [classItem, plain firstAllowed, plain lastAllowed, Regex.Reader.skip,
    Regex.Reader.afterHyphen, closed, hyphen, ordered] at here
  exact here.symm

/-- A closing bracket ends a class with what was collected. -/
theorem classRest_close {fuel : Nat} {negated : Bool} {pending : OpenClass} {rest : List Char}
    {result : ClassExpression × List Char}
    (read : classRest false fuel negated pending (']' :: rest) = some result) :
    result = (.bracketed negated pending.close, rest) := by
  cases fuel with
  | zero => simp [classRest] at read
  | succ fuel =>
      simp only [classRest, Regex.Reader.skip, Bool.false_eq_true, if_false,
        Option.some.injEq] at read
      exact read.symm

/-- A class opens with nothing collected. -/
theorem classOpen_plain {text : List Char} (starts : StartsClass text) :
    classOpen false text = (false, ⟨none, []⟩, text) := by
  obtain ⟨char, others, rfl, caret, hyphen, closing⟩ := starts
  simp [classOpen, Regex.Reader.skip, Regex.Reader.leadingHyphens, caret, hyphen, closing]

/-- A negated class opens with nothing collected. -/
theorem classOpen_negated {text : List Char} (starts : StartsClass text) :
    classOpen false ('^' :: text) = (true, ⟨none, []⟩, text) := by
  obtain ⟨char, others, rfl, caret, hyphen, closing⟩ := starts
  simp [classOpen, Regex.Reader.skip, Regex.Reader.leadingHyphens, hyphen, closing]

/-- The mark of a negated class. -/
def negation (negated : Bool) : List Char := if negated then ['^'] else []

/-- A class opens with its negation and nothing collected. -/
theorem classOpen_negation (negated : Bool) {text : List Char} (starts : StartsClass text) :
    classOpen false (negation negated ++ text) = (negated, ⟨none, []⟩, text) := by
  cases negated with
  | false => exact classOpen_plain starts
  | true => exact classOpen_negated starts

/-- The rest of a class, after it was opened, reads as its members. -/
theorem classRest_members {text : List Char} {items : List ClassExpression}
    (collects : Collects text items) {fuel : Nat} {negated : Bool} {rest : List Char}
    {result : ClassExpression × List Char}
    (read : classRest false fuel negated ⟨none, []⟩ (text ++ ']' :: rest) = some result) :
    result = (.bracketed negated (.ofItems items), rest) := by
  obtain ⟨left, read⟩ := collects fuel negated _ (']' :: rest) result (by simp) read
  rw [classRest_close read]
  simp [OpenClass.close, pushAll]

/-- A class outside of classes. -/
theorem bracketClass_members {text : List Char} {items : List ClassExpression}
    (collects : Collects text items) (starts : StartsClass text) {negated : Bool}
    {rest : List Char} {result : ClassExpression × List Char}
    (read : bracketClass false (negation negated ++ text ++ ']' :: rest) = some result) :
    result = (.bracketed negated (.ofItems items), rest) := by
  rw [bracketClass, List.append_assoc, classOpen_negation negated (starts.append _)] at read
  exact classRest_members collects read

/-- A negated class inside of a class. -/
theorem collects_nested {text : List Char} {items : List ClassExpression}
    (collects : Collects text items) (starts : StartsClass text) :
    Collects ('[' :: '^' :: text ++ [']']) [.bracketed true (.ofItems items)] := by
  intro fuel negated pending rest result ends read
  have shape : '[' :: '^' :: text ++ [']'] ++ rest = '[' :: '^' :: (text ++ ']' :: rest) := by simp
  rw [shape] at read
  cases fuel with
  | zero => simp [classRest] at read
  | succ fuel =>
      have unnamed : Regex.Reader.asciiClass ('^' :: (text ++ ']' :: rest)) = none := by
        simp [Regex.Reader.asciiClass]
      simp only [classRest, Regex.Reader.skip, Bool.false_eq_true, if_false, unnamed,
        classOpen_negated (starts.append _)] at read
      split at read
      · next item after here =>
          obtain ⟨rfl, rfl⟩ := Prod.mk.inj (classRest_members collects here)
          exact ⟨fuel, read⟩
      · exact absurd read (by simp)

/-- A backslash before a character that may follow it makes this character. -/
theorem escape_escapable {char : Char} (allowed : Regex.Reader.isEscapable char = true)
    (rest : List Char) :
    Regex.Reader.escape false (char :: rest) = some (.literal char false, rest) := by
  unfold Regex.Reader.escape
  split
  · next empty => exact absurd empty (List.cons_ne_nil _ _)
  all_goals first
    | (next same =>
        rw [(List.cons.inj same).1] at allowed
        exact absurd allowed (by decide))
    | (next same =>
        obtain ⟨rfl, rfl⟩ := List.cons.inj same
        exact if_pos allowed)

namespace Literal

variable {isBare : Char → Bool}

/-- What a literal reads as in a class. -/
theorem classAtom_text (bare : ∀ char, isBare char = true → isMember char = true)
    (literal : Literal isBare) (rest : List Char) :
    classAtom false (literal.text ++ rest) = some (.literal literal.char false, rest) := by
  cases literal with
  | bare char allowed =>
      show classAtom false (char :: rest) = some (.literal char false, rest)
      rw [classAtom]
      exact ne_of_test (bare _ allowed) (by decide)
  | quoted char allowed => exact escape_escapable allowed rest
  | control kind => cases kind <;> rfl

end Literal

/-- The members that `\d` and `\w` stand for in a class. -/
def digitItems : List ClassExpression := [.range '0' false '9' false]

def wordItems : List ClassExpression :=
  [.range 'A' false 'Z' false, .range 'a' false 'z' false, .range '0' false '9' false,
    .literal '_' false]

/-- The digits are collected as a range. -/
theorem collects_digits : Collects "0-9".toList digitItems :=
  collects_range (by decide) (by decide) (by decide)

/-- The word characters are collected as their ranges. -/
theorem collects_word : Collects Token.wordMembers wordItems := by
  have upper : Collects ['A', '-', 'Z'] [.range 'A' false 'Z' false] :=
    collects_range (by decide) (by decide) (by decide)
  have lower : Collects ['a', '-', 'z'] [.range 'a' false 'z' false] :=
    collects_range (by decide) (by decide) (by decide)
  have underscore : Collects ['_'] [.literal '_' false] :=
    collects_atom ⟨'_', [], rfl, .inl (by decide)⟩ (fun _ => rfl) rfl
  have digits := collects_digits.append underscore (by decide)
  exact upper.append (lower.append digits (by decide)) (by decide)

/-- The text that the backtracking reader passes on for a literal of a class. -/
def Literal.collected {isBare : Char → Bool} : Literal isBare → List Char
  | bare char _ => [char]
  | quoted char _ => Backtrack.Reader.quoteInClass char
  | control kind => [kind.char]

namespace Member

/-- The text that the backtracking reader passes on for a member. -/
def collected : Member → List Char
  | one literal => literal.collected
  | range first last _ _ _ => [first, '-', last]
  | common negated kind => Token.escapeText .linear true (kindLetter negated kind)
  | backspace => ['\x08']

/-- What a member reads as; only a backspace may have been written by its code. -/
def items (byCode : Bool) : Member → List ClassExpression
  | one literal => [.literal literal.char false]
  | range first last _ _ _ => [.range first false last false]
  | common negated .digit =>
    if negated then [.bracketed true (.ofItems digitItems)] else digitItems
  | common negated .space => [.common negated .space]
  | common negated .word => if negated then [.bracketed true (.ofItems wordItems)] else wordItems
  | backspace => [.literal '\x08' byCode]

/-- A common class is collected as its items. -/
theorem collects_common (byCode negated : Bool) (kind : CommonClass) :
    Collects (Token.escapeText .linear true (kindLetter negated kind))
      (items byCode (.common negated kind)) := by
  have slash : StartsItem ['\\', 's'] := ⟨'\\', ['s'], rfl, .inr rfl⟩
  have slashed : StartsItem ['\\', 'S'] := ⟨'\\', ['S'], rfl, .inr rfl⟩
  cases kind with
  | digit =>
      cases negated with
      | false => exact collects_digits
      | true => exact collects_nested collects_digits ⟨'0', _, rfl, by decide⟩
  | space =>
      cases negated with
      | false => exact collects_atom slash (fun _ => rfl) rfl
      | true => exact collects_atom slashed (fun _ => rfl) rfl
  | word =>
      cases negated with
      | false => exact collects_word
      | true => exact collects_nested collects_word ⟨'A', _, rfl, by decide⟩

/-- A literal starts an item. -/
theorem startsItem_text (literal : Literal isMember) : StartsItem literal.text := by
  cases literal with
  | bare char allowed => exact ⟨char, [], rfl, .inl allowed⟩
  | quoted char allowed => exact ⟨'\\', [char], rfl, .inr rfl⟩
  | control kind => exact ⟨'\\', [kind.letter], rfl, .inr rfl⟩

/-- A common class starts a class. -/
theorem startsClass_common (negated : Bool) (kind : CommonClass) :
    StartsClass (Token.escapeText .linear true (kindLetter negated kind)) := by
  cases kind <;> cases negated <;> exact ⟨_, _, rfl, by decide⟩

/-- The image of a member is collected as its items. -/
theorem collects_image (member : Member) : Collects member.image (member.items true) := by
  cases member with
  | one literal =>
      exact collects_atom (startsItem_text literal) (literal.classAtom_text fun _ allowed => allowed)
        rfl
  | range first last firstAllowed lastAllowed ordered =>
      exact collects_range firstAllowed lastAllowed ordered
  | common negated kind => exact collects_common true negated kind
  | backspace => exact collects_atom ⟨'\\', ['x', '0', '8'], rfl, .inr rfl⟩ (fun _ => rfl) rfl

/-- The image of a member starts a class. -/
theorem startsClass_image (member : Member) : StartsClass member.image := by
  cases member with
  | one literal => exact (startsItem_text literal).startsClass
  | range first last firstAllowed lastAllowed ordered =>
      exact StartsItem.startsClass ⟨first, _, rfl, .inl firstAllowed⟩
  | common negated kind => exact startsClass_common negated kind
  | backspace => exact ⟨'\\', _, rfl, by decide⟩

end Member

/-- What stands for more than itself in a class has a meaning of its own elsewhere, too. -/
theorem isMember_of_isMeta {char : Char} (plain : Regex.Reader.isMeta char = false) :
    isMember char = true := by
  rw [isMember, contains_eq_false (by decide) plain]
  rfl

/-- A character passed on by itself or after a backslash reads as it is meant. -/
theorem classAtom_quoteInClass (char : Char) (rest : List Char) :
    classAtom false (Backtrack.Reader.quoteInClass char ++ rest) =
      some (.literal char false, rest) := by
  unfold Backtrack.Reader.quoteInClass
  split
  · next special =>
      apply escape_escapable
      simp [Regex.Reader.isEscapable, special]
  · next plain =>
      have allowed : isMember char = true := isMember_of_isMeta (by simpa using plain)
      show classAtom false (char :: rest) = some (.literal char false, rest)
      rw [classAtom]
      exact ne_of_test allowed (by decide)

/-- A quoted character starts an item. -/
theorem startsItem_quoteInClass (char : Char) :
    StartsItem (Backtrack.Reader.quoteInClass char) := by
  unfold Backtrack.Reader.quoteInClass
  split
  · exact ⟨'\\', [char], rfl, .inr rfl⟩
  · next plain => exact ⟨char, [], rfl, .inl (isMember_of_isMeta (by simpa using plain))⟩

namespace Literal

/-- A control character needs no quoting. -/
theorem quoteInClass_control (kind : Control) :
    Backtrack.Reader.quoteInClass kind.char = [kind.char] := by
  cases kind <;> rfl

/-- A literal that was passed on is read as its character. -/
theorem classAtom_collected (literal : Literal isMember) (rest : List Char) :
    classAtom false (literal.collected ++ rest) = some (.literal literal.char false, rest) := by
  cases literal with
  | bare char allowed => exact classAtom_text (fun _ => id) (.bare char allowed) rest
  | quoted char allowed => exact classAtom_quoteInClass char rest
  | control kind =>
      have quoted := classAtom_quoteInClass kind.char rest
      rw [quoteInClass_control] at quoted
      exact quoted

/-- A literal that was passed on starts an item. -/
theorem startsItem_collected (literal : Literal isMember) : StartsItem literal.collected := by
  cases literal with
  | bare char allowed => exact ⟨char, [], rfl, .inl allowed⟩
  | quoted char allowed => exact startsItem_quoteInClass char
  | control kind =>
      have quoted := startsItem_quoteInClass kind.char
      rw [quoteInClass_control] at quoted
      exact quoted

end Literal

namespace Member

/-- A member that was passed on is collected as its items. -/
theorem collects_collected (member : Member) : Collects member.collected (member.items false) := by
  cases member with
  | one literal =>
      exact collects_atom literal.startsItem_collected literal.classAtom_collected rfl
  | range first last firstAllowed lastAllowed ordered =>
      exact collects_range firstAllowed lastAllowed ordered
  | common negated kind => exact collects_common false negated kind
  | backspace => exact collects_atom ⟨'\x08', [], rfl, .inl (by decide)⟩ (fun _ => rfl) rfl

/-- A member that was passed on starts a class. -/
theorem startsClass_collected (member : Member) : StartsClass member.collected := by
  cases member with
  | one literal => exact literal.startsItem_collected.startsClass
  | range first last firstAllowed lastAllowed ordered =>
      exact StartsItem.startsClass ⟨first, _, rfl, .inl firstAllowed⟩
  | common negated kind => exact startsClass_common negated kind
  | backspace => exact ⟨'\x08', _, rfl, by decide⟩

end Member

/-- Texts of members in a row read as the items of all members. -/
theorem collects_members {text : Member → List Char} {items : Member → List ClassExpression}
    (collects : ∀ member, Collects (text member) (items member))
    (starts : ∀ member, StartsClass (text member)) (members : List Member) :
    Collects (members.map text).flatten (members.map items).flatten := by
  induction members with
  | nil => exact Collects.nil
  | cons member others ih =>
      rw [List.map_cons, List.flatten_cons, List.map_cons, List.flatten_cons]
      apply (collects member).append ih
      cases others with
      | nil => simp
      | cons next rest =>
          rw [List.map_cons, List.flatten_cons]
          exact ((starts next).append _).head_ne

/-! ### The sets of classes -/

variable {rules : Rules} {flags : Flags}

/-- The flags under which a reader takes a class for its set. -/
structure Rules.Governs (rules : Rules) (flags : Flags) : Prop where
  case : flags.caseInsensitive = rules.ignoreCase
  unicode : flags.unicode = true

/-- Items that together have the same members as a set. -/
def HaveSet (flags : Flags) (items : List ClassExpression) (set : CharSet) : Prop :=
  ∃ sets, ClassExpression.meanings flags items = some sets ∧
    (CharSet.unionAll sets).containsCode = set.containsCode

/-- A union has what one of its sets has. -/
theorem containsCode_unionAll (sets : List CharSet) (code : Nat) :
    (CharSet.unionAll sets).containsCode code = sets.any fun set => set.containsCode code := by
  induction sets with
  | nil => rfl
  | cons set rest ih =>
      cases rest with
      | nil => simp [CharSet.unionAll]
      | cons next others =>
          show (set.containsCode code || (CharSet.unionAll (next :: others)).containsCode code) = _
          rw [ih]
          rfl

theorem fold_congr {set other : CharSet} (same : set.containsCode = other.containsCode) :
    (rules.fold set).containsCode = (rules.fold other).containsCode := by
  unfold Rules.fold
  split
  · funext code
    simp only [CharSet.containsCode, same]
  · exact same

/-- Flags fold as the rules that govern them. -/
theorem Rules.Governs.fold (governs : rules.Governs flags) (set : CharSet) :
    flags.fold set = rules.fold set := by
  simp [Flags.fold, Rules.fold, governs.case, governs.unicode]

theorem negateIf_congr (negated : Bool) {set other : CharSet}
    (same : set.containsCode = other.containsCode) :
    (negateIf negated set).containsCode = (negateIf negated other).containsCode := by
  cases negated with
  | false => exact same
  | true =>
      funext code
      simp only [negateIf, if_true, CharSet.containsCode, same]

/-- Items mean their sets one after the other. -/
theorem meanings_append {items more : List ClassExpression} {sets others : List CharSet}
    (first : ClassExpression.meanings flags items = some sets)
    (second : ClassExpression.meanings flags more = some others) :
    ClassExpression.meanings flags (items ++ more) = some (sets ++ others) := by
  induction items generalizing sets with
  | nil =>
      have none : sets = [] := (Option.some.inj first).symm
      rw [none]
      exact second
  | cons item rest ih =>
      simp only [ClassExpression.meanings, Option.bind_eq_bind, Option.bind_eq_some_iff,
        Option.pure_def] at first
      obtain ⟨set, here, tail, remaining, made⟩ := first
      obtain rfl := Option.some.inj made
      simp only [List.cons_append, ClassExpression.meanings, here, ih remaining,
        Option.bind_eq_bind, Option.bind_some, Option.pure_def]

namespace HaveSet

/-- One item has its set. -/
theorem single {item : ClassExpression} {found set : CharSet}
    (means : item.meaning flags = some found) (same : found.containsCode = set.containsCode) :
    HaveSet flags [item] set := by
  refine ⟨[found], ?_, same⟩
  simp [ClassExpression.meanings, means]

theorem append {items more : List ClassExpression} {set other : CharSet}
    (first : HaveSet flags items set) (second : HaveSet flags more other) :
    HaveSet flags (items ++ more) (.union set other) := by
  obtain ⟨sets, firstMeans, firstSame⟩ := first
  obtain ⟨others, secondMeans, secondSame⟩ := second
  refine ⟨sets ++ others, meanings_append firstMeans secondMeans, ?_⟩
  funext code
  rw [containsCode_unionAll, List.any_append, ← containsCode_unionAll, ← containsCode_unionAll,
    firstSame, secondSame]
  rfl

/-- Items have every set with the same members. -/
theorem congr {items : List ClassExpression} {set other : CharSet}
    (found : HaveSet flags items set) (same : set.containsCode = other.containsCode) :
    HaveSet flags items other := by
  obtain ⟨sets, means, here⟩ := found
  exact ⟨sets, means, here.trans same⟩

/-- Several items mean the same as one. -/
theorem ofItems {items : List ClassExpression} {set : CharSet} (found : HaveSet flags items set) :
    ∃ one, (ClassExpression.ofItems items).meaning flags = some one ∧
      one.containsCode = set.containsCode := by
  obtain ⟨sets, means, same⟩ := found
  match items with
  | [] =>
      have none : sets = [] := (Option.some.inj means).symm
      subst none
      exact ⟨.empty, rfl, same⟩
  | [item] =>
      simp only [ClassExpression.meanings, Option.bind_eq_bind, Option.bind_eq_some_iff,
        Option.pure_def, Option.bind_some] at means
      obtain ⟨one, here, made⟩ := means
      obtain rfl := Option.some.inj made
      exact ⟨one, here, same⟩
  | item :: next :: rest =>
      refine ⟨.unionAll sets, ?_, same⟩
      simp only [ClassExpression.ofItems, ClassExpression.meaning, means, Option.map_some]

/-- A class ignores the case of all of its members, and is negated after that. -/
theorem bracketed (governs : rules.Governs flags) {items : List ClassExpression} {set : CharSet}
    (found : HaveSet flags items set) (negated : Bool) :
    ∃ one, (ClassExpression.bracketed negated (.ofItems items)).meaning flags = some one ∧
      one.containsCode = (negateIf negated (rules.fold set)).containsCode := by
  obtain ⟨inner, means, same⟩ := found.ofItems
  refine ⟨negateIf negated (rules.fold inner), ?_, negateIf_congr negated (fold_congr same)⟩
  simp only [ClassExpression.meaning, means, Option.bind_eq_bind, Option.bind_some,
    governs.fold, Flags.negate?, governs.unicode, if_true]
  cases negated <;> rfl

/-- A range has what lies between its ends. -/
theorem range (governs : rules.Governs flags) (first last : Char) :
    HaveSet flags [.range first false last false] (.between first last) := by
  apply single _ rfl
  simp [ClassExpression.meaning, Flags.classCode?, governs.unicode, CharSet.between]

/-- A literal has its character. -/
theorem literal (governs : rules.Governs flags) (char : Char) (byCode : Bool) :
    HaveSet flags [.literal char byCode] (.single char) := by
  apply single _ rfl
  simp [ClassExpression.meaning, Flags.classCode?, governs.unicode, CharSet.single]

/-- The items for digits have the digits. -/
theorem digits (governs : rules.Governs flags) :
    HaveSet flags digitItems (.ranges [(48, 57)]) := range governs '0' '9'

/-- The items for word characters have those of ASCII. -/
theorem word (governs : rules.Governs flags) : HaveSet flags wordItems asciiWord := by
  have letters := (range governs 'A' 'Z').append (range governs 'a' 'z')
  have others := (range governs '0' '9').append (literal governs '_' false)
  apply (letters.append others).congr
  funext code
  have upper : 'A'.toNat = 65 ∧ 'Z'.toNat = 90 := by decide
  have lower : 'a'.toNat = 97 ∧ 'z'.toNat = 122 := by decide
  have digits : '0'.toNat = 48 ∧ '9'.toNat = 57 := by decide
  have underscore : '_'.toNat = 95 := by decide
  rw [Bool.eq_iff_iff]
  simp only [CharSet.containsCode, asciiWord, CharSet.between, CharSet.single, Unicode.inRanges,
    List.any_cons, List.any_nil, Bool.or_false, Bool.or_eq_true, Bool.and_eq_true,
    decide_eq_true_eq, upper, lower, digits, underscore]
  omega

/-- Digits and word characters, or all other characters, as they stand in a class. -/
theorem ofKind (governs : rules.Governs flags) {items : List ClassExpression} {set : CharSet}
    (found : HaveSet flags items set) (negated : Bool) :
    HaveSet flags (if negated then [.bracketed true (.ofItems items)] else items)
      (if negated then .complement (rules.fold set) else set) := by
  cases negated with
  | false => exact found
  | true =>
      obtain ⟨one, means, same⟩ := found.bracketed governs true
      exact single means same

end HaveSet

namespace Member

/-- The items of a member have its set. -/
theorem haveSet_items (governs : rules.Governs flags) (member : Member) (byCode : Bool) :
    HaveSet flags (member.items byCode) (member.set rules) := by
  cases member with
  | one literal => exact .literal governs literal.char false
  | range first last firstAllowed lastAllowed ordered => exact .range governs first last
  | common negated kind =>
      cases kind with
      | digit => exact (HaveSet.digits governs).ofKind governs negated
      | space =>
          have means : (ClassExpression.common negated .space).meaning flags =
              some (negateIf negated .blank) := by
            cases negated <;>
              simp [ClassExpression.meaning, Flags.negate?, CommonClass.set, governs.unicode,
                negateIf]
          exact HaveSet.single means rfl
      | word => exact (HaveSet.word governs).ofKind governs negated
  | backspace => exact .literal governs '\x08' byCode

/-- The items of all members have the union of their sets. -/
theorem haveSet_all (governs : rules.Governs flags) (members : List Member) (byCode : Bool) :
    HaveSet flags (members.map (items byCode)).flatten
      (.unionAll (members.map (Member.set rules))) := by
  induction members with
  | nil => exact ⟨[], rfl, rfl⟩
  | cons member others ih =>
      rw [List.map_cons, List.flatten_cons, List.map_cons]
      apply ((member.haveSet_items governs byCode).append ih).congr
      funext code
      rw [containsCode_unionAll, List.any_cons, ← containsCode_unionAll]
      rfl

end Member

end TypedJson.Pattern
