import TypedJson.Backtrack.Reader
import TypedJson.Proofs.Pattern.LinearText

namespace TypedJson.Pattern

open TypedJson.Backtrack.Reader (Memory bracketText classText)

/-- The reader passes some text of a class on as another, whatever stands after it. -/
def Gathers (source passed : List Char) : Prop :=
  ∀ memory fuel depth rest found after,
    classText memory fuel depth (source ++ rest) = some (found, after) →
      ∃ left others, classText memory left depth rest = some (others, after) ∧
        found = passed ++ others

namespace Gathers

theorem nil : Gathers [] [] := fun _ fuel _ _ found _ read => ⟨fuel, found, read, rfl⟩

theorem append {source passed other more : List Char} (first : Gathers source passed)
    (second : Gathers other more) : Gathers (source ++ other) (passed ++ more) := by
  intro memory fuel depth rest found after read
  rw [List.append_assoc] at read
  obtain ⟨left, middle, between, rfl⟩ := first memory fuel depth (other ++ rest) found after read
  obtain ⟨last, others, ending, rfl⟩ := second memory left depth rest middle after between
  exact ⟨last, others, ending, (List.append_assoc _ _ _).symm⟩

/-- What the reader passes on in one step. -/
theorem of_step {source passed : List Char}
    (step : ∀ memory fuel depth rest, classText memory (fuel + 1) depth (source ++ rest) =
      (classText memory fuel depth rest).map fun (others, after) => (passed ++ others, after)) :
    Gathers source passed := by
  intro memory fuel depth rest found after read
  cases fuel with
  | zero => simp [classText] at read
  | succ fuel =>
      rw [step] at read
      obtain ⟨⟨others, last⟩, here, same⟩ := Option.map_eq_some_iff.mp read
      obtain ⟨rfl, rfl⟩ := Prod.mk.inj same
      exact ⟨fuel, others, here, rfl⟩

/-- A character that is no bracket and no backslash is passed on as it is. -/
theorem single {char : Char} (allowed : char ∉ ['\\', '[', ']']) : Gathers [char] [char] := by
  simp only [List.mem_cons, List.not_mem_nil, or_false, not_or] at allowed
  obtain ⟨slash, opens, closes⟩ := allowed
  apply of_step
  intro memory fuel depth rest
  rw [List.singleton_append, classText]
  · rfl
  · exact slash
  · exact opens
  · exact closes

/-- Characters that are no signs of a class are passed on. -/
theorem ofList {chars : List Char}
    (allowed : chars.all (fun char => !(['\\', '[', ']'].contains char)) = true) :
    Gathers chars chars := by
  induction chars with
  | nil => exact nil
  | cons char others ih =>
      rw [List.all_cons, Bool.and_eq_true] at allowed
      have plain : char ∉ ['\\', '[', ']'] := by simpa using allowed.1
      exact (single plain).append (ih allowed.2)

/-- An escape for one character is passed on as this character, quoted if need be. -/
theorem escaped {source : List Char} {char : Char}
    (reads : ∀ memory rest, Backtrack.Reader.escape memory true (source ++ rest) =
      some (.char char, rest)) :
    Gathers ('\\' :: source) (Backtrack.Reader.quoteInClass char) := by
  apply of_step
  intro memory fuel depth rest
  simp only [List.cons_append, classText, reads]

/-- A class escape is passed on as it is. -/
theorem escapedText {source passed : List Char}
    (reads : ∀ memory rest, Backtrack.Reader.escape memory true (source ++ rest) =
      some (.text passed, rest)) : Gathers ('\\' :: source) passed := by
  apply of_step
  intro memory fuel depth rest
  simp only [List.cons_append, classText, reads]

/-- A class inside of a class is passed on with its brackets. -/
theorem nested {source passed : List Char} (inner : Gathers source passed) :
    Gathers ('[' :: source ++ [']']) ('[' :: passed ++ [']']) := by
  intro memory fuel depth rest found after read
  have shape : '[' :: source ++ [']'] ++ rest = '[' :: (source ++ ']' :: rest) := by simp
  rw [shape] at read
  cases fuel with
  | zero => simp [classText] at read
  | succ fuel =>
      rw [classText] at read
      obtain ⟨⟨middle, last⟩, here, same⟩ := Option.map_eq_some_iff.mp read
      obtain ⟨rfl, rfl⟩ := Prod.mk.inj same
      obtain ⟨left, others, here, rfl⟩ := inner memory fuel (depth + 1) _ middle _ here
      cases left with
      | zero => simp [classText] at here
      | succ left =>
          simp only [classText, Nat.add_one_ne_zero, if_false, Nat.add_sub_cancel] at here
          obtain ⟨⟨ending, final⟩, closes, same⟩ := Option.map_eq_some_iff.mp here
          obtain ⟨rfl, rfl⟩ := Prod.mk.inj same
          exact ⟨left, ending, closes, by simp⟩

end Gathers

/-- Nothing that a backslash may quote is a letter or a digit. -/
theorem not_alphanum {char : Char} (allowed : Regex.Reader.isEscapable char = true) :
    char.isAlphanum = false := by
  rw [Regex.Reader.isEscapable, Bool.or_eq_true] at allowed
  rcases allowed with special | other
  · have plain := of_contains (fun mark => !mark.isAlphanum) (by decide) special
    simpa using plain
  · simp only [Bool.and_eq_true, Bool.not_eq_true'] at other
    exact other.1.1.2

/-- A backslash before a character that it may quote makes this character. -/
theorem backtrack_escape {char : Char} (allowed : Regex.Reader.isEscapable char = true)
    (memory : Memory) (inClass : Bool) (rest : List Char) :
    Backtrack.Reader.escape memory inClass (char :: rest) =
      some (if inClass then .char char else .exact char, rest) := by
  have outside : char.isAlpha = false ∧ char.isDigit = false := by
    simpa [Char.isAlphanum] using not_alphanum allowed
  obtain ⟨letter, digit⟩ := outside
  have unclassed : "dDsSwW".toList.contains char = false := contains_eq_false (by decide) letter
  unfold Backtrack.Reader.escape
  split
  · next empty => exact absurd empty (List.cons_ne_nil _ _)
  all_goals try
    (next same =>
      rw [(List.cons.inj same).1] at allowed
      exact absurd allowed (by decide))
  next same =>
    obtain ⟨rfl, rfl⟩ := List.cons.inj same
    cases inClass with
    | true =>
        simp only [letter, digit, unclassed, Bool.false_and, Bool.false_eq_true, if_false, if_true]
    | false =>
        simp only [digit, unclassed, Bool.false_eq_true, if_false]
        split
        all_goals first
          | exact absurd allowed (by decide)
          | simp [letter]

/-- A literal is passed on as its character, quoted if it has to be. -/
theorem gathers_literal (literal : Literal isMember) :
    Gathers literal.text literal.collected := by
  cases literal with
  | bare char allowed =>
      apply Gathers.single
      intro inside
      simp only [List.mem_cons, List.not_mem_nil, or_false] at inside
      rcases inside with rfl | rfl | rfl
      all_goals exact absurd allowed (by decide)
  | quoted char allowed =>
      have reads (memory : Memory) (rest : List Char) :
          Backtrack.Reader.escape memory true ([char] ++ rest) = some (.char char, rest) :=
        backtrack_escape allowed memory true rest
      exact Gathers.escaped reads
  | control kind =>
      have reads (memory : Memory) (rest : List Char) :
          Backtrack.Reader.escape memory true ([kind.letter] ++ rest) =
            some (.char kind.char, rest) := by
        cases kind <;> rfl
      have passed := Gathers.escaped reads
      rw [Literal.quoteInClass_control] at passed
      exact passed

/-- The image of a member is passed on. -/
theorem gathers_member (member : Member) : Gathers member.image member.collected := by
  cases member with
  | one literal => exact gathers_literal literal
  | range first last firstAllowed lastAllowed ordered =>
      have plain {char : Char} (allowed : isMember char = true) : char ∉ ['\\', '[', ']'] := by
        intro inside
        simp only [List.mem_cons, List.not_mem_nil, or_false] at inside
        rcases inside with rfl | rfl | rfl
        all_goals exact absurd allowed (by decide)
      have hyphen : Gathers ['-', last] ['-', last] :=
        (Gathers.single (by decide)).append (Gathers.single (plain lastAllowed))
      exact (Gathers.single (plain firstAllowed)).append hyphen
  | common negated kind =>
      cases kind with
      | digit =>
          cases negated with
          | false => exact Gathers.ofList (by decide)
          | true => exact Gathers.nested (Gathers.ofList (by decide) : Gathers "^0-9".toList _)
      | space => cases negated <;> exact Gathers.escapedText fun _ _ => rfl
      | word =>
          cases negated with
          | false => exact Gathers.ofList (by decide)
          | true =>
              exact Gathers.nested (Gathers.ofList (by decide) : Gathers "^A-Za-z0-9_".toList _)
  | backspace =>
      have reads (memory : Memory) (rest : List Char) :
          Backtrack.Reader.escape memory true ("x08".toList ++ rest) = some (.char '\x08', rest) :=
        rfl
      exact Gathers.escaped reads

/-- The images of members are passed on one by one. -/
theorem gathers_members (members : List Member) :
    Gathers (members.map Member.image).flatten (members.map Member.collected).flatten := by
  induction members with
  | nil => exact Gathers.nil
  | cons member others ih =>
      rw [List.map_cons, List.flatten_cons, List.map_cons, List.flatten_cons]
      exact (gathers_member member).append ih

/-- After the bracket that opens a class, and its caret, the class is passed on as a text. -/
theorem bracketText_starts {source : List Char} (starts : StartsClass source) (negated : Bool)
    (memory : Memory) (rest : List Char) :
    bracketText memory (negation negated ++ source ++ ']' :: rest) =
      (classText memory ((source ++ ']' :: rest).length + 1) 0 (source ++ ']' :: rest)).map
        fun (text, rest) => ('[' :: negation negated ++ text, rest) := by
  obtain ⟨char, others, rfl, caret, hyphen, closing⟩ := starts
  cases negated with
  | false => simp [bracketText, negation, caret, closing]
  | true => simp [bracketText, negation, closing]

/-- The text of a class is passed on with its brackets and its negation. -/
theorem bracketText_members {source passed : List Char} (gathers : Gathers source passed)
    (starts : StartsClass source) {negated : Bool} {memory : Memory} {rest : List Char}
    {found : List Char × List Char}
    (read : bracketText memory (negation negated ++ source ++ ']' :: rest) = some found) :
    found = ('[' :: negation negated ++ passed ++ [']'], rest) := by
  have closes {fuel : Nat} {others last : List Char}
      (here : classText memory fuel 0 (']' :: rest) = some (others, last)) :
      others = [']'] ∧ last = rest := by
    cases fuel with
    | zero => simp [classText] at here
    | succ fuel =>
        simp only [classText, if_true, Option.some.injEq, Prod.mk.injEq] at here
        exact ⟨here.1.symm, here.2.symm⟩
  rw [bracketText_starts starts] at read
  obtain ⟨⟨inside, last⟩, here, same⟩ := Option.map_eq_some_iff.mp read
  obtain ⟨left, ending, after, rfl⟩ := gathers memory _ 0 (']' :: rest) inside last here
  obtain ⟨rfl, rfl⟩ := closes after
  rw [← same]
  simp

/-- What reads as one item is all that its text reads as. -/
theorem read?_item {source : List Char} {item : Regex.Expression} (reads : ReadsItem source item)
    {found : Regex.Expression} (read : Regex.Reader.read? source = some found) : found = item := by
  obtain ⟨fuel, memory, whole⟩ := read?_eq_some read
  cases fuel with
  | zero => simp [Regex.Reader.alternatives] at whole
  | succ fuel =>
      rw [Regex.Reader.alternatives] at whole
      cases here : Regex.Reader.sequence fuel ⟨false, 0, []⟩ [] source with
      | none => simp [here] at whole
      | some row =>
          rw [here] at whole
          rw [← List.append_nil source] at here
          obtain ⟨left, ending⟩ := reads fuel _ [] [] row rfl here
          cases left with
          | zero => simp [Regex.Reader.sequence] at ending
          | succ left =>
              simp only [Regex.Reader.sequence, Regex.Reader.skip, Bool.false_eq_true, if_false,
                Option.some.injEq] at ending
              subst ending
              simp only [Option.some.injEq, Prod.mk.injEq] at whole
              exact whole.1.symm

end TypedJson.Pattern
