import TypedJson.Proofs.Pattern.Counterpart
import TypedJson.Proofs.Pattern.Source

/-
This file compares the two engines on one body. A look-ahead for nothing after the body changes no
match, but leaves the search to the backtracking engine. There the letters that fold to one of
ASCII also count as word characters if case is ignored, and only such a letter next to a boundary
can make a difference, as long as both engines take the text of the body for the same pattern. They
do not always: after a repetition `+` is a second one for the linear engine, and for the other it
forbids to give back what was taken.
-/

namespace TypedJson.Pattern

/-! ### Words -/

/-- The word characters of ASCII and the two letters that differ from one of them in case only. -/
def isFoldedWord (char : Char) : Bool :=
  Regex.asciiWord.contains char || char = '\u017f' || char = '\u212a'

/-- The backtracking engine folds the word characters if case is ignored. -/
theorem Rules.word_eq (rules : Rules) :
    rules.word = if rules.ignoreCase then isFoldedWord else Regex.asciiWord.contains := by
  funext char
  cases folds : rules.ignoreCase with
  | false => simp [Rules.word, Rules.fold, folds]
  | true =>
      have small (code : Nat) (word : Regex.asciiWord.containsCode code = true) : code < 128 := by
        simp only [Regex.asciiWord, Regex.CharSet.containsCode, Unicode.inRanges, List.any_cons,
          List.any_nil, Bool.or_false, Bool.or_eq_true, Bool.and_eq_true, decide_eq_true_eq] at word
        omega
      have orbit : (Unicode.caseOrbit char.toNat).any Regex.asciiWord.containsCode = true ↔
          Regex.asciiWord.containsCode char.toNat = true ∨ char.toNat ∈ [0x17f, 0x212a] :=
        Unicode.caseOrbit_any_ascii small (by decide +kernel) (by decide +kernel) char.toNat
      have long : char.toNat = 0x17f ↔ char = '\u017f' := Char.toNat_inj (d := '\u017f')
      have kelvin : char.toNat = 0x212a ↔ char = '\u212a' := Char.toNat_inj (d := '\u212a')
      rw [Bool.eq_iff_iff]
      simp only [Rules.word, Rules.fold, folds, if_true, Regex.CharSet.contains,
        Regex.CharSet.containsCode, orbit, isFoldedWord, List.mem_cons, List.not_mem_nil, or_false,
        long, kelvin, Bool.or_eq_true, decide_eq_true_eq, or_assoc]

/-! ### Answers -/

/-- The answer of a search; nothing if the search is given up. -/
def Matcher.outcome (matcher : Matcher) (text : List Char) : Option Bool :=
  match matcher with
  | linear regex => some (regex.isMatch text)
  | backtracking search => search.outcome text

/-- A search that is given up finds no match. -/
theorem Matcher.isMatch_eq_outcome (matcher : Matcher) (text : List Char) :
    matcher.isMatch text = (matcher.outcome text).getD false := by
  cases matcher with
  | linear regex => rfl
  | backtracking search => exact search.isMatch_eq_outcome text

/-- Whether some part of the text matches; nothing if the search is given up. -/
def outcome (pattern : Pattern) (text : String) : Option Bool := pattern.matcher.outcome text.toList

/-- A search that is given up finds no match. -/
theorem isMatch_eq_outcome (pattern : Pattern) (text : String) :
    pattern.isMatch text = (pattern.outcome text).getD false :=
  pattern.matcher.isMatch_eq_outcome text.toList

/-- The source of parts is a pattern if an engine makes something of them. -/
theorem ofSource?_text {parts : Parts} (delimited : parts.Delimited) {pattern : Pattern}
    (read : ofSource? (String.ofList parts.text) = some pattern) :
    parts.matcher? = some pattern.matcher := by
  rw [ofSource?, String.toList_ofList, Parts.ofSource_text delimited] at read
  obtain ⟨matcher, found, rfl⟩ := Option.map_eq_some_iff.mp read
  exact found

/-! ### Bodies for both engines -/

/-- A pattern for the linear engine is what that engine reads. -/
theorem matcher_linear {parts : Parts} (delimited : parts.Delimited)
    (linear : engineFor parts.body = .linear) {pattern : Pattern}
    (read : ofSource? (String.ofList parts.text) = some pattern) :
    ∃ regex, Regex.ofText? parts.effective = some regex ∧ pattern.matcher = .linear regex := by
  have made := ofSource?_text delimited read
  rw [Parts.matcher?, linear] at made
  obtain ⟨regex, found, same⟩ := Option.map_eq_some_iff.mp made
  exact ⟨regex, found, same.symm⟩

/-- With a look-ahead for nothing behind the body the parts are still delimited. -/
theorem delimited_forcedText {body flags : List Char} (delimited : Parts.Delimited ⟨body, flags⟩) :
    Parts.Delimited ⟨forcedText body, flags⟩ := by
  refine ⟨delimited.flags, by simp [forcedText, openText], ?_⟩
  have oneLine : '\n' ∉ body := delimited.oneLine
  intro inside
  simp only [forcedText, List.mem_append] at inside
  rcases inside with (opening | here) | closing
  · exact absurd opening (by decide)
  · exact oneLine here
  · exact absurd closing (by decide)

/-- A body with a look-ahead behind it is left to the backtracking engine. -/
theorem matcher_forced {body flags : List Char} (delimited : Parts.Delimited ⟨body, flags⟩)
    {forced : Pattern}
    (read : ofSource? (String.ofList (Parts.text ⟨forcedText body, flags⟩)) = some forced) :
    ∃ search, Backtrack.ofText? (Parts.effective ⟨forcedText body, flags⟩) = some search ∧
      forced.matcher = .backtracking search := by
  have made := ofSource?_text (delimited_forcedText delimited) read
  rw [Parts.matcher?, engineFor_forcedText] at made
  obtain ⟨search, found, same⟩ := Option.map_eq_some_iff.mp made
  exact ⟨search, found, same.symm⟩

/-- What is read of a pattern is made to a search. -/
theorem Backtrack.ofText?_of_read {text : List Char} {expression : Backtrack.Expression}
    {groups : Nat} (read : Backtrack.Reader.read? text = some (expression, groups)) :
    Backtrack.ofText? text = Backtrack.ofExpression? groups expression := by
  rw [Backtrack.ofText?, read]
  rfl

/-- The engines have read the same expression, where the body is forced on the second. -/
def Parts.ReadAlike (parts : Parts) : Prop :=
  ∃ regex expression groups, Regex.ofText? parts.effective = some regex ∧
    Backtrack.Reader.read? (Parts.effective ⟨forcedText parts.body, parts.flags⟩) =
      some (expression, groups) ∧
        Counterpart groups parts.rules.word [regex] [expression]

/-- A body is a text of the syntax that the engines share, or at least read alike by them. -/
inductive Parts.Shared (parts : Parts) : Prop
  | written (body : Body) (same : body.text = parts.body)
  | alike (read : parts.ReadAlike)

/-- A pattern for the linear engine finds a match if words are made of the given characters. -/
def FindsUnder (word : Char → Bool) (text : String) (pattern : Pattern) : Prop :=
  ∃ regex, pattern.matcher = .linear regex ∧ regex.FindsUnder word text.toList

/-- A pattern for the linear engine finds what its expression finds. -/
theorem findsUnder_iff {pattern : Pattern} {regex : Regex}
    (engine : pattern.matcher = .linear regex) (word : Char → Bool) (text : String) :
    pattern.FindsUnder word text ↔ regex.FindsUnder word text.toList := by
  simp [FindsUnder, engine]

/-- A pattern for the linear engine finds the matches in which words are those of ASCII. -/
theorem isMatch_linear_iff {pattern : Pattern} {regex : Regex}
    (engine : pattern.matcher = .linear regex) (text : String) :
    pattern.isMatch text = true ↔ pattern.FindsUnder Regex.asciiWord.contains text := by
  rw [isMatch, engine, findsUnder_iff engine]
  exact (regex.isMatch_iff_matches text.toList).trans (Regex.findsUnder_ascii regex).symm

section

variable {body flags : List Char} {regex : Regex} {search : Backtrack} {text : List Char}
  {answer : Bool}

/-- A search for a forced body finds the matches in which words are folded as the flags say. -/
theorem Parts.ReadAlike.outcome_iff (alike : Parts.ReadAlike ⟨body, flags⟩)
    (made : Regex.ofText? (Parts.effective ⟨body, flags⟩) = some regex)
    (read : Backtrack.ofText? (Parts.effective ⟨forcedText body, flags⟩) = some search)
    (settled : search.outcome text = some answer) :
    answer = true ↔ regex.FindsUnder (Parts.rules ⟨body, flags⟩).word text := by
  obtain ⟨other, expression, groups, same, parsed, counterpart⟩ := alike
  obtain rfl := Option.some.inj (made.symm.trans same)
  rw [Backtrack.ofText?_of_read parsed] at read
  have regular := counterpart.regular expression (List.mem_singleton.mpr rfl)
  rw [Backtrack.outcome_ofExpression? regular read settled]
  apply exists_congr
  intro first
  apply exists_congr
  intro last
  rw [Counterpart.single_iff (counterpart.matchesRow_iff first last)]

/-- A search that is not given up finds what the expression of the linear engine finds, with the
word characters of the flags. -/
theorem Parts.Shared.outcome_iff (shared : Parts.Shared ⟨body, flags⟩)
    (linear : engineFor body = .linear)
    (made : Regex.ofText? (Parts.effective ⟨body, flags⟩) = some regex)
    (read : Backtrack.ofText? (Parts.effective ⟨forcedText body, flags⟩) = some search)
    (settled : search.outcome text = some answer) :
    answer = true ↔ regex.FindsUnder (Parts.rules ⟨body, flags⟩).word text := by
  cases shared with
  | written tree same =>
      obtain rfl : tree.text = body := same
      rw [forced_outcome_iff rfl read settled, linear_findsUnder_iff rfl linear made]
      rfl
  | alike alike => exact alike.outcome_iff made read settled

end

/-- The forced pattern finds the matches in which words are folded as the flags say. -/
theorem isMatch_forced_iff {body flags : List Char} (delimited : Parts.Delimited ⟨body, flags⟩)
    (linear : engineFor body = .linear) (shared : Parts.Shared ⟨body, flags⟩)
    {pattern forced : Pattern}
    (read : ofSource? (String.ofList (Parts.text ⟨body, flags⟩)) = some pattern)
    (readForced : ofSource? (String.ofList (Parts.text ⟨forcedText body, flags⟩)) = some forced)
    {text : String} (settled : forced.outcome text ≠ none) :
    forced.isMatch text = true ↔ pattern.FindsUnder (Parts.rules ⟨body, flags⟩).word text := by
  obtain ⟨regex, made, engine⟩ := matcher_linear delimited linear read
  obtain ⟨search, found, forcedEngine⟩ := matcher_forced delimited readForced
  rw [outcome, forcedEngine] at settled
  obtain ⟨answer, here⟩ := Option.ne_none_iff_exists'.mp settled
  rw [isMatch_eq_outcome, outcome, forcedEngine, here, Option.getD_some, findsUnder_iff engine]
  exact shared.outcome_iff linear made found here

/--
Both engines give the same answer exactly if it does not matter for the matches of the body whether
the two letters that fold to ASCII are word characters, and always if case is not ignored.
-/
theorem isMatch_eq_forced_iff {body flags : List Char} (delimited : Parts.Delimited ⟨body, flags⟩)
    (linear : engineFor body = .linear) (shared : Parts.Shared ⟨body, flags⟩)
    {pattern forced : Pattern}
    (read : ofSource? (String.ofList (Parts.text ⟨body, flags⟩)) = some pattern)
    (readForced : ofSource? (String.ofList (Parts.text ⟨forcedText body, flags⟩)) = some forced)
    {text : String} (settled : forced.outcome text ≠ none) :
    pattern.isMatch text = forced.isMatch text ↔
      ('i' ∈ flags → (pattern.FindsUnder Regex.asciiWord.contains text ↔
        pattern.FindsUnder isFoldedWord text)) := by
  obtain ⟨regex, -, engine⟩ := matcher_linear delimited linear read
  have plain := isMatch_linear_iff engine text
  have folded := isMatch_forced_iff delimited linear shared read readForced settled
  rw [Rules.word_eq] at folded
  rw [Bool.eq_iff_iff, plain, folded]
  by_cases ignores : 'i' ∈ flags
  · simp [Parts.rules, ignores]
  · simp [Parts.rules, ignores]

/-- The body of a pattern with a boundary. -/
def boundaryBody : Body :=
  .item (.boundary false) none (.item (.one (.bare 'x' rfl)) none .done)

/-- What the linear engine reads for it, where the letter may be written as its code. -/
def boundaryRegex : Regex :=
  .seq [.empty, .look (.wordBoundary .ascii), .one (.caseClosure (.single 'x'))]

/-- The example is small. -/
theorem isCompilable_boundaryRegex : boundaryRegex.isCompilable = true := by
  decide +kernel

/-- The linear engine reads a boundary of ASCII and the letter with its case ignored. -/
theorem ofText?_boundaryRegex {text : List Char} (byCode : Bool)
    (read : Regex.Reader.read? text = some (.concat [.flags [(.caseInsensitive, true)],
      .group [(.unicode, false)] (.anchor .wordBoundary), .literal 'x' byCode])) :
    Regex.ofText? text = some boundaryRegex := by
  have means : Regex.Expression.meaning .standard (.concat [.flags [(.caseInsensitive, true)],
      .group [(.unicode, false)] (.anchor .wordBoundary), .literal 'x' byCode]) =
        some (boundaryRegex, (Rules.mk true false).flags) := by
    cases byCode <;> rfl
  simp only [Regex.ofText?, read, means, Option.bind_eq_bind, Option.bind_some,
    isCompilable_boundaryRegex, if_true, Option.pure_def]

/-- For the linear engine the pattern is found on a letter that folds to ASCII. -/
theorem outcome_boundary : (ofSource? "/\\bx/i").map (·.outcome "ſx") = some (some true) := by
  have delimited : Parts.Delimited ⟨['\\', 'b', 'x'], ['i']⟩ :=
    ⟨List.forall_mem_singleton.mpr rfl, by decide, by decide⟩
  have source : "/\\bx/i".toList = Parts.text ⟨['\\', 'b', 'x'], ['i']⟩ := by decide
  have linear : engineFor ['\\', 'b', 'x'] = .linear := by decide
  have made := ofText?_boundaryRegex false (by with_unfolding_all rfl :
    Regex.Reader.read? (Parts.effective ⟨['\\', 'b', 'x'], ['i']⟩) = _)
  have found : boundaryRegex.isMatch "ſx".toList = true := by decide +kernel
  rw [ofSource?, source, Parts.ofSource_text delimited, Parts.matcher?, linear, made]
  exact congrArg (some ∘ some) found

/-- The word characters with the case ignored, as a class for the backtracking engine. -/
def foldedWordSet : Regex.CharSet :=
  .caseClosure (.union (.ranges [(65, 90)]) (.union (.ranges [(97, 122)])
    (.union (.ranges [(48, 57)]) (.ranges [(95, 95)]))))

/-- What the pattern for the backtracking engine is read as. -/
def boundaryExpression : Backtrack.Expression :=
  let word := .set (.one foldedWordSet)
  .concat
    [.concat
      [.alternation
        [.concat [.lookAround true false word, .lookAround false true word],
          .concat [.lookAround true true word, .lookAround false false word]],
        .literal 'x' true],
      .lookAround false false .empty]

/-- The backtracking engine reads look-arounds in place of the boundary. -/
theorem read?_forcedBoundary :
    Backtrack.Reader.read? (Parts.effective ⟨boundaryBody.forced, ['i']⟩) =
      some (boundaryExpression, 0) := by
  with_unfolding_all rfl

/-- The backtracking engine finds no boundary between two letters that both fold to ASCII. -/
theorem outcome_boundaryExpression :
    (Backtrack.ofExpression? 0 boundaryExpression).map (·.outcome "ſx".toList) =
      some (some false) := by
  decide +kernel

/-- For the backtracking engine the same pattern is not found. -/
theorem outcome_forcedBoundary :
    (ofSource? "/(?:\\bx)(?=)/i").map (·.outcome "ſx") = some (some false) := by
  have delimited : Parts.Delimited ⟨boundaryBody.forced, ['i']⟩ :=
    ⟨List.forall_mem_singleton.mpr rfl, by decide, by decide⟩
  have source : "/(?:\\bx)(?=)/i".toList = Parts.text ⟨boundaryBody.forced, ['i']⟩ := by decide
  obtain ⟨search, made, answer⟩ := Option.map_eq_some_iff.mp outcome_boundaryExpression
  rw [ofSource?, source, Parts.ofSource_text delimited, Parts.matcher?, Body.engineFor_forced]
  rw [Backtrack.ofText?_of_read read?_forcedBoundary, made]
  exact congrArg some answer

/-- With the flag for case the answers of the two engines differ. -/
theorem isMatch_ne_forced_boundary :
    ∃ pattern forced, ofSource? "/\\bx/i" = some pattern ∧
      ofSource? "/(?:\\bx)(?=)/i" = some forced ∧ engineFor "\\bx".toList = .linear ∧
        forced.outcome "ſx" ≠ none ∧ pattern.isMatch "ſx" = true ∧ forced.isMatch "ſx" = false := by
  obtain ⟨pattern, read, answer⟩ := Option.map_eq_some_iff.mp outcome_boundary
  obtain ⟨forced, readForced, settled⟩ := Option.map_eq_some_iff.mp outcome_forcedBoundary
  refine ⟨pattern, forced, read, readForced, by decide, by simp [settled], ?_, ?_⟩
  · rw [isMatch_eq_outcome, answer, Option.getD_some]
  · rw [isMatch_eq_outcome, settled, Option.getD_some]

/-! ### Bodies outside of the shared syntax -/

/-- Delimited parts that an engine makes something of are the source of a pattern. -/
theorem ofSource?_of_matcher? {parts : Parts} (delimited : parts.Delimited) {matcher : Matcher}
    (made : parts.matcher? = some matcher) :
    ∃ pattern, ofSource? (String.ofList parts.text) = some pattern ∧ pattern.matcher = matcher := by
  refine ⟨⟨String.ofList parts.text, parts, matcher⟩, ?_, rfl⟩
  rw [ofSource?, String.toList_ofList, Parts.ofSource_text delimited, made]
  rfl

/-- The set of the backtracking engine holds the word characters of ASCII and what folds to them. -/
theorem contains_foldedWordSet : foldedWordSet.contains = (Rules.mk true false).word := by
  have members : (Regex.CharSet.union (.ranges [(65, 90)]) (.union (.ranges [(97, 122)])
      (.union (.ranges [(48, 57)]) (.ranges [(95, 95)])))).containsCode =
        Regex.asciiWord.containsCode := by
    funext code
    simp only [Regex.asciiWord, Regex.CharSet.containsCode, Unicode.inRanges, List.any_cons,
      List.any_nil, Bool.or_false]
    ac_rfl
  funext char
  exact congrArg (Unicode.caseOrbit char.toNat).any members

/-- The body of a pattern with a boundary, with a letter written as its code. -/
def escapedBody : List Char := "\\b\\x78".toList

/-- With its letter written as a code the body is read the same by the linear engine. -/
theorem ofText?_escapedBody :
    Regex.ofText? (Parts.effective ⟨escapedBody, ['i']⟩) = some boundaryRegex :=
  ofText?_boundaryRegex true (by with_unfolding_all rfl)

/-- With its letter written as a code the body is read the same by the backtracking engine. -/
theorem read?_forcedEscaped :
    Backtrack.Reader.read? (Parts.effective ⟨forcedText escapedBody, ['i']⟩) =
      some (boundaryExpression, 0) := by
  with_unfolding_all rfl

/-- Both engines read the escaped body alike. -/
theorem readAlike_escapedBody : Parts.ReadAlike ⟨escapedBody, ['i']⟩ := by
  refine ⟨boundaryRegex, boundaryExpression, 0, ofText?_escapedBody, read?_forcedEscaped, ?_⟩
  have ending : Counterpart 0 (Rules.mk true false).word [.one (.caseClosure (.single 'x'))]
      [.literal 'x' true, .lookAround false false .empty] :=
    .one rfl (fun _ => rfl) (.nothingAhead .nil)
  have row : Counterpart 0 (Rules.mk true false).word
      [.look (.wordBoundary .ascii), .one (.caseClosure (.single 'x'))]
      [boundaryLooks foldedWordSet false, .literal 'x' true, .lookAround false false .empty] :=
    .boundary rfl contains_foldedWordSet ending
  exact .seq (.empty (.concat (.concat row)))

/-- The escaped body is read alike, and the letter that folds to ASCII makes the difference. -/
theorem isMatch_eq_forced_iff_escaped :
    ∃ pattern forced, ofSource? (String.ofList (Parts.text ⟨escapedBody, ['i']⟩)) = some pattern ∧
      ofSource? (String.ofList (Parts.text ⟨forcedText escapedBody, ['i']⟩)) = some forced ∧
        engineFor escapedBody = .linear ∧ Parts.Shared ⟨escapedBody, ['i']⟩ ∧
          forced.outcome "ſx" ≠ none ∧
            (pattern.isMatch "ſx" = forced.isMatch "ſx" ↔
              ('i' ∈ ['i'] → (pattern.FindsUnder Regex.asciiWord.contains "ſx" ↔
                pattern.FindsUnder isFoldedWord "ſx"))) := by
  have delimited : Parts.Delimited ⟨escapedBody, ['i']⟩ :=
    ⟨List.forall_mem_singleton.mpr rfl, by decide, by decide⟩
  have linear : engineFor escapedBody = .linear := by decide
  have made : Parts.matcher? ⟨escapedBody, ['i']⟩ = some (.linear boundaryRegex) := by
    rw [Parts.matcher?, linear, ofText?_escapedBody]
    rfl
  obtain ⟨pattern, read, -⟩ := ofSource?_of_matcher? delimited made
  obtain ⟨search, found, answer⟩ := Option.map_eq_some_iff.mp outcome_boundaryExpression
  have madeForced :
      Parts.matcher? ⟨forcedText escapedBody, ['i']⟩ = some (.backtracking search) := by
    rw [Parts.matcher?, engineFor_forcedText, Backtrack.ofText?_of_read read?_forcedEscaped, found]
    rfl
  obtain ⟨forced, readForced, engine⟩ :=
    ofSource?_of_matcher? (delimited_forcedText delimited) madeForced
  have settled : forced.outcome "ſx" ≠ none := by
    have here : forced.outcome "ſx" = some false := by
      rw [outcome, engine]
      exact answer
    simp [here]
  exact ⟨pattern, forced, read, readForced, linear, .alike readAlike_escapedBody, settled,
    isMatch_eq_forced_iff delimited linear (.alike readAlike_escapedBody) read readForced settled⟩

/-! ### Texts without such letters -/

/-- On a text without the two letters that fold to ASCII the engines agree. -/
theorem isMatch_eq_forced {body flags : List Char} (delimited : Parts.Delimited ⟨body, flags⟩)
    (linear : engineFor body = .linear) (shared : Parts.Shared ⟨body, flags⟩)
    {pattern forced : Pattern}
    (read : ofSource? (String.ofList (Parts.text ⟨body, flags⟩)) = some pattern)
    (readForced : ofSource? (String.ofList (Parts.text ⟨forcedText body, flags⟩)) = some forced)
    {text : String} (settled : forced.outcome text ≠ none)
    (unfolded : ∀ char ∈ text.toList, char ≠ '\u017f' ∧ char ≠ '\u212a') :
    pattern.isMatch text = forced.isMatch text := by
  obtain ⟨regex, -, engine⟩ := matcher_linear delimited linear read
  have same : ∀ char ∈ text.toList,
      Regex.asciiWord.contains char = (Parts.rules ⟨body, flags⟩).word char := by
    intro char inside
    obtain ⟨long, kelvin⟩ := unfolded char inside
    rw [Rules.word_eq]
    split
    · simp [isFoldedWord, long, kelvin]
    · rfl
  rw [Bool.eq_iff_iff, isMatch_linear_iff engine,
    isMatch_forced_iff delimited linear shared read readForced settled, findsUnder_iff engine,
    findsUnder_iff engine]
  exact Regex.findsUnder_congr same regex

end TypedJson.Pattern
