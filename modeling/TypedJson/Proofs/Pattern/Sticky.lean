import TypedJson.Proofs.Pattern.Agreement
import TypedJson.Proofs.Pattern.StickyBacktrack

namespace TypedJson.Pattern

/-! ### Matchers -/

/-- Whether a match starts at a position, whatever is found at others. -/
def Matcher.FindsAt (matcher : Matcher) (text : List Char) (position : Nat) : Prop :=
  match matcher with
  | linear regex => ∃ last, Regex.Matches text regex position last
  | backtracking search => search.FindsAt text position

/-- Whether a match of a pattern starts at a position, whatever is found at others. -/
def FindsAt (pattern : Pattern) (text : String) (position : Nat) : Prop :=
  pattern.matcher.FindsAt text.toList position

namespace Parts

variable {parts : Parts}

/-- The same body with the sticky flag besides. -/
def tied (parts : Parts) : Parts := { parts with flags := parts.flags ++ ['y'] }

/-- Without the sticky flag the effective text is the flags and the body. -/
theorem effective_untied (untied : 'y' ∉ parts.flags) :
    parts.effective = flagText parts.rules ++ engineText (engineFor parts.body) parts.body := by
  have sticky : parts.flags.contains 'y' = false := by simpa using untied
  rw [effective, sticky, if_neg Bool.false_ne_true]
  rfl

/-- With the sticky flag the body is tied to the start. -/
theorem effective_tied (parts : Parts) :
    parts.tied.effective =
      flagText parts.rules ++ tiedText (engineText (engineFor parts.body) parts.body) := by
  have others (flag : Char) (other : flag ≠ 'y') :
      parts.tied.flags.contains flag = parts.flags.contains flag := by
    simp [tied, other]
  have sticky : parts.tied.flags.contains 'y' = true := by simp [tied]
  rw [effective, others 'i' (by decide), others 'm' (by decide), sticky, if_pos rfl]
  rfl

/-- A body that the group around a tied body encloses, and that is within the limits of its engine. -/
def Enclosable (parts : Parts) : Prop :=
  let input := engineText (engineFor parts.body) parts.body
  match engineFor parts.body with
  | .linear => Regex.Enclosable parts.rules input
  | .backtracking => Backtrack.Reader.Enclosable parts.rules input ∧
      Backtrack.WithinLimits (flagText parts.rules ++ input) ∧
        Backtrack.WithinLimits (flagText parts.rules ++ tiedText input)

/-- A body that the group encloses is read with the sticky flag just if it is read without. -/
theorem isSome_matcher?_tied (untied : 'y' ∉ parts.flags) (enclosable : parts.Enclosable) :
    parts.tied.matcher?.isSome = true ↔ parts.matcher?.isSome = true := by
  have sameEngine : engineFor parts.tied.body = engineFor parts.body := rfl
  rw [matcher?, matcher?, sameEngine, effective_tied, effective_untied untied]
  unfold Enclosable at enclosable
  cases engine : engineFor parts.body with
  | linear =>
      rw [engine] at enclosable
      simpa only [Option.isSome_map] using enclosable.isSome_ofText?_iff
  | backtracking =>
      rw [engine] at enclosable
      obtain ⟨enclosable, within, tied⟩ := enclosable
      simpa only [Option.isSome_map] using Backtrack.isSome_ofText?_tied_iff enclosable within tied

/-- Of two patterns that differ in the sticky flag, the tied one finds matches at the start only. -/
theorem outcome_tied_iff {plain anchored : Matcher} {text : List Char} {answer : Bool}
    (untied : 'y' ∉ parts.flags) (made : parts.matcher? = some plain)
    (madeToo : parts.tied.matcher? = some anchored) (settled : anchored.outcome text = some answer) :
    answer = true ↔ plain.FindsAt text 0 := by
  have sameEngine : engineFor parts.tied.body = engineFor parts.body := rfl
  rw [matcher?, effective_untied untied] at made
  rw [matcher?, sameEngine, effective_tied] at madeToo
  cases engine : engineFor parts.body with
  | linear =>
      rw [engine] at made madeToo
      obtain ⟨regex, one, rfl⟩ := Option.map_eq_some_iff.mp made
      obtain ⟨tied, other, rfl⟩ := Option.map_eq_some_iff.mp madeToo
      obtain rfl : tied.isMatch text = answer := Option.some.inj settled
      exact Regex.isMatch_tied_iff one other text
  | backtracking =>
      rw [engine] at made madeToo
      obtain ⟨search, one, rfl⟩ := Option.map_eq_some_iff.mp made
      obtain ⟨tied, other, rfl⟩ := Option.map_eq_some_iff.mp madeToo
      exact Backtrack.outcome_ofText?_tied_iff one other settled

/-- A search that finds a match at the start and is not given up finds one. -/
theorem outcome_of_findsAt {plain : Matcher} {text : List Char} {answer : Bool}
    (made : parts.matcher? = some plain) (finds : plain.FindsAt text 0)
    (settled : plain.outcome text = some answer) : answer = true := by
  rw [matcher?] at made
  cases engine : engineFor parts.body with
  | linear =>
      rw [engine] at made
      obtain ⟨regex, -, rfl⟩ := Option.map_eq_some_iff.mp made
      obtain rfl : regex.isMatch text = answer := Option.some.inj settled
      obtain ⟨last, found⟩ := finds
      exact (Regex.isMatch_iff_matches _ _).mpr ⟨0, last, Nat.zero_le _, found⟩
  | backtracking =>
      rw [engine] at made
      obtain ⟨search, read, rfl⟩ := Option.map_eq_some_iff.mp made
      obtain ⟨⟨expression, groups⟩, -, made⟩ := Option.bind_eq_some_iff.mp read
      exact Backtrack.outcome_of_findsAt made finds settled

end Parts

/-! ### Sources -/

/-- A source is a pattern just if an engine makes something of its parts. -/
theorem isSome_ofSource? (source : String) :
    (ofSource? source).isSome = (Parts.ofSource source.toList).matcher?.isSome :=
  Option.isSome_map

/-- The sticky flag is written behind the others. -/
theorem IsWritten.tied {source body flags : String} (written : IsWritten source body flags) :
    IsWritten (source ++ "y") body (flags ++ "y") := by
  refine ⟨?_, written.nonempty, written.oneLine, ?_⟩
  · rw [written.written, String.append_assoc]
  · intro flag inside
    rw [String.toList_append, List.mem_append] at inside
    obtain before | last := inside
    · exact written.known flag before
    · have same : flag = 'y' := List.mem_singleton.mp last
      simp [same]

/-- One pattern matches where another one has a match that starts at the start of the text. -/
structure AnchoredTo (plain sticky : Pattern) : Prop where
  starts : ∀ text, sticky.outcome text ≠ none →
    (sticky.isMatch text = true ↔ plain.FindsAt text 0)
  /-- The other one finds a match that starts at the start as well, unless it is given up. -/
  found : ∀ text, plain.outcome text ≠ none → plain.FindsAt text 0 → plain.isMatch text = true

/-- A choice for the linear engine. -/
theorem enclosable_choice : Parts.Enclosable ⟨"a|b".toList, "i".toList⟩ := by
  have engine : engineFor "a|b".toList = .linear := by decide
  have whole : engineText .linear "a|b".toList = "a|b".toList := by decide
  have rules : Parts.rules ⟨"a|b".toList, "i".toList⟩ = ⟨true, false⟩ := rfl
  simp only [Parts.Enclosable, engine, whole, rules]
  have closed : Regex.Reader.Reads ⟨false, 0, []⟩ "a|b)".toList
      (.alternation [.literal 'a' false, .literal 'b' false], ⟨false, 0, []⟩, [')']) := ⟨20, rfl⟩
  have plain : Regex.Reader.Reads ⟨false, 0, []⟩ "(?i)a|b".toList
      (.alternation [.concat [.flags [(.caseInsensitive, true)], .literal 'a' false],
        .literal 'b' false], ⟨false, 0, []⟩, []) := ⟨20, rfl⟩
  have tied : Regex.Reader.Reads ⟨false, 0, []⟩ "(?i)\\A(?:a|b)".toList
      (.concat [.flags [(.caseInsensitive, true)], .anchor .textStart,
        .group [] (.alternation [.literal 'a' false, .literal 'b' false])], ⟨false, 0, []⟩, []) :=
    ⟨20, rfl⟩
  exact .of_reads closed (.of_reads plain (by decide) (by decide +kernel))
    (.of_reads tied (by decide) (by decide +kernel))

/-- A group and a reference to it for the backtracking engine. -/
theorem enclosable_twice : Parts.Enclosable ⟨"(a)\\1".toList, "m".toList⟩ := by
  have engine : engineFor "(a)\\1".toList = .backtracking := by decide
  have whole : engineText .backtracking "(a)\\1".toList = "(a)\\1".toList := by decide
  have rules : Parts.rules ⟨"(a)\\1".toList, "m".toList⟩ = ⟨false, true⟩ := rfl
  simp only [Parts.Enclosable, engine, whole, rules]
  have closed : (Backtrack.Reader.alternatives 40 1
      (Backtrack.Reader.startOf ⟨false, true⟩ "(a)\\1)".toList) [] "(a)\\1)".toList).any
        (fun found => found.2.2 = [')'] && found.2.1.names = []) = true := by decide +kernel
  obtain ⟨⟨body, after, rest⟩, read, ends⟩ := (Option.any_eq_true _ _).mp closed
  obtain ⟨rfl, unnamed⟩ : rest = [')'] ∧ after.names = [] := by simpa using ends
  have within (input : List Char) (hard : (Backtrack.Reader.read? input).all (·.1.isHard) = true) :
      Backtrack.WithinLimits input := by
    intro expression groups read easy
    rw [read] at hard
    exact nomatch hard.symm.trans easy
  refine ⟨.of_reads ⟨40, read⟩ (fun mixed => mixed.2 unnamed) ?_, within _ ?_, within _ ?_⟩
  · rintro - start skipped
    cases skipped
  · decide +kernel
  · decide +kernel

end TypedJson.Pattern
