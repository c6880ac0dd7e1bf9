import Mathlib.Data.List.TakeWhile
import TypedJson.Pattern.Basic

namespace TypedJson.Pattern

namespace Parts

/-- Parts that are read back from their text. -/
structure Delimited (parts : Parts) : Prop where
  flags : ∀ flag ∈ parts.flags, isFlag flag = true
  nonempty : parts.body ≠ []
  oneLine : '\n' ∉ parts.body

/-- The flags are the last characters that are flags. -/
theorem takeWhile_isFlag_text {parts : Parts} (known : ∀ flag ∈ parts.flags, isFlag flag = true) :
    (parts.text.reverse.takeWhile isFlag).reverse = parts.flags := by
  have reversed : parts.text.reverse = parts.flags.reverse ++ '/' :: (parts.body.reverse ++ ['/']) := by
    simp [text]
  have knownBack : ∀ flag ∈ parts.flags.reverse, isFlag flag = true := fun flag inside =>
    known flag (List.mem_reverse.mp inside)
  rw [reversed, List.takeWhile_append_of_pos knownBack, List.takeWhile_cons_of_neg (by decide)]
  simp

/-- The text of parts tells the parts. -/
theorem text_injective {left right : Parts} (known : ∀ flag ∈ left.flags, isFlag flag = true)
    (knownToo : ∀ flag ∈ right.flags, isFlag flag = true) (same : left.text = right.text) :
    left = right := by
  have ends : left.flags = right.flags := by
    rw [← takeWhile_isFlag_text known, ← takeWhile_isFlag_text knownToo, same]
  obtain ⟨body, flags⟩ := left
  obtain ⟨other, otherFlags⟩ := right
  obtain rfl : flags = otherFlags := ends
  obtain rfl : body = other := (List.cons.inj (List.append_cancel_right same)).2
  rfl

/-- The text of delimited parts is split into the parts. -/
theorem delimited?_text {parts : Parts} (delimited : parts.Delimited) :
    delimited? parts.text = some parts := by
  have ending := takeWhile_isFlag_text delimited.flags
  have shape : parts.text = '/' :: parts.body ++ ['/'] ++ parts.flags := by simp [text]
  have size : parts.text.length - parts.flags.length = ('/' :: parts.body ++ ['/']).length := by
    rw [shape, List.length_append, Nat.add_sub_cancel]
  have first : parts.text.take (parts.text.length - parts.flags.length) =
      '/' :: parts.body ++ ['/'] := by
    rw [size, shape, List.take_left]
  have filled : parts.body.isEmpty = false := by simpa using delimited.nonempty
  unfold delimited?
  simp only [ending, first]
  simp [text, filled, delimited.oneLine]

/-- The only sources that are split are the texts of delimited parts. -/
theorem of_delimited?_eq_some {source : List Char} {parts : Parts}
    (split : delimited? source = some parts) : parts.Delimited ∧ source = parts.text := by
  -- the source is what precedes the flags at its end, and the flags
  have whole := congrArg List.reverse
    (List.takeWhile_append_dropWhile (p := isFlag) (l := source.reverse))
  rw [List.reverse_append, List.reverse_reverse] at whole
  have size := congrArg List.length whole
  rw [List.length_append] at size
  have front : source.take (source.length - (source.reverse.takeWhile isFlag).reverse.length) =
      (source.reverse.dropWhile isFlag).reverse := calc
    _ = ((source.reverse.dropWhile isFlag).reverse ++
          (source.reverse.takeWhile isFlag).reverse).take
          (source.length - (source.reverse.takeWhile isFlag).reverse.length) := by rw [whole]
    _ = (source.reverse.dropWhile isFlag).reverse := List.take_left' (by omega)
  unfold delimited? at split
  simp only [front, List.reverse_reverse] at split
  split at split
  · next tail reversed ends =>
      split at split
      · cases split
      · next usable =>
          obtain rfl := Option.some.inj split
          rw [ends, List.reverse_cons] at whole
          obtain ⟨nonempty, oneLine⟩ := not_or.mp (Bool.or_eq_true .. ▸ usable)
          have known : ∀ flag ∈ (('/' :: tail).reverse.takeWhile isFlag).reverse,
              isFlag flag = true := fun flag inside =>
            List.mem_takeWhile_imp (List.mem_reverse.mp inside)
          refine ⟨⟨known, by simpa using nonempty, by simpa using oneLine⟩, ?_⟩
          match body : reversed.reverse with
          | [] => simp [body] at nonempty
          | first :: rest =>
              rw [body, List.cons_append, List.cons_append] at whole
              obtain rfl : first = '/' := (List.cons.inj whole).1
              refine whole.symm.trans ?_
              simp [text]
  · cases split

/-- A source is split exactly if it is the text of delimited parts. -/
theorem delimited?_eq_some_iff {source : List Char} {parts : Parts} :
    delimited? source = some parts ↔ parts.Delimited ∧ source = parts.text := by
  constructor
  · exact of_delimited?_eq_some
  · rintro ⟨delimited, rfl⟩
    exact delimited?_text delimited

/-- The text of delimited parts is the source of the parts. -/
theorem ofSource_text {parts : Parts} (delimited : parts.Delimited) :
    ofSource parts.text = parts := by
  rw [ofSource, delimited?_text delimited, Option.getD_some]

/-- Every other source is a body without flags. -/
theorem ofSource_bare {source : List Char}
    (bare : ∀ parts : Parts, parts.Delimited → source ≠ parts.text) :
    ofSource source = ⟨source, []⟩ := by
  have none : delimited? source = none := by
    rw [Option.eq_none_iff_forall_ne_some]
    intro parts split
    obtain ⟨delimited, written⟩ := delimited?_eq_some_iff.mp split
    exact bare parts delimited written
  rw [ofSource, none, Option.getD_none]

/-- The flags of a source are flags. -/
theorem isFlag_of_mem {source : List Char} {flag : Char} (inside : flag ∈ (ofSource source).flags) :
    isFlag flag = true := by
  unfold ofSource at inside
  cases split : delimited? source with
  | none => simp [split] at inside
  | some found =>
      rw [split, Option.getD_some] at inside
      exact (delimited?_eq_some_iff.mp split).1.flags flag inside

/-- What is searched for depends on the body and on which of the three flags occur. -/
theorem matcher?_congr {one other : Parts} (sameBody : one.body = other.body)
    (sameFlags : ∀ flag ∈ ['i', 'm', 'y'], flag ∈ one.flags ↔ flag ∈ other.flags) :
    one.matcher? = other.matcher? := by
  have occurs (flag : Char) (looked : flag ∈ ['i', 'm', 'y']) :
      one.flags.contains flag = other.flags.contains flag := by
    rw [Bool.eq_iff_iff, List.contains_iff_mem, List.contains_iff_mem]
    exact sameFlags flag looked
  have sameText : one.effective = other.effective := by
    simp only [effective, sameBody, occurs 'i' (by decide), occurs 'm' (by decide),
      occurs 'y' (by decide)]
  rw [matcher?, matcher?, sameBody, sameText]

end Parts

/-- Patterns that are shown alike search alike, however their sources are written. -/
theorem isMatch_eq_of_text {left right : Pattern} {source other : String}
    (read : ofSource? source = some left) (readOther : ofSource? other = some right)
    (same : left.text = right.text) : left.isMatch = right.isMatch := by
  obtain ⟨matcher, made, rfl⟩ := Option.map_eq_some_iff.mp read
  obtain ⟨otherMatcher, madeOther, rfl⟩ := Option.map_eq_some_iff.mp readOther
  have parts := Parts.text_injective (fun _ => Parts.isFlag_of_mem) (fun _ => Parts.isFlag_of_mem)
    (String.ofList_injective same)
  rw [parts, madeOther] at made
  obtain rfl := Option.some.inj made
  rfl

/-- A body without line feed between slashes, and flags behind it. -/
structure IsWritten (source body flags : String) : Prop where
  written : source = "/" ++ body ++ "/" ++ flags
  nonempty : body ≠ ""
  oneLine : '\n' ∉ body.toList
  known : ∀ flag ∈ flags.toList, flag ∈ ['g', 'i', 'm', 'u', 'y']

/-- There are five flags. -/
theorem isFlag_iff {flag : Char} : Parts.isFlag flag = true ↔ flag ∈ ['g', 'i', 'm', 'u', 'y'] := by
  simp [Parts.isFlag, or_assoc]

/-- A source between slashes is the text of its delimited parts. -/
theorem isWritten_iff {source body flags : String} :
    IsWritten source body flags ↔ Parts.Delimited ⟨body.toList, flags.toList⟩ ∧
      source.toList = Parts.text ⟨body.toList, flags.toList⟩ := by
  have sameText : source = "/" ++ body ++ "/" ++ flags ↔
      source.toList = Parts.text ⟨body.toList, flags.toList⟩ := by
    rw [← String.toList_inj]
    simp [Parts.text]
  have sameBody : body ≠ "" ↔ body.toList ≠ [] := by simp
  constructor
  · rintro ⟨written, nonempty, oneLine, known⟩
    exact ⟨⟨fun flag inside => isFlag_iff.mpr (known flag inside), sameBody.mp nonempty, oneLine⟩,
      sameText.mp written⟩
  · rintro ⟨⟨known, nonempty, oneLine⟩, written⟩
    exact ⟨sameText.mpr written, sameBody.mpr nonempty, oneLine,
      fun flag inside => isFlag_iff.mp (known flag inside)⟩

/-- A source between slashes has the body and the flags as its parts. -/
theorem IsWritten.ofSource {source body flags : String} (written : IsWritten source body flags) :
    Parts.ofSource source.toList = ⟨body.toList, flags.toList⟩ := by
  obtain ⟨delimited, same⟩ := isWritten_iff.mp written
  rw [same, Parts.ofSource_text delimited]

/-- A pattern has the parts of its source, and the matcher that is made of them. -/
theorem parts_of_ofSource? {source : String} {pattern : Pattern}
    (read : ofSource? source = some pattern) :
    pattern.parts = Parts.ofSource source.toList ∧ pattern.parts.matcher? = some pattern.matcher := by
  obtain ⟨matcher, made, rfl⟩ := Option.map_eq_some_iff.mp read
  exact ⟨rfl, made⟩

/-- Patterns with one matcher have the same matches. -/
theorem isMatch_eq_of_matcher? {one other : Pattern} {source otherSource : String}
    (read : ofSource? source = some one) (readOther : ofSource? otherSource = some other)
    (same : one.parts.matcher? = other.parts.matcher?) : one.isMatch = other.isMatch := by
  rw [(parts_of_ofSource? read).2, (parts_of_ofSource? readOther).2] at same
  funext text
  rw [isMatch, isMatch, Option.some.inj same]

/-- What is shown of a pattern is a source of the same parts, if the body can stand between slashes. -/
theorem ofSource?_shown {source : String} {pattern : Pattern}
    (read : ofSource? source = some pattern) (nonempty : pattern.body ≠ "")
    (oneLine : '\n' ∉ pattern.body.toList) :
    ofSource? pattern.text = some ⟨pattern.text, pattern.parts, pattern.matcher⟩ := by
  obtain ⟨parts, made⟩ := parts_of_ofSource? read
  have delimited : pattern.parts.Delimited := by
    refine ⟨?_, ?_, ?_⟩
    · rw [parts]
      exact fun flag => Parts.isFlag_of_mem
    · simpa [body] using nonempty
    · simpa [body] using oneLine
  rw [ofSource?, text, String.toList_ofList, Parts.ofSource_text delimited, made]
  rfl

/--
A source has at most one split into a body between slashes and flags. A pattern has the parts of
this split, or else its source as its body and no flags; what is shown of it is read back as the
same body and flags with the same answers; and two patterns with one body whose flags agree on `i`,
`m` and `y` have the same answers.
-/
theorem parts_of_source (source : String) :
    (∀ body flags otherBody otherFlags, IsWritten source body flags →
      IsWritten source otherBody otherFlags → body = otherBody ∧ flags = otherFlags) ∧
    ∀ pattern, ofSource? source = some pattern →
      (∀ body flags, IsWritten source body flags → pattern.body = body ∧ pattern.flags = flags) ∧
      ((¬∃ body flags, IsWritten source body flags) →
        pattern.body = source ∧ pattern.flags = "") ∧
      (pattern.body ≠ "" → '\n' ∉ pattern.body.toList →
        ∃ again, ofSource? pattern.text = some again ∧ again.body = pattern.body ∧
          again.flags = pattern.flags ∧ ∀ text, again.isMatch text = pattern.isMatch text) ∧
      ∀ otherSource other, ofSource? otherSource = some other → other.body = pattern.body →
        (∀ flag ∈ ['i', 'm', 'y'], flag ∈ other.flags.toList ↔ flag ∈ pattern.flags.toList) →
        ∀ text, other.isMatch text = pattern.isMatch text := by
  refine ⟨?_, fun pattern read => ?_⟩
  · intro body flags otherBody otherFlags written writtenToo
    have same := written.ofSource.symm.trans writtenToo.ofSource
    simpa [String.toList_inj] using same
  obtain ⟨parts, made⟩ := parts_of_ofSource? read
  refine ⟨?_, ?_, ?_, ?_⟩
  · intro body flags written
    rw [written.ofSource] at parts
    simp [Pattern.body, Pattern.flags, parts]
  · intro bare
    have whole : Parts.ofSource source.toList = ⟨source.toList, []⟩ := by
      refine Parts.ofSource_bare fun split delimited same => bare ?_
      refine ⟨String.ofList split.body, String.ofList split.flags, isWritten_iff.mpr ?_⟩
      simpa only [String.toList_ofList] using ⟨delimited, same⟩
    rw [whole] at parts
    simp [Pattern.body, Pattern.flags, parts]
  · intro nonempty oneLine
    exact ⟨_, ofSource?_shown read nonempty oneLine, rfl, rfl, fun _ => rfl⟩
  · intro otherSource other readOther sameBody sameFlags text
    refine congrFun (isMatch_eq_of_matcher? readOther read (Parts.matcher?_congr ?_ ?_)) text
    · exact String.ofList_injective sameBody
    · simpa [Pattern.flags] using sameFlags

/-- A source is a pattern if an engine makes something of its parts. -/
theorem exists_ofSource? {source : String} {parts : Parts}
    (split : Parts.ofSource source.toList = parts) (made : parts.matcher?.isSome = true) :
    ∃ pattern, ofSource? source = some pattern ∧ pattern.parts = parts := by
  obtain ⟨matcher, found⟩ := Option.isSome_iff_exists.mp made
  exact ⟨⟨source, parts, matcher⟩, by rw [ofSource?, split, found]; rfl, rfl⟩

/-- A body with a slash and two rows of flags for it, beside a source that only looks delimited. -/
theorem parts_of_source_withSlashes :
    ∃ pattern other bare, ofSource? "/a/b/ym" = some pattern ∧
      ofSource? "/a/b/mgym" = some other ∧ ofSource? "/a/x" = some bare ∧
      (pattern.body = "a/b" ∧ pattern.flags = "ym") ∧ (bare.body = "/a/x" ∧ bare.flags = "") ∧
      (∃ again, ofSource? pattern.text = some again ∧ again.body = pattern.body ∧
        again.flags = pattern.flags ∧ ∀ text, again.isMatch text = pattern.isMatch text) ∧
      ∀ text, other.isMatch text = pattern.isMatch text := by
  have splits : Parts.ofSource "/a/b/ym".toList = ⟨"a/b".toList, "ym".toList⟩ := by decide
  have splitsToo : Parts.ofSource "/a/b/mgym".toList = ⟨"a/b".toList, "mgym".toList⟩ := by decide
  have isBare : Parts.ofSource "/a/x".toList = ⟨"/a/x".toList, []⟩ := by decide
  obtain ⟨pattern, read, parts⟩ := exists_ofSource? splits (by decide +kernel)
  obtain ⟨other, readOther, otherParts⟩ := exists_ofSource? splitsToo (by decide +kernel)
  obtain ⟨bare, readBare, -⟩ := exists_ofSource? isBare (by decide +kernel)
  have written : IsWritten "/a/b/ym" "a/b" "ym" := ⟨by decide, by decide, by decide, by simp⟩
  have unwritten : ¬∃ body flags, IsWritten "/a/x" body flags := by
    rintro ⟨body, flags, writtenToo⟩
    obtain ⟨delimited, same⟩ := isWritten_iff.mp writtenToo
    have split := Parts.delimited?_text delimited
    have none : Parts.delimited? "/a/x".toList = none := by decide
    rw [← same, none] at split
    cases split
  have body : pattern.body = "a/b" := by rw [Pattern.body, parts]; rfl
  obtain ⟨split, -, shown, sameFlags⟩ := (parts_of_source "/a/b/ym").2 pattern read
  obtain ⟨-, whole, -⟩ := (parts_of_source "/a/x").2 bare readBare
  refine ⟨pattern, other, bare, read, readOther, readBare, split _ _ written, whole unwritten,
    shown (by rw [body]; decide) (by rw [body]; decide), ?_⟩
  refine sameFlags _ other readOther ?_ ?_
  · rw [Pattern.body, Pattern.body, parts, otherParts]
  · rw [Pattern.flags, Pattern.flags, parts, otherParts]
    simp

end TypedJson.Pattern
