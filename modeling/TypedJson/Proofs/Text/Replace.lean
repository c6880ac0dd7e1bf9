namespace TypedJson

open String.Slice (Pos)
open String.Slice.Pattern (SearchStep ToForwardSearcher)
open String.Slice.Pattern.Model

/-- Writes a pattern anew wherever it stands, from the left and without overlaps. -/
def replaceAll (pattern new : List Char) : List Char → List Char
  | [] => []
  | char :: rest =>
    if pattern <+: char :: rest then
      new ++ replaceAll pattern new (rest.drop (pattern.length - 1))
    else char :: replaceAll pattern new rest
termination_by text => text.length

/-- In nothing nothing is replaced. -/
theorem replaceAll_nil (pattern new : List Char) : replaceAll pattern new [] = [] := by
  rw [replaceAll]

/-- At a place of the pattern it is replaced, and elsewhere a character stays. -/
theorem replaceAll_cons (pattern new : List Char) (char : Char) (rest : List Char) :
    replaceAll pattern new (char :: rest) =
      if pattern <+: char :: rest then
        new ++ replaceAll pattern new (rest.drop (pattern.length - 1))
      else char :: replaceAll pattern new rest := by
  rw [replaceAll]

/-- A pattern in front is written anew. -/
theorem replaceAll_append {pattern : List Char} (nonempty : pattern ≠ []) (new rest : List Char) :
    replaceAll pattern new (pattern ++ rest) = new ++ replaceAll pattern new rest := by
  obtain ⟨char, others, rfl⟩ := List.exists_cons_of_ne_nil nonempty
  have inFront : char :: others <+: char :: (others ++ rest) := ⟨rest, rfl⟩
  rw [List.cons_append, replaceAll_cons, if_pos inFront]
  simp

/-- What stands in front of all places of the pattern stays. -/
theorem replaceAll_append_of_passed {pattern new skipped rest : List Char}
    (passed : ∀ before behind, before ++ behind = skipped → behind ≠ [] →
      ¬ pattern <+: behind ++ rest) :
    replaceAll pattern new (skipped ++ rest) = skipped ++ replaceAll pattern new rest := by
  induction skipped with
  | nil => rfl
  | cons char others ih =>
      have notHere := passed [] (char :: others) rfl (by simp)
      rw [List.cons_append] at notHere
      rw [List.cons_append, replaceAll_cons, if_neg notHere, List.cons_append, ih]
      intro before behind whole
      exact passed (char :: before) behind (by rw [List.cons_append, whole])

/-- A character that does not begin the pattern stays. -/
theorem replaceAll_cons_of_ne {first char : Char} (different : first ≠ char)
    (others new rest : List Char) :
    replaceAll (first :: others) new (char :: rest) =
      char :: replaceAll (first :: others) new rest := by
  rw [replaceAll_cons, if_neg]
  simp [different]

/-- A pattern of one character is written anew character by character. -/
theorem replaceAll_singleton (char : Char) (new text : List Char) :
    replaceAll [char] new text =
      text.flatMap fun other => if other = char then new else [other] := by
  induction text with
  | nil => rw [replaceAll_nil, List.flatMap_nil]
  | cons first rest ih =>
      rw [List.flatMap_cons, ← ih]
      by_cases same : first = char
      · rw [if_pos same, same]
        exact replaceAll_append (List.cons_ne_nil char []) new rest
      · rw [if_neg same]
        exact replaceAll_cons_of_ne (Ne.symm same) [] new rest

/-- Only the replacement puts a new character in front. -/
theorem head?_of_head?_replaceAll {pattern new text : List Char} {char : Char}
    (other : ∀ rest, (new ++ rest).head? ≠ some char)
    (starts : (replaceAll pattern new text).head? = some char) : text.head? = some char := by
  cases text with
  | nil => simp [replaceAll_nil] at starts
  | cons first rest =>
      rw [replaceAll_cons] at starts
      split at starts
      · exact absurd starts (other _)
      · exact starts

/-- A pair stands where its characters stand one after the other. -/
theorem pair_prefix_cons_iff (first second char : Char) (rest : List Char) :
    [first, second] <+: char :: rest ↔ char = first ∧ rest.head? = some second := by
  cases rest with
  | nil => simp
  | cons next others => simp [List.cons_prefix_cons, eq_comm]

/-- What a step of the search for a pattern adds to the new text. -/
def writeStep {text : String.Slice} (new written : String) : SearchStep text → String
  | .matched _ _ => written ++ new
  | .rejected start stop => written ++ (text.slice! start stop).copy

/-- Replacing writes the steps of the search one by one. -/
theorem replace_eq_foldl (text pattern new : String) :
    text.replace pattern new =
      (ToForwardSearcher.toSearcher pattern text.toSlice).toList.foldl (writeStep new) "" := by
  rw [Std.Iter.foldl_toList, String.replace, String.Slice.replace]
  congr 1
  funext written step
  cases step with
  | matched => exact congrArg (written ++ ·) String.copy_toSlice
  | rejected => simp [writeStep]

/-- The pattern begins nowhere in what a search passes over. -/
theorem passed_of_not_matchesAt {pattern skipped first rest : String} {text : String.Slice}
    {start stop : text.Pos}
    (free : ∀ place, start ≤ place → place < stop → ¬ MatchesAt pattern place)
    (starts : start.Splits first (skipped ++ rest)) (stops : stop.Splits (first ++ skipped) rest)
    {before behind : List Char} (whole : before ++ behind = skipped.toList)
    (nonempty : behind ≠ []) :
    ¬ pattern.toList <+: behind ++ rest.toList := by
  rintro ⟨after, inFront⟩
  obtain rfl : skipped = String.ofList before ++ String.ofList behind := by
    rw [← String.ofList_append, whole, String.ofList_toList]
  have matched : String.ofList behind ++ rest = pattern ++ String.ofList after :=
    String.toList_injective (by simpa using inFront.symm)
  have cut : text.copy = first ++ String.ofList before ++ (String.ofList behind ++ rest) := by
    simpa [String.append_assoc] using starts.eq_append
  obtain ⟨place, splits⟩ : ∃ place : text.Pos,
      place.Splits (first ++ String.ofList before) (String.ofList behind ++ rest) :=
    ⟨_, Pos.splits_ofEqAppend cut⟩
  refine free place ?_ ?_ ?_
  · exact (starts.le_iff_exists_eq_append splits).mpr
      ⟨String.ofList before, rfl, by rw [String.append_assoc]⟩
  · refine (splits.lt_iff_exists_eq_append stops).mpr ⟨String.ofList behind, ?_, ?_, rfl⟩
    · simpa using nonempty
    · rw [String.append_assoc]
  · rw [matched] at splits
    exact ForwardStringSearcher.matchesAt_iff_splits.mpr ⟨_, _, splits⟩

/-- A search that comes from a place replaces the pattern in what is behind it. -/
theorem toList_foldl_writeStep {pattern : String} (nonempty : pattern ≠ "") (new : String)
    {text : String.Slice} {place : text.Pos} {steps : List (SearchStep text)}
    (search : IsValidSearchFrom pattern place steps) {before behind : String}
    (splits : place.Splits before behind) (written : String) :
    (steps.foldl (writeStep new) written).toList =
      written.toList ++ replaceAll pattern.toList new.toList behind.toList := by
  induction search generalizing before behind written with
  | endPos =>
      rw [(String.Slice.splits_endPos_iff.mp splits).2]
      simp [replaceAll_nil]
  | matched here _ ih =>
      obtain ⟨first, rest, starts, stops⟩ :=
        ForwardStringSearcher.isLongestMatchAt_iff_splits.mp here
      have letters : pattern.toList ≠ [] := by simpa using nonempty
      rw [List.foldl_cons, ih stops, (splits.eq starts).2, String.toList_append,
        replaceAll_append letters]
      simp [writeStep]
  | @mismatched steps start stop ahead free _ ih =>
      have forward := Std.le_of_lt ahead
      obtain ⟨first, rest, starts, stops⟩ :=
        String.Slice.copy_slice_eq_iff_splits.mp ⟨forward, rfl⟩
      rw [List.foldl_cons, ih stops, (splits.eq starts).2, String.toList_append,
        replaceAll_append_of_passed fun before behind whole =>
          passed_of_not_matchesAt free starts stops whole]
      simp [writeStep, ← String.Slice.slice_eq_slice! (h := forward)]

/-- The library's replacement on texts is that on lists of characters. -/
theorem toList_replace {pattern : String} (nonempty : pattern ≠ "") (text new : String) :
    (text.replace pattern new).toList =
      replaceAll pattern.toList new.toList text.toList := by
  have lawful := ForwardStringSearcher.lawfulToForwardSearcherModel nonempty
  have search := lawful.isValidSearchFrom_toList text.toSlice
  rw [replace_eq_foldl,
    toList_foldl_writeStep nonempty new search (String.Slice.splits_startPos text.toSlice)]
  simp

end TypedJson
