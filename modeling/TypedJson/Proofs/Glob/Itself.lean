import TypedJson.Proofs.Glob.Search

namespace TypedJson.Glob

open Disk (Tree)
open Disk.Tree (IsName)

/-! ### Names that match themselves -/

/-- What an end of a text passes is passed by some end of it. -/
theorem anyEnd_of_suffix {test : List Char → Bool} {behind text : List Char}
    (isEnd : behind <:+ text) (passes : test behind = true) : anyEnd test text = true := by
  induction text with
  | nil =>
      obtain rfl := List.suffix_nil.mp isEnd
      exact passes
  | cons char rest ih =>
      rw [anyEnd, Bool.or_eq_true]
      rcases List.suffix_cons_iff.mp isEnd with rfl | isEnd
      · exact .inl passes
      · exact .inr (ih isEnd)

/-- Tokens that are read without a set match what they are read from. -/
theorem isMatch_of_readTokens {fuel position : Nat} {previous : Option Char} {text : List Char}
    {tokens : List Token} (read : readTokens fuel previous position text = .ok tokens)
    (free : '[' ∉ text) (enough : text.length < fuel) : isMatch tokens text = true := by
  induction fuel generalizing previous position text tokens with
  | zero => omega
  | succ fuel ih =>
      cases text with
      | nil =>
          obtain rfl := Except.ok.inj read
          rfl
      | cons char rest =>
          rw [List.mem_cons, not_or] at free
          rw [List.length_cons] at enough
          unfold readTokens at read
          split at read
          · dsimp only at read
            split at read
            · simp at read
            · -- a row of stars is one token, which takes the row and leaves the rest
              obtain ⟨others, readOn, rfl⟩ := map_eq_ok.mp read
              have isEnd := List.dropWhile_suffix (l := rest) (· == '*')
              have matched := ih readOn (fun inside => free.2 (isEnd.subset inside))
                (by have := isEnd.length_le; omega)
              rw [isMatch]
              exact anyEnd_of_suffix (isEnd.trans (List.suffix_cons char rest)) matched
          · rw [if_neg (Ne.symm free.1)] at read
            obtain ⟨others, readOn, rfl⟩ := map_eq_ok.mp read
            have matched := ih readOn free.2 (by omega)
            split <;> simp [isMatch, Token.holds, matched]

/-- Tokens that are all characters match their text alone. -/
theorem eq_plainText {tokens : List Token} {text plain : List Char}
    (isPlain : plainText? tokens = some plain) (isMatch : isMatch tokens text = true) :
    text = plain := by
  induction tokens generalizing text plain with
  | nil =>
      obtain rfl := Option.some.inj isPlain
      exact List.isEmpty_iff.mp isMatch
  | cons token rest ih =>
      cases token with
      | char wanted =>
          obtain ⟨others, isPlainRest, rfl⟩ := Option.map_eq_some_iff.mp isPlain
          cases text with
          | nil => simp [Glob.isMatch] at isMatch
          | cons char chars =>
              simp only [Glob.isMatch, Token.holds, Bool.and_eq_true, beq_iff_eq] at isMatch
              rw [isMatch.1, ih isPlainRest isMatch.2]
      | _ => simp [plainText?] at isPlain

/-- A name without a set of characters is matched by the part that is read from it. -/
theorem isMatch_of_readPart {name : String} {part : Part} (free : '[' ∉ name.toList)
    (read : readPart name.toList = .ok part) : part.isMatch name = true := by
  unfold readPart at read
  obtain ⟨tokens, readTokens, made⟩ := bind_eq_ok.mp read
  have matched := isMatch_of_readTokens readTokens free (Nat.lt_succ_self _)
  split at made
  · obtain rfl := Except.ok.inj made
    rfl
  · split at made
    · rename_i plain isPlain
      obtain rfl := Except.ok.inj made
      rw [Part.isMatch, beq_iff_eq, ← eq_plainText isPlain matched, String.ofList_toList]
    · obtain rfl := Except.ok.inj made
      exact matched

/-- Several parts for folders in a row count as one. -/
theorem afterFolders_afterFolders (parts : List Part) :
    afterFolders (afterFolders parts) = afterFolders parts := by
  induction parts with
  | nil => rfl
  | cons part rest ih => cases part <;> simp [afterFolders, ih]

/-- A name that is empty or made of dots is a part for itself. -/
theorem readPart_special {name : String} (special : ¬IsName name) :
    readPart name.toList = .ok (.name name) := by
  simp only [IsName, not_and_or, not_not] at special
  rcases special with rfl | rfl | rfl <;> rfl

/-- Only two stars are a part for folders. -/
theorem readPart_eq_folders {text : List Char} (read : readPart text = .ok .folders) :
    text = ['*', '*'] := by
  unfold readPart at read
  obtain ⟨tokens, -, made⟩ := bind_eq_ok.mp read
  split at made
  · assumption
  · split at made <;> simp [pure, Except.pure] at made

/-- Behind each part for folders a name comes that stands for itself. -/
def Continues (names : List String) : Prop :=
  ∀ before after, names = before ++ "**" :: after → ∃ next rest, after = next :: rest ∧ IsName next

/-- What continues along names continues behind the first. -/
theorem Continues.tail {name : String} {names : List String}
    (continues : Continues (name :: names)) : Continues names :=
  fun before after same => continues (name :: before) after (by rw [same]; rfl)

/-- Without a part for folders the condition is empty. -/
theorem continues_of_notMem {names : List String} (free : "**" ∉ names) : Continues names := by
  rintro before after rfl
  simp at free

/-- Parts that match the names they are read from lead along them, also behind folders. -/
theorem leads_of_fits {names : List String} {parts : List Part}
    (read : List.Forall₂ (fun name part => readPart name.toList = .ok part) names parts)
    (fits : ∀ name ∈ names, ∀ part, readPart name.toList = .ok part → part.isMatch name = true)
    (continues : Continues names) :
    Leads parts names ∧ ((∃ next rest, names = next :: rest ∧ IsName next) →
      Leads (.folders :: afterFolders parts) names) := by
  -- the second half is what the first one needs behind a part for folders
  induction read with
  | nil => exact ⟨.none, by simp⟩
  | @cons name part names rest isPart areParts ih =>
      obtain ⟨fitsName, fitsOthers⟩ := List.forall_mem_cons.mp fits
      obtain ⟨others, behind⟩ := ih fitsOthers continues.tail
      have isMatch := fitsName part isPart
      have isFirst (starts : ∃ next others, name :: names = next :: others ∧ IsName next) :
          IsName name := by
        obtain ⟨next, others, same, isName⟩ := starts
        rwa [(List.cons.inj same).1]
      cases part with
      | name text =>
          obtain rfl : name = text := by simpa [Part.isMatch] using isMatch
          exact ⟨.name others, fun starts => .behind (isFirst starts) rfl isMatch others⟩
      | tokens list =>
          have isName : IsName name := by
            by_contra special
            simp [readPart_special special] at isPart
          exact ⟨.tokens isName isMatch others, fun _ => .behind isName rfl isMatch others⟩
      | folders =>
          obtain rfl : name = "**" := String.toList_injective (readPart_eq_folders isPart)
          have isName : IsName "**" := by simp [IsName]
          have deeper := behind (continues [] names rfl)
          refine ⟨.deeper isName deeper, fun _ => .deeper isName ?_⟩
          rwa [afterFolders, afterFolders_afterFolders]

/-! ### Names of a path -/

/-- The text without the slash of an absolute path. -/
def behindRoot (text : String) : List Char :=
  if Path.isAbsolute text then text.toList.tail else text.toList

/-- The names that a path leads along; the parts of a glob are read from them. -/
def namesOf (text : String) : List String := (splitAt '/' (behindRoot text)).map String.ofList

/-- Where a path starts, and the search with a glob: at the root or in the working folder. -/
def startOf (text : String) : String := if Path.isAbsolute text then "/" else "."

section

variable {tree : Tree} {text path : String} {way : List String} {glob : Glob}

/-- The parts of a path are its names, behind an empty one if it is absolute. -/
theorem slashParts_eq_namesOf (text : String) :
    slashParts text = if Path.isAbsolute text then "" :: namesOf text else namesOf text := by
  unfold namesOf behindRoot
  split
  · rename_i absolute
    rw [Disk.Tree.slashParts_of_isAbsolute absolute, slashParts, String.toList_ofList]
  · rfl

/-- A path has names. -/
theorem namesOf_ne_nil (text : String) : namesOf text ≠ [] := by
  simp [namesOf, splitAt_ne_nil]

/-- The last part of a path is its last name. -/
theorem getLast?_slashParts (text : String) :
    (slashParts text).getLast? = (namesOf text).getLast? := by
  rw [slashParts_eq_namesOf]
  split
  · obtain ⟨first, others, names⟩ := List.exists_cons_of_ne_nil (namesOf_ne_nil text)
    rw [names, List.getLast?_cons_cons]
  · rfl

/-- A path whose last name is not empty does not end in a slash. -/
theorem getLast?_ne_slash (unended : (namesOf text).getLast? ≠ some "") :
    text.toList.getLast? ≠ some '/' := by
  intro ends
  obtain ⟨before, rfl⟩ := Disk.Tree.exists_before_slash ends
  have parts := slashParts_append before "" (by simp)
  rw [String.append_empty] at parts
  rw [← getLast?_slashParts, parts] at unended
  simp at unended

/-- The path of a file does not end with a slash. -/
theorem getLast?_namesOf_ne (isFile : tree.kind? text = some .file) :
    (namesOf text).getLast? ≠ some "" := by
  intro last
  rw [← getLast?_slashParts] at last
  unfold Tree.kind? at isFile
  split at isFile
  · rename_i way found
    obtain ⟨-, -, walked⟩ := Disk.Tree.wayOf_eq_ok found
    rw [← List.dropLast_append_getLast? _ last, Disk.Tree.foldlM_concat] at walked
    obtain ⟨middle, -, stepped⟩ := bind_eq_ok.mp walked
    have inFolder := Disk.Tree.kindAt?_of_step stepped
    obtain rfl := Except.ok.inj ((Disk.Tree.step_empty inFolder).symm.trans stepped)
    simp [inFolder] at isFile
  · simp at isFile

/-- The paths that are put together are no longer than the text. -/
theorem size_startOf_namesOf (text : String) :
    (place (startOf text) "").utf8ByteSize + endedSize (namesOf text) =
      text.utf8ByteSize + 1 := by
  rw [namesOf, endedSize_splitAt rfl, startOf, behindRoot]
  split
  · rename_i absolute
    obtain ⟨rest, chars⟩ : ∃ rest, text.toList = '/' :: rest := by
      rwa [Path.isAbsolute, beq_iff_eq, List.head?_eq_some_iff] at absolute
    have made : text = "/" ++ String.ofList rest := String.toList_injective (by simp [chars])
    have root : (place "/" "").utf8ByteSize = 1 := rfl
    have slash : "/".utf8ByteSize = 1 := rfl
    rw [chars, List.tail_cons, root, made, String.utf8ByteSize_append, slash]
    omega
  · have here : (place "." "").utf8ByteSize = 0 := rfl
    rw [here, String.ofList_toList]
    omega

/-- No empty name comes where a relative path is still in the working folder. -/
def StartsWell (path : String) : Prop :=
  Path.isAbsolute path = false → ((namesOf path).dropWhile (· == ".")).head? ≠ some ""

/-- The names of a path lead where the path leads, from where the search starts. -/
theorem trail_of_wayOf (found : tree.wayOf path = .ok way) (starts : StartsWell path) :
    Trail tree way (startOf path) (namesOf path) := by
  obtain ⟨-, short, walked⟩ := Disk.Tree.wayOf_eq_ok found
  rw [slashParts_eq_namesOf] at walked
  refine ⟨?_, ?_, ?_, ?_⟩
  · unfold startOf
    cases absolute : Path.isAbsolute path with
    | true =>
        rw [absolute, if_pos rfl, if_pos rfl, List.foldlM_cons,
          Disk.Tree.step_empty (Disk.Tree.kindAt?_nil tree)] at walked
        have root : tree.wayOf "/" = .ok [] :=
          Disk.Tree.wayOf_dots (by decide) (by decide) (by decide) (Disk.Tree.kindAt?_nil tree)
        rw [if_pos rfl, root]
        exact walked
    | false =>
        rw [absolute, if_neg Bool.false_ne_true, if_neg Bool.false_ne_true] at walked
        obtain ⟨first, others, names⟩ := List.exists_cons_of_ne_nil (namesOf_ne_nil path)
        have inFolder : tree.kindAt? tree.here = some .folder := by
          rw [names, List.foldlM_cons] at walked
          obtain ⟨next, stepped, -⟩ := bind_eq_ok.mp walked
          exact Disk.Tree.kindAt?_of_step stepped
        have here : tree.wayOf "." = .ok tree.here :=
          Disk.Tree.wayOf_dots (by decide) (by decide) (by decide) inFolder
        rw [if_neg Bool.false_ne_true, here]
        exact walked
  · intro name inside
    obtain ⟨part, among, rfl⟩ := List.mem_map.mp inside
    rw [String.toList_ofList]
    exact notMem_of_mem_splitAt among
  · rw [size_startOf_namesOf]
    omega
  · intro isHere
    cases absolute : Path.isAbsolute path with
    | true =>
        rw [startOf, absolute, if_pos rfl] at isHere
        exact absurd isHere (by decide)
    | false => exact starts absolute

/-! ### Globs that find files -/

/-- A glob has a part for each name of its text, except for an empty one at the end. -/
theorem ofText_eq_ok (read : Glob.ofText text = .ok glob) :
    glob.absolute = Path.isAbsolute text ∧
      glob.foldersOnly = (text.toList.getLast? == some '/') ∧
        List.Forall₂ (fun name part => readPart name = .ok part)
          (dropEmptyEnd (splitAt '/' (behindRoot text))) glob.parts := by
  unfold Glob.ofText at read
  obtain ⟨tokens, -, read⟩ := bind_eq_ok.mp read
  obtain ⟨parts, readAll, made⟩ := bind_eq_ok.mp read
  obtain rfl := Except.ok.inj made
  exact ⟨rfl, rfl, mapM_eq_ok.mp readAll⟩

/-- A path that is short enough has no more names than folders can lie in one another. -/
theorem Trail.length_le {folder : String} {names : List String}
    (trail : Trail tree way folder names) : names.length ≤ depthLimit := by
  have short := trail.short
  have limits : Tree.pathLimit + 1 = depthLimit := rfl
  have counted := length_le_endedSize names
  omega

/-- Parts that lead along names are not missing. -/
theorem Leads.parts_ne_nil {parts : List Part} {names : List String} (leads : Leads parts names)
    (some : names ≠ []) : parts ≠ [] := by
  cases leads <;> simp at some ⊢

/-- A glob finds each file along whose names its parts lead from the same start. -/
theorem expand_complete (read : Glob.ofText text = .ok glob)
    (notFolders : text.toList.getLast? ≠ some '/')
    (sameStart : Path.isAbsolute path = Path.isAbsolute text)
    (isFile : tree.kind? path = some .file) (starts : StartsWell path)
    (leads : Leads glob.parts (namesOf path)) :
    Yields (glob.expand (Tree.disk.shown tree)) fun paths =>
      ∃ found ∈ paths, tree.wayOf found = tree.wayOf path := by
  obtain ⟨absolute, foldersOnly, -⟩ := ofText_eq_ok read
  unfold Tree.kind? at isFile
  split at isFile
  · rename_i way found
    have trail := trail_of_wayOf found starts
    -- each name of the path takes one round, and there are as many rounds as a path has bytes
    rw [found, expand, absolute, ← sameStart, foldersOnly, beq_false_of_ne notFolders]
    apply reaches_of_leads leads trail (by simp [isFile])
    have rounds := List.length_pos_of_ne_nil (leads.parts_ne_nil (namesOf_ne_nil path))
    have short := trail.length_le
    omega
  · simp at isFile

/-! ### Paths that find themselves -/

/-- A text that is matched, as a glob, by the names of the path that it is. -/
structure FindsItself (text : String) : Prop where
  leads : ∃ glob, Glob.ofText text = .ok glob ∧ Leads glob.parts (namesOf text)
  starts : StartsWell text

/-- A glob that finds itself finds the file at its own path. -/
theorem FindsItself.expand (finds : FindsItself text) (isFile : tree.kind? text = some .file) :
    ∃ glob, Glob.ofText text = .ok glob ∧ Yields (glob.expand (Tree.disk.shown tree)) fun paths =>
      ∃ path ∈ paths, tree.wayOf path = tree.wayOf text := by
  obtain ⟨glob, read, leads⟩ := finds.leads
  refine ⟨glob, read, ?_⟩
  exact expand_complete read (getLast?_ne_slash (getLast?_namesOf_ne isFile)) rfl isFile
    finds.starts leads

/-- A path without a set of characters finds itself, if it is a glob that ends with a name. -/
theorem findsItself_of_no_set (free : '[' ∉ text.toList)
    (read : ∃ glob, Glob.ofText text = .ok glob)
    (unended : (namesOf text).getLast? ≠ some "") (continues : Continues (namesOf text))
    (starts : StartsWell text) : FindsItself text := by
  obtain ⟨glob, isGlob⟩ := read
  refine ⟨⟨glob, isGlob, ?_⟩, starts⟩
  obtain ⟨-, -, parts⟩ := ofText_eq_ok isGlob
  have whole : dropEmptyEnd (splitAt '/' (behindRoot text)) = splitAt '/' (behindRoot text) := by
    rw [dropEmptyEnd, if_neg]
    intro ends
    apply unended
    rw [namesOf, List.getLast?_map, ends]
    rfl
  have partsOfNames : List.Forall₂ (fun name part => readPart name.toList = .ok part)
      (namesOf text) glob.parts := by
    rw [whole] at parts
    rw [namesOf, List.forall₂_map_left_iff]
    simpa using parts
  refine (leads_of_fits partsOfNames ?_ continues).1
  intro name inside part isPart
  refine isMatch_of_readPart (fun within => free ?_) isPart
  obtain ⟨chars, among, rfl⟩ := List.mem_map.mp inside
  rw [String.toList_ofList] at within
  have behind := mem_of_mem_splitAt among within
  unfold behindRoot at behind
  split at behind
  · exact List.mem_of_mem_tail behind
  · exact behind

end

end TypedJson.Glob
