import TypedJson.Proofs.Json.Pointer
import TypedJson.Proofs.Text.Replace

namespace TypedJson

namespace Json.Pointer

/-- The path of a child: a slash and the segment, with `~0` for `~` and after that `~1` for `/`. -/
def childPath (path segment : String) : String :=
  path ++ "/" ++ (segment.replace "~" "~0").replace "/" "~1"

/-- The segment that a token stands for: `~1` is read as `/` and after that `~0` as `~`. -/
def segmentOf (token : String) : String := (token.replace "~1" "/").replace "~0" "~"

/-- The segments that a path names, if there is nothing in front of its first slash. -/
def segmentsOf? (path : String) : Option (List String) :=
  match (path.split '/').toList.map String.Slice.copy with
  | first :: tokens => if first.isEmpty then some (tokens.map segmentOf) else none
  | [] => none

/-- The two replacements for writing escape a segment. -/
theorem replaceAll_eq_escape (segment : List Char) :
    replaceAll ['/'] ['~', '1'] (replaceAll ['~'] ['~', '0'] segment) = escape segment := by
  rw [replaceAll_singleton, replaceAll_singleton, List.flatMap_assoc, escape]
  congr 1
  funext char
  by_cases tilde : char = '~'
  · simp [tilde, escapeChar]
  · by_cases slash : char = '/'
    · simp [slash, escapeChar]
    · simp [tilde, slash, escapeChar]

/-- The first replacement makes no `~0` and breaks none, so that one pass can read both. -/
theorem replaceAll_eq_unescape (token : List Char) :
    replaceAll ['~', '0'] ['~'] (replaceAll ['~', '1'] ['/'] token) = unescape token := by
  induction token using unescape.induct with
  | case1 rest ih =>
      have slash : replaceAll ['~', '1'] ['/'] ('~' :: '1' :: rest) =
          '/' :: replaceAll ['~', '1'] ['/'] rest :=
        replaceAll_append (List.cons_ne_nil '~' ['1']) ['/'] rest
      rw [slash, replaceAll_cons_of_ne (by decide), ih, unescape]
  | case2 rest ih =>
      have kept : replaceAll ['~', '1'] ['/'] ('~' :: '0' :: rest) =
          ['~', '0'] ++ replaceAll ['~', '1'] ['/'] rest := by
        rw [replaceAll_cons, if_neg (by simp), replaceAll_cons_of_ne (by decide)]
        rfl
      rw [kept, replaceAll_append (List.cons_ne_nil '~' ['0']), ih, unescape]
      rfl
  | case3 char rest notSlash notTilde ih =>
      have notOne : ¬ ['~', '1'] <+: char :: rest := by
        rw [pair_prefix_cons_iff]
        rintro ⟨tilde, one⟩
        obtain ⟨others, ahead⟩ := List.head?_eq_some_iff.mp one
        exact notSlash others tilde ahead
      -- What follows may have been replaced, but then it begins with a slash.
      have notZero : ¬ ['~', '0'] <+: char :: replaceAll ['~', '1'] ['/'] rest := by
        rw [pair_prefix_cons_iff]
        rintro ⟨tilde, written⟩
        have zero := head?_of_head?_replaceAll (by simp) written
        obtain ⟨others, ahead⟩ := List.head?_eq_some_iff.mp zero
        exact notTilde others tilde ahead
      rw [replaceAll_cons, if_neg notOne, replaceAll_cons, if_neg notZero, ih, unescape]
      · exact notSlash
      · exact notTilde
  | case4 => rw [replaceAll_nil, replaceAll_nil, unescape]

/-- The two replacements for reading undo the escape. -/
theorem segmentOf_ofList (token : List Char) :
    segmentOf (String.ofList token) = String.ofList (unescape token) := by
  apply String.toList_injective
  rw [segmentOf, toList_replace (by decide), toList_replace (by decide)]
  simpa using replaceAll_eq_unescape token

/-- The path of a child is the path, a slash and the escaped segment. -/
theorem childPath_eq (path segment : String) :
    childPath path segment = path ++ String.ofList ('/' :: escape segment.toList) := by
  have written :
      ((segment.replace "~" "~0").replace "/" "~1").toList = escape segment.toList := by
    rw [toList_replace (by decide), toList_replace (by decide)]
    exact replaceAll_eq_escape segment.toList
  apply String.toList_injective
  simp [childPath, written]

/-- The text of a pointer to a child is the path of the child. -/
theorem text_child (pointer : Pointer) (segment : String) :
    (pointer.child segment).text = childPath pointer.text segment := by
  rw [child_eq_append, text_append, childPath_eq]
  simp [text, chars, child, root]

/-- The text of a pointer is written by the path rule, child by child. -/
theorem text_foldl_child (pointer : Pointer) (segments : List String) :
    (segments.foldl child pointer).text = segments.foldl childPath pointer.text := by
  induction segments generalizing pointer with
  | nil => rfl
  | cons segment rest ih => rw [List.foldl_cons, List.foldl_cons, ih, text_child]

/-- Children one below the other are the pointer with all segments. -/
theorem foldl_child (pointer : Pointer) (segments : List String) :
    segments.foldl child pointer = pointer.append ⟨segments⟩ := by
  induction segments generalizing pointer with
  | nil => exact (append_root pointer).symm
  | cons segment rest ih => simp [ih, child, append]

/-- Every path, the text of a pointer or not, is read as the rule says. -/
theorem ofText?_eq_segmentsOf? (path : String) :
    ofText? path = (segmentsOf? path).map Pointer.mk := by
  rw [ofText?, segmentsOf?, String.toList_split_char, ← splitAt_eq_splitOn]
  cases path.toList with
  | nil => rfl
  | cons char rest =>
      by_cases slash : char = '/'
      · subst slash
        simp [splitAt, segmentOf_ofList]
      · obtain ⟨first, others, split⟩ := List.exists_cons_of_ne_nil (splitAt_ne_nil '/' rest)
        rw [splitAt_cons_of_ne slash split]
        simp [slash]

/-- The text of a pointer is read as its segments. -/
theorem segmentsOf?_text (pointer : Pointer) :
    segmentsOf? pointer.text = some pointer.segments := by
  have read := ofText_text pointer
  rw [ofText?_eq_segmentsOf?, Option.map_eq_some_iff] at read
  obtain ⟨segments, named, rfl⟩ := read
  exact named

/--
The pointer to a child of children of the root is written by the path rule, segment by segment. The
path names just these segments, whatever characters they have, and no others are written so.
-/
theorem segmentsOf?_text_foldl_child (segments : List String) :
    (segments.foldl child root).text = segments.foldl childPath "" ∧
      segmentsOf? (segments.foldl child root).text = some segments ∧
      ∀ others : List String,
        (segments.foldl child root).text = (others.foldl child root).text ↔ segments = others := by
  refine ⟨text_foldl_child root segments, ?_, fun others => ⟨fun same => ?_, fun same => ?_⟩⟩
  · rw [segmentsOf?_text, foldl_child, root_append]
  · have rows := text_injective same
    rw [foldl_child, foldl_child, root_append, root_append] at rows
    exact congrArg Pointer.segments rows
  · rw [same]

example : (["~1", "", "a/b~01"].foldl child root).text = "/~01//a~1b~001" := by decide

end Json.Pointer

end TypedJson
