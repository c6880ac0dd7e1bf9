import TypedJson.Json.Pointer
import TypedJson.Proofs.Text.Split

namespace TypedJson

namespace Json.Pointer

/-- The pointer that goes on from where the first one leads to. -/
def append (pointer inner : Pointer) : Pointer := ⟨pointer.segments ++ inner.segments⟩

@[simp] theorem root_append (pointer : Pointer) : root.append pointer = pointer := by
  simp [append, root]

@[simp] theorem append_root (pointer : Pointer) : pointer.append root = pointer := by
  simp [append, root]

@[simp] theorem append_append (first second third : Pointer) :
    (first.append second).append third = first.append (second.append third) := by
  simp [append]

/-- A child is one segment more. -/
theorem child_eq_append (pointer : Pointer) (segment : String) :
    pointer.child segment = pointer.append (root.child segment) := by
  simp [append, child, root]

/-- An escaped segment has no slash. -/
theorem slash_notMem_escape (segment : List Char) : '/' ∉ escape segment := by
  intro inside
  obtain ⟨char, -, written⟩ := List.mem_flatMap.mp inside
  unfold escapeChar at written
  split at written
  · simp at written
  · split at written
    · simp at written
    · rename_i other
      exact other (List.mem_singleton.mp written).symm

/-- Other characters than the tilde stand for themselves. -/
theorem unescape_cons {char : Char} (other : char ≠ '~') (rest : List Char) :
    unescape (char :: rest) = char :: unescape rest := by
  rw [unescape]
  · intro _ tilde
    exact absurd tilde other
  · intro _ tilde
    exact absurd tilde other

/-- An escaped segment is read as the segment. -/
theorem unescape_escape (segment : List Char) : unescape (escape segment) = segment := by
  induction segment with
  | nil => rfl
  | cons char rest ih =>
      have head : escape (char :: rest) = escapeChar char ++ escape rest := List.flatMap_cons ..
      by_cases tilde : char = '~'
      · rw [head]
        simp [tilde, escapeChar, unescape, ih]
      · by_cases slash : char = '/'
        · rw [head]
          simp [slash, escapeChar, unescape, ih]
        · rw [head]
          simp [tilde, slash, escapeChar, unescape_cons tilde, ih]

/-- Segments are written one after the other, each behind a slash. -/
theorem chars_cons (segment : String) (rest : List String) :
    chars (segment :: rest) = '/' :: escape segment.toList ++ chars rest := by
  simp [chars]

/-- The text of a pointer goes on with that of what is appended. -/
theorem text_append (pointer inner : Pointer) :
    (pointer.append inner).text = pointer.text ++ inner.text := by
  rw [text, append, chars, List.flatMap_append, String.ofList_append]
  rfl

/-- Each part between slashes is the escaped form of one segment. -/
theorem splitAt_chars (segment : String) (rest : List String) :
    splitAt '/' (escape segment.toList ++ chars rest) =
      (segment :: rest).map fun segment => escape segment.toList := by
  induction rest generalizing segment with
  | nil => simpa [chars] using splitAt_of_notMem (slash_notMem_escape segment.toList)
  | cons next others ih =>
      rw [chars_cons, List.cons_append, splitAt_append (slash_notMem_escape segment.toList), ih]
      rfl

/-- The text of a pointer names its segments without loss, whatever characters they have. -/
theorem ofText_text (pointer : Pointer) : ofText? pointer.text = some pointer := by
  obtain ⟨segments⟩ := pointer
  rw [ofText?, text, String.toList_ofList]
  cases segments with
  | nil => rfl
  | cons segment rest =>
      rw [chars_cons, List.cons_append]
      simp [splitAt_chars, unescape_escape, Function.comp_def]

/-- The text of a pointer tells the pointer. -/
theorem text_injective {one other : Pointer} (same : one.text = other.text) : one = other := by
  have read := ofText_text one
  rw [same, ofText_text] at read
  exact (Option.some.inj read).symm

/-- Numbers are written without leading zeros. -/
theorem head_toDigits_of_pos {number : Nat} (positive : 0 < number) :
    (Nat.toDigits 10 number).head? ≠ some '0' := by
  induction number using Nat.strongRecOn with
  | ind number ih =>
      by_cases small : number < 10
      · rw [Nat.toDigits_of_lt_base small]
        have digits : ∀ digit < 10, 0 < digit → (Nat.digitChar digit) ≠ '0' := by decide
        simpa using digits number small positive
      · rw [Nat.toDigits_of_base_le (by decide) (by omega), List.head?_append,
          Option.or_of_isSome (by simp [Nat.toDigits_ne_nil])]
        exact ih (number / 10) (by omega) (by omega)

/-- The numeral of an index is read as the index. -/
theorem position_toString (index : Nat) : position? (toString index) = some index := by
  have digits : (toString index).toList = Nat.toDigits 10 index := by
    rw [Nat.toString_eq_ofList_toDigits, String.toList_ofList]
  have allDigits : (Nat.toDigits 10 index).all Char.isDigit = true :=
    List.all_eq_true.mpr fun char inside =>
      Nat.isDigit_of_mem_toDigits (by decide) (by decide) inside
  have canonical : ((Nat.toDigits 10 index).head? == some '0' &&
      decide (1 < (Nat.toDigits 10 index).length)) = false := by
    by_cases zero : index = 0
    · subst zero
      rfl
    · simp [head_toDigits_of_pos (Nat.pos_of_ne_zero zero)]
  rw [position?, digits]
  simp [allDigits, canonical, Nat.toDigits_ne_nil, decimalValue_toDigits]

/-- What a segment leads to, with no limit to positions. -/
def locate (value : Value) (segment : String) : Option Value :=
  match value with
  | .object members => members.lookup segment
  | .array items => (position? segment).bind (items[·]?)
  | _ => none

/-- What a pointer leads to, with no limit to positions. -/
def resolve (pointer : Pointer) (value : Value) : Option Value :=
  pointer.segments.foldlM locate value

/-- Pointers are followed one after the other. -/
theorem resolve_append (pointer inner : Pointer) (value : Value) :
    (pointer.append inner).resolve value = (pointer.resolve value).bind inner.resolve := by
  simp [resolve, append, List.foldlM_append]
  rfl

end Json.Pointer

end TypedJson
