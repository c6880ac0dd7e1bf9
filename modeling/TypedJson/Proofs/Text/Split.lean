import Mathlib.Data.List.Basic
import TypedJson.Text.Split

namespace TypedJson

variable {separator : Char}

/-- The parts are those of the library's split. -/
theorem splitAt_eq_splitOn (separator : Char) (text : List Char) :
    splitAt separator text = text.splitOn separator := by
  induction text with
  | nil => rw [splitAt, List.splitOn_nil]
  | cons char rest ih =>
      obtain ⟨first, others, split⟩ :=
        List.exists_cons_of_ne_nil (List.splitOn_ne_nil separator rest)
      rw [splitAt, List.splitOn_cons_eq_if_modifyHead, ih, split]
      simp

/-- A text has parts. -/
theorem splitAt_ne_nil (separator : Char) (text : List Char) : splitAt separator text ≠ [] := by
  rw [splitAt_eq_splitOn]
  exact List.splitOn_ne_nil separator text

/-- Another character belongs to the first part. -/
theorem splitAt_cons_of_ne {char : Char} (different : char ≠ separator) {first : List Char}
    {rest : List Char} {others : List (List Char)}
    (split : splitAt separator rest = first :: others) :
    splitAt separator (char :: rest) = (char :: first) :: others := by
  rw [splitAt, if_neg different, split]

/-- A text without separator is one part. -/
theorem splitAt_of_notMem {part : List Char} (free : separator ∉ part) :
    splitAt separator part = [part] := by
  rw [splitAt_eq_splitOn]
  exact List.splitOn_eq_singleton free

/-- A separator cuts a text into what is before it and what is behind it. -/
theorem splitAt_append_cons (text rest : List Char) :
    splitAt separator (text ++ separator :: rest) =
      splitAt separator text ++ splitAt separator rest := by
  simp only [splitAt_eq_splitOn]
  exact List.splitOn_append_cons_self text rest

/-- A separator ends the first part. -/
theorem splitAt_append {part : List Char} (free : separator ∉ part) (rest : List Char) :
    splitAt separator (part ++ separator :: rest) = part :: splitAt separator rest := by
  rw [splitAt_append_cons, splitAt_of_notMem free]
  rfl

/-- No part has the separator in it. -/
theorem notMem_of_mem_splitAt {text part : List Char} (inside : part ∈ splitAt separator text) :
    separator ∉ part := by
  induction text generalizing part with
  | nil =>
      rw [splitAt, List.mem_singleton] at inside
      simp [inside]
  | cons char rest ih =>
      by_cases same : char = separator
      · rw [splitAt, if_pos same, List.mem_cons] at inside
        obtain rfl | inside := inside
        · simp
        · exact ih inside
      · obtain ⟨first, parts, split⟩ := List.exists_cons_of_ne_nil (splitAt_ne_nil separator rest)
        rw [splitAt_cons_of_ne same split, List.mem_cons] at inside
        rw [split] at ih
        obtain rfl | inside := inside
        · rw [List.mem_cons, not_or]
          exact ⟨Ne.symm same, ih List.mem_cons_self⟩
        · exact ih (List.mem_cons_of_mem _ inside)

/-- Characters of parts are characters of the text. -/
theorem mem_of_mem_splitAt {text part : List Char} (inside : part ∈ splitAt separator text)
    {char : Char} (within : char ∈ part) : char ∈ text := by
  induction text generalizing part with
  | nil =>
      rw [splitAt, List.mem_singleton] at inside
      simp [inside] at within
  | cons first rest ih =>
      by_cases same : first = separator
      · rw [splitAt, if_pos same, List.mem_cons] at inside
        obtain rfl | inside := inside
        · simp at within
        · exact List.mem_cons_of_mem _ (ih inside within)
      · obtain ⟨next, parts, split⟩ := List.exists_cons_of_ne_nil (splitAt_ne_nil separator rest)
        rw [splitAt_cons_of_ne same split, List.mem_cons] at inside
        rw [split] at ih
        obtain rfl | inside := inside
        · obtain rfl | within := List.mem_cons.mp within
          · exact List.mem_cons_self
          · exact List.mem_cons_of_mem _ (ih List.mem_cons_self within)
        · exact List.mem_cons_of_mem _ (ih (List.mem_cons_of_mem _ inside) within)

/-- The bytes of texts with a separator of one byte behind each. -/
def endedSize : List String → Nat
  | [] => 0
  | text :: rest => text.utf8ByteSize + 1 + endedSize rest

/-- There are no more texts than bytes with an end for each. -/
theorem length_le_endedSize (texts : List String) : texts.length ≤ endedSize texts := by
  induction texts with
  | nil => exact Nat.le_refl 0
  | cons text rest ih =>
      rw [List.length_cons, endedSize]
      omega

/-- The parts have the bytes of the text, and one more, since there is no separator at the end. -/
theorem endedSize_splitAt (single : separator.utf8Size = 1) (text : List Char) :
    endedSize ((splitAt separator text).map String.ofList) =
      (String.ofList text).utf8ByteSize + 1 := by
  induction text with
  | nil => rfl
  | cons char rest ih =>
      by_cases same : char = separator
      · rw [splitAt, if_pos same, List.map_cons, endedSize, ih, same]
        simp [single]
        omega
      · obtain ⟨first, parts, split⟩ := List.exists_cons_of_ne_nil (splitAt_ne_nil separator rest)
        rw [split, List.map_cons, endedSize] at ih
        rw [splitAt_cons_of_ne same split, List.map_cons, endedSize]
        simp only [String.ofList_cons, String.utf8ByteSize_append] at ih ⊢
        omega

/-- A name behind a slash is the last part. -/
theorem slashParts_append (before name : String) (free : '/' ∉ name.toList) :
    slashParts (before ++ "/" ++ name) = slashParts before ++ [name] := by
  have chars : (before ++ "/" ++ name).toList = before.toList ++ '/' :: name.toList := by simp
  rw [slashParts, slashParts, chars, splitAt_append_cons, splitAt_of_notMem free]
  simp

end TypedJson
