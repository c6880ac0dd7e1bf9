import TypedJson.Text.Utf8

namespace TypedJson.Utf8

/-- Bytes that start with no character. -/
def Stray (bytes : ByteArray) : Prop := bytes.utf8DecodeChar? 0 = none

/-- Nothing is stray bytes. -/
theorem stray_empty : Stray ByteArray.empty := rfl

/-- A character that is decoded is found, and decoding goes on behind it. -/
theorem decodeFrom_of_some {bytes : ByteArray} {found : List Char} {index : Nat} {char : Char}
    (decoded : bytes.utf8DecodeChar? index = some char) :
    decodeFrom bytes found index = decodeFrom bytes (char :: found) (index + char.utf8Size) := by
  rw [decodeFrom]
  split
  · rename_i other
    simp [decoded] at other
  · rename_i other same
    rw [Option.some.inj (same.symm.trans decoded)]

/-- Where nothing is decoded decoding ends. -/
theorem decodeFrom_of_none {bytes : ByteArray} {found : List Char} {index : Nat}
    (decoded : bytes.utf8DecodeChar? index = none) :
    decodeFrom bytes found index = (found.reverse, index) := by
  rw [decodeFrom]
  split
  · rfl
  · rename_i other same
    simp [decoded] at same

/-- A character behind other bytes is decoded where it stands. -/
theorem utf8DecodeChar?_append_size (before rest : ByteArray) :
    (before ++ rest).utf8DecodeChar? before.size = rest.utf8DecodeChar? 0 := by
  rw [ByteArray.utf8DecodeChar?_eq_utf8DecodeChar?_extract, ByteArray.size_append,
    ByteArray.extract_append_eq_right rfl rfl]

/-- A character takes the bytes of its size. -/
theorem size_utf8Encode_singleton (char : Char) : [char].utf8Encode.size = char.utf8Size := by
  rw [List.utf8Encode_singleton, List.size_toByteArray, String.length_utf8EncodeChar]

/-- Decoding takes in a whole text and stops before bytes that start with no character. -/
theorem decodeFrom_append {stray : ByteArray} (isStray : Stray stray) (chars found : List Char)
    (before : ByteArray) :
    decodeFrom (before ++ (chars.utf8Encode ++ stray)) found before.size =
      (found.reverse ++ chars, before.size + chars.utf8Encode.size) := by
  induction chars generalizing found before with
  | nil =>
      rw [List.utf8Encode_nil, ByteArray.empty_append, decodeFrom_of_none]
      · simp
      · rw [utf8DecodeChar?_append_size]
        exact isStray
  | cons char chars ih =>
      have moved : before ++ ((char :: chars).utf8Encode ++ stray) =
          before ++ [char].utf8Encode ++ (chars.utf8Encode ++ stray) := by
        rw [List.utf8Encode_cons, ByteArray.append_assoc, ByteArray.append_assoc]
      have first : (before ++ ((char :: chars).utf8Encode ++ stray)).utf8DecodeChar? before.size =
          some char := by
        rw [utf8DecodeChar?_append_size, List.utf8Encode_cons, ByteArray.append_assoc,
          List.utf8DecodeChar?_utf8Encode_singleton_append]
      have next : before.size + char.utf8Size = (before ++ [char].utf8Encode).size := by
        rw [ByteArray.size_append, size_utf8Encode_singleton]
      rw [decodeFrom_of_some first, next, moved, ih, List.utf8Encode_cons (l := chars),
        ByteArray.size_append, ByteArray.size_append]
      simp [Nat.add_assoc]

/-- A text with stray bytes behind it is split between the two. -/
theorem split_append (text : String) {stray : ByteArray} (isStray : Stray stray) :
    split (text.toUTF8 ++ stray) = (text, stray) := by
  have decoded := decodeFrom_append isStray text.toList [] ByteArray.empty
  rw [ByteArray.empty_append, ByteArray.size_empty, Nat.zero_add, String.utf8Encode_toList]
    at decoded
  rw [split, String.toUTF8_eq_toByteArray, decoded]
  dsimp only
  rw [List.reverse_nil, List.nil_append, String.ofList_toList, ByteArray.size_append,
    ByteArray.extract_append_eq_right rfl rfl]

/-- A text alone leaves nothing. -/
theorem split_toUTF8 (text : String) : split text.toUTF8 = (text, ByteArray.empty) := by
  have alone := split_append text stray_empty
  rwa [ByteArray.append_empty] at alone

/-- All bytes are a text with stray bytes behind it. -/
theorem exists_text_append (bytes : ByteArray) :
    ∃ (text : String) (stray : ByteArray), bytes = text.toUTF8 ++ stray ∧ Stray stray := by
  induction size : bytes.size using Nat.strongRecOn generalizing bytes with
  | ind count ih =>
      cases decoded : bytes.utf8DecodeChar? 0 with
      | none => exact ⟨"", bytes, by simp, decoded⟩
      | some char =>
          obtain ⟨rest, rfl⟩ := ByteArray.exists_of_utf8DecodeChar?_eq_some decoded
          have shorter : rest.size < count := by
            have positive := char.utf8Size_pos
            rw [← size, ByteArray.size_append, List.size_toByteArray,
              String.length_utf8EncodeChar]
            omega
          obtain ⟨text, stray, rfl, isStray⟩ := ih rest.size shorter rest rfl
          refine ⟨String.singleton char ++ text, stray, ?_, isStray⟩
          simp [ByteArray.append_assoc, List.utf8Encode_singleton]

/-- A byte of ASCII is a character. -/
theorem Stray.le_head {byte : UInt8} {rest : List UInt8}
    (isStray : Stray (byte :: rest).toByteArray) : 128 ≤ byte := by
  refine UInt8.not_lt.mp fun ascii => ?_
  have small : byte.toNat < 128 := UInt8.lt_iff_toNat_lt.mp ascii
  have one : (Char.ofUInt8 byte).utf8Size = 1 := by
    rw [Char.utf8Size_eq_one_iff, UInt32.le_iff_toNat_le]
    exact Nat.le_of_lt_succ small
  have encoded : [byte] = String.utf8EncodeChar (Char.ofUInt8 byte) := by
    rw [String.utf8EncodeChar_eq_singleton one]
    show [byte] = [byte.toUInt32.toUInt8]
    rw [UInt8.toUInt8_toUInt32]
  have decoded : (byte :: rest).toByteArray.utf8DecodeChar? 0 = some (Char.ofUInt8 byte) := by
    rw [← List.singleton_append, List.toByteArray_append, encoded]
    exact ByteArray.utf8DecodeChar?_utf8EncodeChar_append
  rw [Stray, decoded] at isStray
  cases isStray

/-- Texts of the same bytes are the same. -/
theorem toUTF8_inj {first second : String} (same : first.toUTF8 = second.toUTF8) :
    first = second := String.toByteArray_inj.mp same

/-- The bytes of a text are read as that text only. -/
theorem fromUTF8?_eq_some_iff {bytes : ByteArray} {text : String} :
    String.fromUTF8? bytes = some text ↔ bytes = text.toUTF8 := by
  unfold String.fromUTF8?
  split
  · rename_i valid
    rw [Option.some.injEq, ← String.toByteArray_inj]
    rfl
  · rename_i invalid
    constructor
    · intro found
      cases found
    · rintro rfl
      exact absurd text.isValidUTF8 invalid

end TypedJson.Utf8
