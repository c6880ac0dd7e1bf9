import TypedJson.Json.Bytes
import TypedJson.Proofs.Json.Common
import TypedJson.Proofs.Text.Utf8

namespace TypedJson.Json

open Utf8 (Stray)

/-- No quote is left in sight. -/
theorem unquoted_hideQuotes (escaped : Bool) (chars : List Char) :
    '"' ∉ hideQuotes escaped chars := by
  induction chars generalizing escaped with
  | nil => simp [hideQuotes]
  | cons char rest ih =>
      have shown : (if char = '"' then if escaped then '/' else closingMark else char) ≠ '"' := by
        split
        · cases escaped <;> decide
        · assumption
      rw [hideQuotes, List.mem_cons, not_or]
      exact ⟨shown.symm, ih _⟩

/-- A byte past ASCII is shown as a mark. -/
theorem strayChar_of_le {byte : UInt8} (past : 128 ≤ byte) : strayChar byte = '\x7f' := by
  have notZero : byte ≠ 0 := by
    rintro rfl
    exact absurd past (by decide)
  rw [strayChar, if_neg notZero, if_neg (UInt8.not_lt.mpr past)]

/-- Stray bytes are shown as a mark with no quote behind it, if there are any. -/
theorem strayChars_cases {stray : ByteArray} (isStray : Stray stray) :
    stray = .empty ∨ ∃ rest, strayChars stray = '\x7f' :: rest ∧ '"' ∉ rest := by
  have same : stray = stray.data.toList.toByteArray := by
    apply ByteArray.ext
    rw [List.data_toByteArray, Array.toArray_toList]
  unfold strayChars
  cases bytes : stray.data.toList with
  | nil => exact .inl (by rw [same, bytes]; rfl)
  | cons byte rest =>
      rw [bytes] at same
      rw [List.map_cons, strayChar_of_le (same ▸ isStray).le_head]
      exact .inr ⟨_, rfl, unquoted_hideQuotes _ _⟩

/-- In what stands for stray bytes no value is read to its end. -/
theorem barren_strayChars {stray : ByteArray} (isStray : Stray stray) :
    Barren (strayChars stray) := by
  obtain rfl | ⟨rest, shown, unquoted⟩ := strayChars_cases isStray
  · exact .blanks .nothing
  · rw [shown]
    exact .stray unquoted

/-- What is shown for stray bytes is not blank. -/
theorem eq_empty_of_blanks {stray : ByteArray} (isStray : Stray stray) {chars : List Char}
    (blank : Blanks (chars ++ strayChars stray)) : stray = .empty := by
  obtain empty | ⟨rest, shown, -⟩ := strayChars_cases isStray
  · exact empty
  · have isBlank := blanks_iff.mp blank '\x7f' (by simp [shown])
    cases isBlank

/-- A text with stray bytes behind it is read as the text with their marks behind it. -/
theorem ofBytes_append {Item : Type} (read : String → Except Failure Item) (text : String)
    {stray : ByteArray} (isStray : Stray stray) :
    ofBytes read (text.toUTF8 ++ stray) =
      (read (text ++ String.ofList (strayChars stray))).mapError
        (Failure.atClosing (closingPlace? text (strayChars stray))) := by
  rw [ofBytes, Utf8.split_append text isStray]

/-- The bytes of a text are read as the text is. -/
theorem ofBytes_toUTF8 {Item : Type} (read : String → Except Failure Item) (text : String) :
    ofBytes read text.toUTF8 = read text := by
  have same : ofBytes read text.toUTF8 =
      (read (text ++ "")).mapError (Failure.atClosing none) := by
    rw [ofBytes, Utf8.split_toUTF8]
    rfl
  rw [same, String.append_empty]
  cases read text with
  | error failure => simp [Except.mapError, Failure.atClosing]
  | ok item => rfl

/-- The bytes of a text are read as the text. -/
theorem readBytes_toUTF8 (text : String) : readBytes text.toUTF8 = read text :=
  ofBytes_toUTF8 read text

/-- An item is read of bytes exactly if it is read of what is shown for them. -/
theorem ofBytes_eq_ok_iff {Item : Type} {read : String → Except Failure Item} {text : String}
    {stray : ByteArray} (isStray : Stray stray) {item : Item} :
    ofBytes read (text.toUTF8 ++ stray) = .ok item ↔
      read (text ++ String.ofList (strayChars stray)) = .ok item := by
  rw [ofBytes_append read text isStray]
  cases read (text ++ String.ofList (strayChars stray)) <;> simp [Except.mapError]

/-- Bytes are one document exactly if they are a text that is. -/
theorem readBytes_eq_ok_iff {bytes : ByteArray} {value : Value} :
    readBytes bytes = .ok value ↔ ∃ text : String, bytes = text.toUTF8 ∧ read text = .ok value := by
  constructor
  · intro made
    obtain ⟨text, stray, rfl, isStray⟩ := Utf8.exists_text_append bytes
    have shown := (ofBytes_eq_ok_iff isStray).mp made
    obtain ⟨after, leading, blank⟩ := read_eq_ok_iff.mp shown
    have common : Common (strayChars stray) []
        (.start (text ++ String.ofList (strayChars stray))) (.start text) := by
      refine ⟨text.toList, ?_, ?_⟩
      · simp [Cursor.start]
      · simp [Cursor.start]
    obtain ⟨_, -, -, chars, ofAfter, -⟩ :=
      (Reader.carriedWith ⟨barren_strayChars isStray, .nothing⟩ _).value _ _ _ _ (Nat.le_refl _)
        common _ leading
    rw [ofAfter] at blank
    obtain rfl := eq_empty_of_blanks isStray blank
    refine ⟨text, ByteArray.append_empty, ?_⟩
    rwa [ByteArray.append_empty, readBytes_toUTF8] at made
  · rintro ⟨text, rfl, made⟩
    rw [readBytes_toUTF8, made]

end TypedJson.Json
