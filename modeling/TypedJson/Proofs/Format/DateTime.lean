import TypedJson.Proofs.Format.Date

namespace TypedJson.Format.Calendar

/-- A full date is read as a day. -/
theorem strictDay_append {day : List Char} (full : IsFullDate day) (rest : List Char) :
    strictDay (day ++ rest) = some rest := by
  obtain ⟨year, month, date, written, yearLength, monthLength, dateLength, rfl, isDay⟩ := full
  have read {count : Nat} {found : List Char} (written : AreDigits found)
      (length : found.length = count) (after : List Char) :
      digits count count (found ++ after) = some (decimalValue found, after) :=
    digits_append written length.ge length.le (.inl length)
  rw [List.append_assoc, List.cons_append, List.append_assoc, List.cons_append, strictDay,
    read written.1 yearLength]
  simp only [Option.bind_eq_bind, Option.bind_some, mark, if_true,
    read written.2.1 monthLength, read written.2.2 dateLength]
  rw [if_pos ((isDay_iff _ _ _).mpr isDay)]
  rfl

/-- What is read as a day is a full date. -/
theorem exists_of_strictDay {input rest : List Char} (read : strictDay input = some rest) :
    ∃ day, IsFullDate day ∧ input = day ++ rest := by
  simp only [strictDay, Option.bind_eq_bind, Option.bind_eq_some_iff, mark_eq_some_iff,
    Prod.exists] at read
  obtain ⟨_, _, readYear, _, rfl, _, _, readMonth, _, rfl, _, _, readDate, last⟩ := read
  split at last
  · rename_i isDay
    obtain rfl := Option.some.inj last
    obtain ⟨year, yearDigits, four, atMostFour, rfl, rfl⟩ := exists_of_digits readYear
    obtain ⟨month, monthDigits, two, atMostTwo, rfl, rfl⟩ := exists_of_digits readMonth
    obtain ⟨date, dateDigits, least, most, rfl, rfl⟩ := exists_of_digits readDate
    refine ⟨year ++ '-' :: (month ++ '-' :: date), ?_, by simp⟩
    exact ⟨year, month, date, ⟨yearDigits, monthDigits, dateDigits⟩, le_antisymm atMostFour four,
      le_antisymm atMostTwo two, le_antisymm most least, rfl, (isDay_iff _ _ _).mp isDay⟩
  · simp at last

/-- The texts between a day and a time. -/
def timeMarks : List String := ["T", "t", " "]

/-- A mark for the time is read as one. -/
theorem timeMark_append {mark : String} (isMark : mark ∈ timeMarks) (rest : List Char) :
    timeMark (mark.toList ++ rest) = some rest := by
  simp only [timeMarks, List.mem_cons, List.not_mem_nil, or_false] at isMark
  rcases isMark with rfl | rfl | rfl <;> rfl

/-- What is read as a mark for the time is one. -/
theorem exists_of_timeMark {input rest : List Char} (read : timeMark input = some rest) :
    ∃ mark ∈ timeMarks, input = mark.toList ++ rest := by
  unfold timeMark at read
  split at read
  · exact ⟨"T", by decide, by simpa using read⟩
  · exact ⟨"t", by decide, by simpa using read⟩
  · exact ⟨" ", by decide, by simpa using read⟩
  · simp at read

/-- Whether a text is hours, minutes, seconds and an offset. -/
def endsDateTime (time : String) : Bool := (clock time.toList).bind offset == some []

/-- What a text means after a day and a mark does not depend on the day. -/
theorem isDateTime_append {day mark : String} (full : IsFullDate day.toList)
    (isMark : mark ∈ timeMarks) (time : String) :
    isDateTime (day ++ mark ++ time) = endsDateTime time := by
  rw [isDateTime, String.toList_append, String.toList_append, List.append_assoc,
    strictDay_append full]
  simp only [Option.bind_eq_bind, Option.bind_some, timeMark_append isMark]
  rfl

/-- The day before each time is a full date. -/
theorem isFullDate_epoch : IsFullDate "1970-01-01".toList :=
  ⟨['1', '9', '7', '0'], ['0', '1'], ['0', '1'], by decide, rfl, rfl, rfl, rfl,
    by decide, by decide, 31, rfl, by decide⟩

/-- A time is what completes a day to a date with a time. -/
theorem isTime_eq (time : String) : isTime time = endsDateTime time :=
  isDateTime_append isFullDate_epoch (by decide : "T" ∈ timeMarks) time

/--
A time completes all full dates alike, and a text is a date with a time exactly if a full date, a
mark and a time follow each other in it.
-/
theorem isDateTime_iff_fullDate_and_time :
    (∀ day time : String, IsFullDate day.toList → isDateTime (day ++ "T" ++ time) = isTime time) ∧
    ∀ text : String, isDateTime text = true ↔
      ∃ day mark time : String, IsFullDate day.toList ∧ mark ∈ timeMarks ∧
        text = day ++ mark ++ time ∧ isTime time = true := by
  refine ⟨fun day time full => ?_, fun text => ⟨fun accepted => ?_, ?_⟩⟩
  · rw [isDateTime_append full (by decide), isTime_eq]
  · rw [isDateTime, beq_iff_eq] at accepted
    obtain ⟨afterDay, readDay, read⟩ := Option.bind_eq_some_iff.mp accepted
    obtain ⟨afterMark, readMark, ends⟩ := Option.bind_eq_some_iff.mp read
    obtain ⟨day, full, isText⟩ := exists_of_strictDay readDay
    obtain ⟨mark, isMark, rfl⟩ := exists_of_timeMark readMark
    refine ⟨String.ofList day, mark, String.ofList afterMark, ?_, isMark, ?_, ?_⟩
    · rwa [String.toList_ofList]
    · apply String.toList_injective
      simp [isText]
    · rw [isTime_eq, endsDateTime, String.toList_ofList, beq_iff_eq]
      exact ends
  · rintro ⟨day, mark, time, full, isMark, rfl, accepted⟩
    rw [isDateTime_append full isMark, ← isTime_eq, accepted]

/-- The last day of the greatest year and a time that belongs to the next year elsewhere. -/
theorem isDateTime_of_lastDay :
    IsFullDate "9999-12-31".toList ∧
      isDateTime ("9999-12-31" ++ "T" ++ "23:59:60.25-23:59") = true ∧
      isDateTime ("9999-12-31" ++ "T" ++ "23:59:60.25-24:00") = false := by
  have full : IsFullDate "9999-12-31".toList :=
    ⟨['9', '9', '9', '9'], ['1', '2'], ['3', '1'], by decide, rfl, rfl, rfl, rfl,
      by decide, by decide, 31, rfl, by decide⟩
  refine ⟨full, ?_, ?_⟩
  · rw [isDateTime_iff_fullDate_and_time.1 _ _ full]
    decide +kernel
  · rw [isDateTime_iff_fullDate_and_time.1 _ _ full]
    decide +kernel

end TypedJson.Format.Calendar
