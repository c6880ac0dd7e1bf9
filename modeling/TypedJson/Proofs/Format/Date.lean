import Mathlib.Data.List.Infix
import Mathlib.Data.List.TakeWhile
import Mathlib.Data.String.Basic
import Mathlib.Tactic.IntervalCases
import TypedJson.Format.Calendar

namespace TypedJson.Format

def AreDigits (found : List Char) : Prop := ∀ char ∈ found, char.isDigit = true

instance (found : List Char) : Decidable (AreDigits found) :=
  List.decidableBAll _ found

/-- Digits are read up to the most, or up to a character that is none. -/
theorem digits_append {low high : Nat} {found rest : List Char} (written : AreDigits found)
    (enough : low ≤ found.length) (within : found.length ≤ high)
    (ends : found.length = high ∨ ∀ char ∈ rest.head?, char.isDigit = false) :
    digits low high (found ++ rest) = some (decimalValue found, rest) := by
  have taken : ((found ++ rest).take high).takeWhile Char.isDigit = found := by
    rw [List.take_append, List.take_of_length_le within,
      List.takeWhile_append_of_pos written]
    rcases ends with full | stops
    · simp [full]
    · cases rest with
      | nil => simp
      | cons char tail =>
          have stop := stops char rfl
          cases high - found.length <;> simp [stop]
  rw [digits, taken, if_neg (Nat.not_lt.mpr enough), List.drop_left]

/-- What is read as a number was digits. -/
theorem exists_of_digits {low high value : Nat} {input rest : List Char}
    (read : digits low high input = some (value, rest)) :
    ∃ found, AreDigits found ∧ low ≤ found.length ∧ found.length ≤ high ∧
      value = decimalValue found ∧ input = found ++ rest := by
  rw [digits] at read
  split at read
  · simp at read
  · rename_i enough
    obtain ⟨rfl, rfl⟩ := Prod.mk.inj (Option.some.inj read)
    have short : ((input.take high).takeWhile Char.isDigit).length ≤ high :=
      (List.takeWhile_prefix _).length_le.trans (List.length_take_le _ _)
    refine ⟨_, fun char inside => ?_, Nat.not_lt.mp enough, short, rfl, ?_⟩
    · exact List.mem_takeWhile_imp inside
    · exact List.prefix_append_drop ((List.takeWhile_prefix _).trans (List.take_prefix _ _))

/-- A mark is the first character. -/
theorem mark_eq_some_iff {char : Char} {input rest : List Char} :
    mark char input = some rest ↔ input = char :: rest := by
  cases input with
  | nil => simp [mark]
  | cons first tail =>
      rw [mark]
      split
      · rename_i same
        simp [same]
      · rename_i different
        simp [different]

def AreBlanks (found : List Char) : Prop := ∀ char ∈ found, Unicode.isBlank char = true

/-- Digits lie between their codes. -/
theorem toNat_of_isDigit {char : Char} (digit : char.isDigit = true) :
    48 ≤ char.toNat ∧ char.toNat ≤ 57 := by
  simpa [Char.isDigit, UInt32.le_iff_toNat_le] using digit

/-- No digit is blank. -/
theorem isBlank_of_isDigit {char : Char} (digit : char.isDigit = true) :
    Unicode.isBlank char = false := by
  have bounds := toNat_of_isDigit digit
  simp only [Unicode.isBlank, Unicode.blankRanges, Unicode.inRanges, List.any_cons, List.any_nil,
    Bool.or_false, Bool.or_eq_false_iff, Bool.and_eq_false_iff, decide_eq_false_iff_not]
  omega

/-- Blanks are dropped up to what is not blank. -/
theorem dropWhile_blanks {blanks rest : List Char} (written : AreBlanks blanks)
    (stops : ∀ char ∈ rest.head?, Unicode.isBlank char = false) :
    (blanks ++ rest).dropWhile Unicode.isBlank = rest := by
  rw [List.dropWhile_append_of_pos written]
  cases rest with
  | nil => rfl
  | cons char tail => rw [List.dropWhile_cons_of_neg (by simp [stops char rfl])]

/-- What is dropped was blanks. -/
theorem exists_blanks (input : List Char) :
    ∃ blanks, AreBlanks blanks ∧ input = blanks ++ input.dropWhile Unicode.isBlank :=
  ⟨_, fun _ inside => List.mem_takeWhile_imp inside, List.takeWhile_append_dropWhile.symm⟩

namespace Calendar

/-- The leap years of the Gregorian calendar. -/
def IsLeap (year : Int) : Prop := 4 ∣ year ∧ (100 ∣ year → 400 ∣ year)

instance (year : Int) : Decidable (IsLeap year) :=
  inferInstanceAs (Decidable (4 ∣ year ∧ (100 ∣ year → 400 ∣ year)))

/-- How many days the months of a year have. -/
def monthLengths (year : Int) : List Nat :=
  [31, if IsLeap year then 29 else 28, 31, 30, 31, 30, 31, 31, 30, 31, 30, 31]

/-- Months and days are counted from one. -/
def IsDayOf (year : Int) (month day : Nat) : Prop :=
  1 ≤ month ∧ 1 ≤ day ∧ ∃ length, (monthLengths year)[month - 1]? = some length ∧ day ≤ length

/-- Leap years are those of the calendar. -/
theorem isLeapYear_iff (year : Int) : isLeapYear year = true ↔ IsLeap year := by
  simp only [isLeapYear, IsLeap, Bool.and_eq_true, Bool.or_eq_true, beq_iff_eq, bne_iff_ne]
  omega

/-- The table of months has the lengths of the calendar. -/
theorem monthLengths_eq_some_iff {year : Int} {month length : Nat} (positive : 1 ≤ month) :
    (monthLengths year)[month - 1]? = some length ↔
      month ≤ 12 ∧ monthLength year month = length := by
  by_cases inRange : month ≤ 12
  · have leap := isLeapYear_iff year
    interval_cases month <;> simp [monthLengths, monthLength, leap]
  · have beyond : (monthLengths year)[month - 1]? = none :=
      List.getElem?_eq_none (by simp only [monthLengths, List.length_cons, List.length_nil]; omega)
    simp [beyond, inRange]

/-- Days are those of the calendar. -/
theorem isDay_iff (year : Int) (month day : Nat) :
    isDay year month day = true ↔ IsDayOf year month day := by
  simp only [isDay, IsDayOf, Bool.and_eq_true, decide_eq_true_eq]
  constructor
  · rintro ⟨⟨⟨first, last⟩, positive⟩, within⟩
    exact ⟨first, positive, _, (monthLengths_eq_some_iff first).mpr ⟨last, rfl⟩, within⟩
  · rintro ⟨first, positive, length, given, within⟩
    obtain ⟨last, rfl⟩ := (monthLengths_eq_some_iff first).mp given
    exact ⟨⟨⟨first, last⟩, positive⟩, within⟩

/-- Four digits, two and two with hyphens between them that name a day. -/
def IsFullDate (text : List Char) : Prop :=
  ∃ year month day, (AreDigits year ∧ AreDigits month ∧ AreDigits day) ∧
    year.length = 4 ∧ month.length = 2 ∧ day.length = 2 ∧
    text = year ++ '-' :: (month ++ '-' :: day) ∧
    IsDayOf (decimalValue year) (decimalValue month) (decimalValue day)

/-- The sign of a year and how many digits may follow it. -/
def IsSigned (sign year : List Char) : Prop :=
  sign = [] ∧ year.length ≤ 4 ∨ sign = ['+'] ∨ sign = ['-']

def signedYear (sign year : List Char) : Int :=
  if sign = ['-'] then -(decimalValue year : Int) else decimalValue year

/-- The parts of a date that may have blanks before its numbers and a sign before its year. -/
structure DateSpelling where
  yearBlanks : List Char
  sign : List Char
  year : List Char
  monthBlanks : List Char
  month : List Char
  dayBlanks : List Char
  day : List Char

namespace DateSpelling

def text (spelling : DateSpelling) : List Char :=
  spelling.yearBlanks ++ (spelling.sign ++ (spelling.year ++ '-' ::
    (spelling.monthBlanks ++ (spelling.month ++ '-' :: (spelling.dayBlanks ++ spelling.day)))))

/-- What the parts have to be. -/
structure IsLoose (spelling : DateSpelling) : Prop where
  blanks : AreBlanks spelling.yearBlanks ∧ AreBlanks spelling.monthBlanks ∧
    AreBlanks spelling.dayBlanks
  digits : AreDigits spelling.year ∧ AreDigits spelling.month ∧ AreDigits spelling.day
  signed : IsSigned spelling.sign spelling.year
  year : 1 ≤ spelling.year.length
  month : 1 ≤ spelling.month.length ∧ spelling.month.length ≤ 2
  day : 1 ≤ spelling.day.length ∧ spelling.day.length ≤ 2
  isDay : IsDayOf (signedYear spelling.sign spelling.year) (decimalValue spelling.month)
    (decimalValue spelling.day)

end DateSpelling

/-- Blanks and one or two digits are read as a number. -/
theorem lenientField_append {blanks found rest : List Char} (blank : AreBlanks blanks)
    (written : AreDigits found) (some : 1 ≤ found.length) (few : found.length ≤ 2)
    (ends : ∀ char ∈ rest.head?, char.isDigit = false) :
    lenientField (blanks ++ (found ++ rest)) = .some (decimalValue found, rest) := by
  have stops : ∀ char ∈ (found ++ rest).head?, Unicode.isBlank char = false := by
    cases found with
    | nil => simp at some
    | cons char tail =>
        rintro _ ⟨⟩
        exact isBlank_of_isDigit (written char List.mem_cons_self)
  rw [lenientField, dropWhile_blanks blank stops, digits_append written some few (.inr ends)]

/-- What is read as such a number was blanks and one or two digits. -/
theorem exists_of_lenientField {input rest : List Char} {value : Nat}
    (read : lenientField input = some (value, rest)) :
    ∃ blanks found, AreBlanks blanks ∧ AreDigits found ∧ 1 ≤ found.length ∧ found.length ≤ 2 ∧
      value = decimalValue found ∧ input = blanks ++ (found ++ rest) := by
  obtain ⟨blanks, blank, split⟩ := exists_blanks input
  obtain ⟨found, written, enough, few, isValue, rest⟩ := exists_of_digits read
  exact ⟨blanks, found, blank, written, enough, few, isValue, by rw [← rest, ← split]⟩

/-- Blanks, a sign and digits are read as a year. -/
theorem lenientYear_append {blanks sign found rest : List Char} (blank : AreBlanks blanks)
    (signed : IsSigned sign found) (written : AreDigits found) (some : 1 ≤ found.length)
    (ends : ∀ char ∈ rest.head?, char.isDigit = false) :
    lenientYear (blanks ++ (sign ++ (found ++ rest))) = .some (signedYear sign found, rest) := by
  have many : found.length ≤ (found ++ rest).length := by simp
  rcases signed with ⟨rfl, few⟩ | rfl | rfl
  · cases found with
    | nil => simp at some
    | cons char tail =>
        have digit := written char List.mem_cons_self
        have stops : ∀ first ∈ ([] ++ (char :: tail ++ rest)).head?,
            Unicode.isBlank first = false := by
          rintro _ ⟨⟩
          exact isBlank_of_isDigit digit
        rw [lenientYear, dropWhile_blanks blank stops]
        have read := digits_append written some few (.inr ends)
        split
        · rename_i other _ same
          obtain ⟨rfl, -⟩ := List.cons.inj same
          exact absurd digit (by decide)
        · rename_i other _ same
          obtain ⟨rfl, -⟩ := List.cons.inj same
          exact absurd digit (by decide)
        · rw [List.nil_append, read]
          rfl
  · rw [lenientYear, dropWhile_blanks blank (by rintro _ ⟨⟩; decide)]
    simp only [List.cons_append, List.nil_append]
    rw [digits_append written some many (.inr ends)]
    rfl
  · rw [lenientYear, dropWhile_blanks blank (by rintro _ ⟨⟩; decide)]
    simp only [List.cons_append, List.nil_append]
    rw [digits_append written some many (.inr ends)]
    rfl

/-- What is read as a year was blanks, a sign or none, and digits. -/
theorem exists_of_lenientYear {input rest : List Char} {value : Int}
    (read : lenientYear input = some (value, rest)) :
    ∃ blanks sign found, AreBlanks blanks ∧ IsSigned sign found ∧ AreDigits found ∧
      1 ≤ found.length ∧ value = signedYear sign found ∧
      input = blanks ++ (sign ++ (found ++ rest)) := by
  obtain ⟨blanks, blank, split⟩ := exists_blanks input
  rw [lenientYear] at read
  split at read <;> rename_i left
  · obtain ⟨⟨year, after⟩, readYear, same⟩ := Option.map_eq_some_iff.mp read
    obtain ⟨rfl, rfl⟩ := Prod.mk.inj same
    obtain ⟨found, written, enough, -, rfl, rfl⟩ := exists_of_digits readYear
    rw [left] at split
    exact ⟨blanks, ['-'], found, blank, .inr (.inr rfl), written, enough, rfl, split⟩
  · obtain ⟨⟨year, after⟩, readYear, same⟩ := Option.map_eq_some_iff.mp read
    obtain ⟨rfl, rfl⟩ := Prod.mk.inj same
    obtain ⟨found, written, enough, -, rfl, rfl⟩ := exists_of_digits readYear
    rw [left] at split
    exact ⟨blanks, ['+'], found, blank, .inr (.inl rfl), written, enough, rfl, split⟩
  · obtain ⟨⟨year, after⟩, readYear, same⟩ := Option.map_eq_some_iff.mp read
    obtain ⟨rfl, rfl⟩ := Prod.mk.inj same
    obtain ⟨found, written, enough, few, rfl, isRest⟩ := exists_of_digits readYear
    rw [isRest] at split
    exact ⟨blanks, [], found, blank, .inl ⟨rfl, few⟩, written, enough, rfl, split⟩

/-- The lenient reader reads every loose spelling of a day to its end. -/
theorem lenientDay_text {spelling : DateSpelling} (loose : spelling.IsLoose) :
    lenientDay spelling.text =
      some ((signedYear spelling.sign spelling.year, decimalValue spelling.month,
        decimalValue spelling.day), []) := by
  obtain ⟨yearBlank, monthBlank, dayBlank⟩ := loose.blanks
  obtain ⟨yearDigits, monthDigits, dayDigits⟩ := loose.digits
  have hyphen (tail : List Char) : ∀ char ∈ ('-' :: tail).head?, char.isDigit = false := by
    rintro _ ⟨⟩
    decide
  have year := lenientYear_append yearBlank loose.signed yearDigits loose.year (hyphen
    (spelling.monthBlanks ++ (spelling.month ++ '-' :: (spelling.dayBlanks ++ spelling.day))))
  have month := lenientField_append monthBlank monthDigits loose.month.1 loose.month.2
    (hyphen (spelling.dayBlanks ++ spelling.day))
  have day : lenientField (spelling.dayBlanks ++ (spelling.day ++ [])) =
      some (decimalValue spelling.day, []) :=
    lenientField_append dayBlank dayDigits loose.day.1 loose.day.2 (by rintro _ ⟨⟩)
  rw [List.append_nil] at day
  rw [lenientDay, DateSpelling.text, year]
  simp only [Option.bind_eq_bind, Option.bind_some, mark, if_true, month, day, pure]

/-- What is read as a day is a loose spelling of it. -/
theorem exists_of_lenientDay {input : List Char} {year : Int} {month day : Nat}
    (read : lenientDay input = some ((year, month, day), []))
    (isDay : isDay year month day = true) :
    ∃ spelling : DateSpelling, spelling.IsLoose ∧ input = spelling.text := by
  simp only [lenientDay, Option.bind_eq_bind, Option.bind_eq_some_iff, mark_eq_some_iff, pure,
    Option.some.injEq, Prod.mk.injEq, Prod.exists] at read
  obtain ⟨_, afterYear, readYear, _, rfl, _, afterMonth, readMonth, _, rfl, _, _, readDay,
    ⟨rfl, rfl, rfl⟩, rfl⟩ := read
  obtain ⟨yearBlanks, sign, year, yearBlank, signed, yearDigits, someYear, rfl, rfl⟩ :=
    exists_of_lenientYear readYear
  obtain ⟨monthBlanks, month, monthBlank, monthDigits, someMonth, fewMonth, rfl, rfl⟩ :=
    exists_of_lenientField readMonth
  obtain ⟨dayBlanks, day, dayBlank, dayDigits, someDay, fewDay, rfl, rfl⟩ :=
    exists_of_lenientField readDay
  refine ⟨⟨yearBlanks, sign, year, monthBlanks, month, dayBlanks, day⟩,
    ⟨⟨yearBlank, monthBlank, dayBlank⟩, ⟨yearDigits, monthDigits, dayDigits⟩, signed, someYear,
      ⟨someMonth, fewMonth⟩, ⟨someDay, fewDay⟩, (isDay_iff _ _ _).mp isDay⟩, ?_⟩
  simp only [DateSpelling.text, List.append_nil]

/-- Dates are the loose spellings of ten bytes. -/
theorem isDate_iff_loose (text : String) :
    isDate text = true ↔
      text.utf8ByteSize = 10 ∧ ∃ spelling : DateSpelling, spelling.IsLoose ∧
        text.toList = spelling.text := by
  rw [isDate, Bool.and_eq_true, beq_iff_eq]
  refine and_congr_right fun _ => ?_
  constructor
  · intro accepted
    split at accepted
    · rename_i year month day read
      exact exists_of_lenientDay read accepted
    · simp at accepted
  · rintro ⟨spelling, loose, isText⟩
    rw [isText, lenientDay_text loose]
    exact (isDay_iff _ _ _).mpr loose.isDay

/-- Digits and hyphens take one byte each. -/
theorem utf8ByteSize_ascii {text : String}
    (ascii : ∀ char ∈ text.toList, char.isDigit = true ∨ char = '-') :
    text.utf8ByteSize = text.toList.length := by
  rw [← String.ofList_toList (s := text), String.utf8ByteSize_ofList, String.toList_ofList]
  generalize text.toList = chars at ascii
  induction chars with
  | nil => rfl
  | cons char rest ih =>
      obtain ⟨first, others⟩ := List.forall_mem_cons.mp ascii
      have size : char.utf8Size = 1 := by
        rcases first with digit | rfl
        · rw [Char.utf8Size_eq_one_iff, UInt32.le_iff_toNat_le]
          exact (toNat_of_isDigit digit).2.trans (by decide)
        · rfl
      rw [String.utf8Len_cons, ih others, size, List.length_cons]

/-- The characters of a date without blanks and sign. -/
theorem mem_plainDate {year month day : List Char}
    (written : AreDigits year ∧ AreDigits month ∧ AreDigits day) :
    ∀ char ∈ year ++ '-' :: (month ++ '-' :: day), char.isDigit = true ∨ char = '-' := by
  intro char inside
  simp only [List.mem_append, List.mem_cons] at inside
  rcases inside with inside | rfl | inside | rfl | inside
  · exact .inl (written.1 char inside)
  · exact .inr rfl
  · exact .inl (written.2.1 char inside)
  · exact .inr rfl
  · exact .inl (written.2.2 char inside)

/-- A full date is a date. -/
theorem isDate_of_fullDate {text : String} (full : IsFullDate text.toList) :
    isDate text = true := by
  obtain ⟨year, month, day, written, yearLength, monthLength, dayLength, isText, isDay⟩ := full
  refine (isDate_iff_loose text).mpr ⟨?_, ⟨[], [], year, [], month, [], day⟩, ?_, isText⟩
  · rw [utf8ByteSize_ascii (isText ▸ mem_plainDate written), isText]
    simp only [List.length_append, List.length_cons]
    omega
  · have none : AreBlanks [] := fun char inside => nomatch inside
    have positive {length count : Nat} (same : length = count) (some : 1 ≤ count) : 1 ≤ length :=
      same ▸ some
    exact ⟨⟨none, none, none⟩, written, .inl ⟨rfl, yearLength.le⟩,
      positive yearLength (by decide), ⟨positive monthLength (by decide), monthLength.le⟩,
      ⟨positive dayLength (by decide), dayLength.le⟩, isDay⟩

/-- Without blanks and without a sign, ten bytes leave no place for fewer digits. -/
theorem isFullDate_of_plain {text : String} (accepted : isDate text = true)
    (unblanked : ∀ char ∈ text.toList, Unicode.isBlank char = false)
    (unsigned : ∀ char ∈ text.toList.head?, char ≠ '+' ∧ char ≠ '-') :
    IsFullDate text.toList := by
  obtain ⟨size, spelling, loose, isText⟩ := (isDate_iff_loose text).mp accepted
  have empty {blanks : List Char} (blank : AreBlanks blanks)
      (inside : ∀ char ∈ blanks, char ∈ text.toList) : blanks = [] := by
    refine List.eq_nil_iff_forall_not_mem.mpr fun char given => ?_
    have notBlank := unblanked char (inside char given)
    rw [blank char given] at notBlank
    contradiction
  have noYearBlanks := empty loose.blanks.1 fun char given => by
    simp [isText, DateSpelling.text, given]
  have noMonthBlanks := empty loose.blanks.2.1 fun char given => by
    simp [isText, DateSpelling.text, given]
  have noDayBlanks := empty loose.blanks.2.2 fun char given => by
    simp [isText, DateSpelling.text, given]
  rw [DateSpelling.text, noYearBlanks, noMonthBlanks, noDayBlanks, List.nil_append,
    List.nil_append, List.nil_append] at isText
  obtain ⟨noSign, few⟩ : spelling.sign = [] ∧ spelling.year.length ≤ 4 := by
    rcases loose.signed with plain | plus | minus
    · exact plain
    · exact absurd rfl (unsigned '+' (by simp [isText, plus])).1
    · exact absurd rfl (unsigned '-' (by simp [isText, minus])).2
  rw [noSign, List.nil_append] at isText
  have length := utf8ByteSize_ascii (isText ▸ mem_plainDate loose.digits)
  rw [size, isText] at length
  simp only [List.length_append, List.length_cons] at length
  have month := loose.month
  have day := loose.day
  have isDay := loose.isDay
  rw [noSign, signedYear, if_neg (by decide)] at isDay
  exact ⟨spelling.year, spelling.month, spelling.day, loose.digits, by omega, by omega, by omega,
    isText, isDay⟩

/--
A date is a text of ten bytes that spells a day, perhaps with blanks and a sign. The full dates are
those without blanks and sign.
-/
theorem isDate_iff (text : String) :
    (isDate text = true ↔
      text.utf8ByteSize = 10 ∧ ∃ spelling : DateSpelling, spelling.IsLoose ∧
        text.toList = spelling.text) ∧
    (IsFullDate text.toList ↔
      isDate text = true ∧ (∀ char ∈ text.toList, Unicode.isBlank char = false) ∧
        ∀ char ∈ text.toList.head?, char ≠ '+' ∧ char ≠ '-') := by
  refine ⟨isDate_iff_loose text, fun full => ⟨isDate_of_fullDate full, ?_⟩,
    fun ⟨accepted, unblanked, unsigned⟩ => isFullDate_of_plain accepted unblanked unsigned⟩
  obtain ⟨year, month, day, written, yearLength, -, -, isText, -⟩ := full
  rw [isText]
  constructor
  · intro char inside
    rcases mem_plainDate written char inside with digit | rfl
    · exact isBlank_of_isDigit digit
    · decide
  · cases year with
    | nil => simp at yearLength
    | cons first rest =>
        rintro _ ⟨⟩
        have digit := written.1 first List.mem_cons_self
        constructor <;> rintro rfl <;> exact absurd digit (by decide)

/-- A date with a sign and a short month, which is no full date. -/
theorem isDate_of_signed :
    isDate "+2024-1-01" = true ∧ ¬IsFullDate "+2024-1-01".toList := by
  refine ⟨by decide +kernel, ?_⟩
  rintro ⟨year, month, day, written, yearLength, -, -, isText, -⟩
  cases year with
  | nil => simp at yearLength
  | cons first rest =>
      obtain ⟨rfl, -⟩ := List.cons.inj isText
      exact absurd (written.1 _ List.mem_cons_self) (by decide)

end Calendar

end TypedJson.Format
