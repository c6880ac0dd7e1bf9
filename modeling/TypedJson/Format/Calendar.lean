import TypedJson.Text.Digit
import TypedJson.Unicode.Blank

namespace TypedJson.Format

/-- Reads as many decimal digits as there are, up to `high` and at least `low`. -/
def digits (low high : Nat) (input : List Char) : Option (Nat × List Char) :=
  let found := (input.take high).takeWhile Char.isDigit
  if found.length < low then none
  else some (decimalValue found, input.drop found.length)

/-- Moves over one given character. -/
def mark (char : Char) : List Char → Option (List Char)
  | first :: rest => if first = char then some rest else none
  | [] => none

namespace Calendar

def isLeapYear (year : Int) : Bool :=
  year % 4 == 0 && (year % 100 != 0 || year % 400 == 0)

def monthLength (year : Int) (month : Nat) : Nat :=
  if month = 2 then if isLeapYear year then 29 else 28
  else if month = 4 ∨ month = 6 ∨ month = 9 ∨ month = 11 then 30
  else 31

/-- Whether there is such a day. -/
def isDay (year : Int) (month day : Nat) : Bool :=
  1 ≤ month && month ≤ 12 && 1 ≤ day && day ≤ monthLength year month

/-- Reads a year of four digits, or of any number of digits after a sign. -/
def lenientYear (input : List Char) : Option (Int × List Char) :=
  match input.dropWhile Unicode.isBlank with
  | '-' :: rest => (digits 1 rest.length rest).map fun (year, rest) => (-(year : Int), rest)
  | '+' :: rest => (digits 1 rest.length rest).map fun (year, rest) => (year, rest)
  | rest => (digits 1 4 rest).map fun (year, rest) => (year, rest)

/-- Reads a number of one or two digits, which may stand after blanks. -/
def lenientField (input : List Char) : Option (Nat × List Char) :=
  digits 1 2 (input.dropWhile Unicode.isBlank)

def lenientDay (input : List Char) : Option ((Int × Nat × Nat) × List Char) := do
  let (year, rest) ← lenientYear input
  let rest ← mark '-' rest
  let (month, rest) ← lenientField rest
  let rest ← mark '-' rest
  let (day, rest) ← lenientField rest
  return ((year, month, day), rest)

/-- Whether a text of ten bytes is a day, with signs and blanks allowed before numbers. -/
def isDate (text : String) : Bool :=
  text.utf8ByteSize == 10 &&
    match lenientDay text.toList with
    | some ((year, month, day), []) => isDay year month day
    | _ => false

/-- Reads a day with exactly the digits that a date needs. -/
def strictDay (input : List Char) : Option (List Char) := do
  let (year, rest) ← digits 4 4 input
  let rest ← mark '-' rest
  let (month, rest) ← digits 2 2 rest
  let rest ← mark '-' rest
  let (day, rest) ← digits 2 2 rest
  if isDay year month day then return rest else none

/-- Reads a fraction of a second, if a dot starts one. -/
def fraction : List Char → Option (List Char)
  | '.' :: rest => (digits 1 rest.length rest).map Prod.snd
  | rest => some rest

/-- Reads hours, minutes and seconds; any minute may have a sixty-first second. -/
def clock (input : List Char) : Option (List Char) := do
  let (hour, rest) ← digits 2 2 input
  let rest ← mark ':' rest
  let (minute, rest) ← digits 2 2 rest
  let rest ← mark ':' rest
  let (second, rest) ← digits 2 2 rest
  let rest ← fraction rest
  if hour ≤ 23 ∧ minute ≤ 59 ∧ second ≤ 60 then return rest else none

/-- Reads the hours and minutes of an offset, which stays below a day. -/
def offsetAmount (input : List Char) : Option (List Char) := do
  let (hour, rest) ← digits 2 2 input
  let rest ← mark ':' rest
  let (minute, rest) ← digits 2 2 rest
  if hour ≤ 23 ∧ minute ≤ 59 then return rest else none

/-- Reads the offset from universal time; the sign may be a true minus sign. -/
def offset : List Char → Option (List Char)
  | 'Z' :: rest => some rest
  | 'z' :: rest => some rest
  | '+' :: rest => offsetAmount rest
  | '-' :: rest => offsetAmount rest
  | '\u2212' :: rest => offsetAmount rest
  | _ => none

/-- Moves over the mark between a day and a time. -/
def timeMark : List Char → Option (List Char)
  | 'T' :: rest => some rest
  | 't' :: rest => some rest
  | ' ' :: rest => some rest
  | _ => none

/-- Whether a text is a day and a time with an offset. The day is read more strictly than one that
stands alone. -/
def isDateTime (text : String) : Bool :=
  (do
    let rest ← strictDay text.toList
    let rest ← timeMark rest
    let rest ← clock rest
    offset rest) == some []

/-- A time is what completes some day to a date with a time. -/
def isTime (text : String) : Bool := isDateTime ("1970-01-01T" ++ text)

end Calendar

end TypedJson.Format
