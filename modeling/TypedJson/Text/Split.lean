namespace TypedJson

/-- The parts of a text between separators, one more than there are separators. -/
def splitAt (separator : Char) : List Char → List (List Char)
  | [] => [[]]
  | char :: rest =>
    if char = separator then [] :: splitAt separator rest
    else
      match splitAt separator rest with
      | first :: others => (char :: first) :: others
      | [] => [[char]]

/-- The parts of a text between slashes. -/
def slashParts (text : String) : List String := (splitAt '/' text.toList).map String.ofList

/-- A line without the carriage return at its end. -/
def dropReturn (line : List Char) : List Char :=
  if line.getLast? = some '\r' then line.dropLast else line

/-- Ends all lines but the last, which counts if there is anything in it. -/
def endLines : List (List Char) → List (List Char)
  | [] => []
  | [last] => if last.isEmpty then [] else [last]
  | line :: rest => dropReturn line :: endLines rest

/-- The lines of a text; a line feed, also after a carriage return, ends a line. -/
def lines (text : String) : List String :=
  (endLines (splitAt '\n' text.toList)).map String.ofList

end TypedJson
