import TypedJson.Unicode.Property

namespace TypedJson

/-- Fillers of Hangul: letters that leave no mark. -/
def hangulFillers : Unicode.Ranges :=
  [(0x115F, 0x1160), (0x3164, 0x3164), (0xFFA0, 0xFFA0)]

/-- Voiced marks of half width, which extend a character but stand beside it. -/
def halfWidthMarks : Unicode.Ranges := [(0xFF9E, 0xFF9F)]

/-- Whether a character extends the one before it and is drawn on it. -/
def isCombining (code : Nat) : Bool :=
  (Unicode.inRanges (Unicode.alternateRanges 0 (Unicode.numbers Unicode.graphemeExtendRuns)) code &&
    !Unicode.inRanges halfWidthMarks code) ||
    Unicode.inRanges Unicode.recentExtendRanges code

/-- Whether a character has no mark of its own, by its category. -/
def isUnmarked (code : Nat) : Bool :=
  Unicode.inRanges (Unicode.categoryRanges ["C", "Z"]) code &&
    !Unicode.inRanges Unicode.recentRanges code

/-- Whether a character combines with the one before it or leaves no mark of its own. -/
def isInvisible (char : Char) : Bool :=
  char != ' ' && (isCombining char.toNat || isUnmarked char.toNat ||
    Unicode.inRanges hangulFillers char.toNat)

/-- The code of a character in hexadecimal digits between braces. -/
def codeEscape (char : Char) : List Char :=
  ['\\', 'u', '{'] ++ Nat.toDigits 16 char.toNat ++ ['}']

def visibleChar (char : Char) : List Char :=
  if char = '"' then ['\\', '"']
  else if char = '\\' then ['\\', '\\']
  else if char = '\n' then ['\\', 'n']
  else if char = '\r' then ['\\', 'r']
  else if char = '\t' then ['\\', 't']
  else if char = '\x00' then ['\\', '0']
  else if 0x20 ≤ char.toNat && char.toNat < 0x7F then [char]
  else if isInvisible char then codeEscape char
  else [char]

/-- A text between quotes in which every character can be seen: what leaves no mark of its own is
written as an escape. -/
def quoteVisible (text : String) : String :=
  "\"" ++ String.ofList (text.toList.flatMap visibleChar) ++ "\""

end TypedJson
