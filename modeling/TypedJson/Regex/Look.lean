import TypedJson.Regex.Basic
import TypedJson.Unicode.Property

namespace TypedJson.Regex

namespace WordKind

def contains (kind : WordKind) (char : Char) : Bool :=
  match kind with
  | ascii => asciiWord.contains char
  | unicode =>
    if char.toNat < 0x80 then asciiWord.contains char
    else Unicode.inRanges Unicode.wordRanges char.toNat

/-- Whether there is a character and it is part of a word. -/
def holdsAt (kind : WordKind) (char : Option Char) : Bool := char.any kind.contains

end WordKind

namespace Look

/-- Whether the condition holds between two neighbours, absent at the ends of the text. -/
def holds (look : Look) (before after : Option Char) : Bool :=
  match look with
  | textStart => before.isNone
  | textEnd => after.isNone
  | lineStart => before.isNone || before == some '\n'
  | lineEnd => after.isNone || after == some '\n'
  | anyLineStart =>
    before.isNone || before == some '\n' || (before == some '\r' && after != some '\n')
  | anyLineEnd =>
    after.isNone || after == some '\r' || (after == some '\n' && before != some '\r')
  | wordBoundary kind => kind.holdsAt before != kind.holdsAt after
  | notWordBoundary kind => kind.holdsAt before == kind.holdsAt after
  | wordStart kind => !kind.holdsAt before && kind.holdsAt after
  | wordEnd kind => kind.holdsAt before && !kind.holdsAt after
  | wordStartHalf kind => !kind.holdsAt before
  | wordEndHalf kind => !kind.holdsAt after

end Look

end TypedJson.Regex
