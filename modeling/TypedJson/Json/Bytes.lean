import TypedJson.Json.Reader
import TypedJson.Text.Utf8

namespace TypedJson.Json

/-- Stands for a quote that closes a string with stray bytes. -/
def closingMark : Char := '\x00'

/-- A character of one byte that stands for a stray byte. The one for bytes past ASCII belongs to
no word, numeral or escape, but a string may hold it. -/
def strayChar (byte : UInt8) : Char :=
  if byte = 0 then '\x01' else if byte < 0x80 then Char.ofUInt8 byte else '\x7f'

/-- Puts marks in place of quotes, and slashes in place of those that a backslash escapes. -/
def hideQuotes (escaped : Bool) : List Char → List Char
  | [] => []
  | char :: rest =>
    let shown := if char = '"' then if escaped then '/' else closingMark else char
    shown :: hideQuotes (!escaped && char == '\\') rest

/-- What is shown to the reader for bytes behind a text. Reading stops at the first of them, unless
a string goes on there; that string goes on to its end, at which its bytes turn out to be no text.
The reader stops there as well, since the mark of a closing quote is a control character. -/
def strayChars (stray : ByteArray) : List Char :=
  hideQuotes false (stray.data.toList.map strayChar)

/-- The place behind the first mark. -/
def closingPlace? (text : String) (shown : List Char) : Option Place :=
  if closingMark ∈ shown then
    some ((text.toList ++ shown.take (shown.idxOf closingMark + 1)).foldl Cursor.advance ⟨1, 0⟩)
  else none

/-- Tells a failure at the mark of a closing quote as what it is. -/
def Failure.atClosing (closing? : Option Place) (failure : Failure) : Failure :=
  if failure.fault = .controlCharacter ∧ closing? = some failure.place then
    { failure with fault := .badCodePoint }
  else failure

/-- Reads bytes, which may start with a text and go on with what is none. -/
def ofBytes {Item : Type} (read : String → Except Failure Item) (bytes : ByteArray) :
    Except Failure Item :=
  let (text, stray) := Utf8.split bytes
  let shown := strayChars stray
  (read (text ++ String.ofList shown)).mapError (Failure.atClosing (closingPlace? text shown))

/-- Reads bytes that hold one value. -/
def readBytes (bytes : ByteArray) : Except Failure Value := ofBytes read bytes

end TypedJson.Json
