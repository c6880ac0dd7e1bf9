import TypedJson.Json.Numeral
import TypedJson.Text.Digit

namespace TypedJson.Json

namespace Reader

/-- The 16-bit unit written by four hexadecimal digits. -/
def unit? (first second third fourth : Char) : Option Nat := do
  let first ← hexDigit? first
  let second ← hexDigit? second
  let third ← hexDigit? third
  let fourth ← hexDigit? fourth
  return ((first * 16 + second) * 16 + third) * 16 + fourth

def utf8Length (chars : List Char) : Nat := chars.foldl (fun sum char => sum + char.utf8Size) 0

/-- Reads four hexadecimal digits; the digits are counted as four bytes. -/
def hexUnit (cursor : Cursor) : Except Failure (Nat × Cursor) :=
  if utf8Length cursor.rest < 4 then .error ⟨.stringUnfinished, cursor.endPlace, []⟩
  else
    match cursor.rest with
    | first :: second :: third :: fourth :: _ =>
      match unit? first second third fourth with
      | some unit => .ok (unit, cursor.skipMany 4)
      | none => .error ⟨.badEscape, Cursor.placeAfter cursor.place cursor.rest 4, []⟩
    | _ => .error ⟨.badEscape, Cursor.placeAfter cursor.place cursor.rest 4, []⟩

/-- Reads one character that is expected inside a surrogate pair. -/
def expectInPair (expected : Char) (cursor : Cursor) : Except Failure Cursor :=
  match cursor.rest with
  | [] => cursor.failHere .stringUnfinished
  | char :: _ =>
    if char = expected then .ok cursor.skip else cursor.failNext .hexEscapeUnfinished

/-- Reads the escape after `\u`: one unit, or a pair for a character past U+FFFF. -/
def unicodeEscape (cursor : Cursor) : Except Failure (Char × Cursor) := do
  let (unit, cursor) ← hexUnit cursor
  if 0xDC00 ≤ unit ∧ unit ≤ 0xDFFF then
    cursor.failHere .loneSurrogate
  else if 0xD800 ≤ unit ∧ unit ≤ 0xDBFF then
    let cursor ← expectInPair '\\' cursor
    let cursor ← expectInPair 'u' cursor
    let (low, cursor) ← hexUnit cursor
    if 0xDC00 ≤ low ∧ low ≤ 0xDFFF then
      return (Char.ofNat (0x10000 + (unit - 0xD800) * 0x400 + (low - 0xDC00)), cursor)
    else
      cursor.failHere .loneSurrogate
  else
    return (Char.ofNat unit, cursor)

/-- Reads the escape after a backslash. -/
def escape (cursor : Cursor) : Except Failure (Char × Cursor) :=
  match cursor.rest with
  | [] => cursor.failHere .stringUnfinished
  | '"' :: _ => .ok ('"', cursor.skip)
  | '\\' :: _ => .ok ('\\', cursor.skip)
  | '/' :: _ => .ok ('/', cursor.skip)
  | 'b' :: _ => .ok ('\x08', cursor.skip)
  | 'f' :: _ => .ok ('\x0c', cursor.skip)
  | 'n' :: _ => .ok ('\n', cursor.skip)
  | 'r' :: _ => .ok ('\r', cursor.skip)
  | 't' :: _ => .ok ('\t', cursor.skip)
  | 'u' :: _ => unicodeEscape cursor.skip
  | _ => cursor.failNext .badEscape

/-- Reads a string up to its closing quote; each round takes at least one character. -/
def stringBody : Nat → List Char → Cursor → Except Failure (String × Cursor)
  | 0, _, cursor => cursor.failHere .stringUnfinished
  | fuel + 1, done, cursor =>
    match cursor.rest with
    | [] => cursor.failHere .stringUnfinished
    | '"' :: _ => .ok (String.ofList done.reverse, cursor.skip)
    | '\\' :: _ =>
      match escape cursor.skip with
      | .ok (char, cursor) => stringBody fuel (char :: done) cursor
      | .error failure => .error failure
    | char :: _ =>
      if char.toNat < 0x20 then cursor.failNext .controlCharacter
      else stringBody fuel (char :: done) cursor.skip

/-- Reads a string after its opening quote. -/
def string (cursor : Cursor) : Except Failure (String × Cursor) :=
  stringBody (cursor.rest.length + 1) [] cursor

/-- Reads the letters that complete a word such as `null`. -/
def word : List Char → Cursor → Except Failure Cursor
  | [], cursor => .ok cursor
  | expected :: more, cursor =>
    match cursor.rest with
    | [] => cursor.failHere .valueUnfinished
    | char :: _ => if char = expected then word more cursor.skip else cursor.failNext .expectedWord

/-- Moves to the next item of a list, if there is one; `first` before the first item. -/
def nextItem (first : Bool) (cursor : Cursor) : Except Failure (Option Cursor) :=
  let cursor := cursor.skipBlanks
  match cursor.rest with
  | [] => cursor.failNext .listUnfinished
  | ']' :: _ => .ok none
  | char :: _ =>
    if first then .ok (some cursor)
    else if char = ',' then
      let cursor := cursor.skip.skipBlanks
      match cursor.rest with
      | [] => cursor.failNext .valueUnfinished
      | ']' :: _ => cursor.failNext .trailingComma
      | _ => .ok (some cursor)
    else cursor.failNext .expectedItemEnd

/-- Closes a list. -/
def endItems (cursor : Cursor) : Except Failure Cursor :=
  let cursor := cursor.skipBlanks
  match cursor.rest with
  | [] => cursor.failNext .listUnfinished
  | ']' :: _ => .ok cursor.skip
  | ',' :: _ =>
    let cursor := cursor.skip.skipBlanks
    match cursor.rest with
    | ']' :: _ => cursor.failNext .trailingComma
    | _ => cursor.failNext .trailingText
  | _ => cursor.failNext .trailingText

/-- Moves past the opening quote of the next key, if there is one. -/
def nextKey (first : Bool) (cursor : Cursor) : Except Failure (Option Cursor) :=
  let cursor := cursor.skipBlanks
  match cursor.rest with
  | [] => cursor.failNext .objectUnfinished
  | '}' :: _ => .ok none
  | char :: _ =>
    if first then
      if char = '"' then .ok (some cursor.skip) else cursor.failNext .keyNotString
    else if char = ',' then
      let cursor := cursor.skip.skipBlanks
      match cursor.rest with
      | [] => cursor.failNext .valueUnfinished
      | '"' :: _ => .ok (some cursor.skip)
      | '}' :: _ => cursor.failNext .trailingComma
      | _ => cursor.failNext .keyNotString
    else cursor.failNext .expectedMemberEnd

/-- Reads the next key, if there is one. -/
def nextMember (first : Bool) (cursor : Cursor) : Except Failure (Option (String × Cursor)) :=
  match nextKey first cursor with
  | .error failure => .error (failure.within .unknown)
  | .ok none => .ok none
  | .ok (some cursor) =>
    match string cursor with
    | .error failure => .error (failure.within .unknown)
    | .ok found => .ok (some found)

/-- Moves past the colon between a key and its value. -/
def colon (cursor : Cursor) : Except Failure Cursor :=
  let cursor := cursor.skipBlanks
  match cursor.rest with
  | [] => cursor.failNext .objectUnfinished
  | ':' :: _ => .ok cursor.skip
  | _ => cursor.failNext .expectedColon

/-- Closes an object. -/
def endMembers (cursor : Cursor) : Except Failure Cursor :=
  let cursor := cursor.skipBlanks
  match cursor.rest with
  | [] => cursor.failNext .objectUnfinished
  | '}' :: _ => .ok cursor.skip
  | ',' :: _ => cursor.failNext .trailingComma
  | _ => cursor.failNext .trailingText

mutual

/-- Reads one value. The fuel bounds the rounds and the depth counts the levels left. -/
def value : Nat → Nat → Cursor → Except Failure (Value × Cursor)
  | 0, _, cursor => cursor.failHere .valueUnfinished
  | fuel + 1, depth, cursor =>
    let cursor := cursor.skipBlanks
    match cursor.rest with
    | [] => cursor.failNext .valueUnfinished
    | 'n' :: _ => do
      let cursor ← word ['u', 'l', 'l'] cursor.skip
      return (.null, cursor)
    | 't' :: _ => do
      let cursor ← word ['r', 'u', 'e'] cursor.skip
      return (.boolean true, cursor)
    | 'f' :: _ => do
      let cursor ← word ['a', 'l', 's', 'e'] cursor.skip
      return (.boolean false, cursor)
    | '-' :: _ => do
      let (number, cursor) ← Numeral.read true cursor.skip
      return (.number number, cursor)
    | '"' :: _ => do
      let (text, cursor) ← string cursor.skip
      return (.string text, cursor)
    | '[' :: _ =>
      match depth with
      | 0 => cursor.failNext .tooDeep
      | depth + 1 => items fuel depth [] cursor.skip
    | '{' :: _ =>
      match depth with
      | 0 => cursor.failNext .tooDeep
      | depth + 1 => members fuel depth [] cursor.skip
    | char :: _ =>
      if '0' ≤ char ∧ char ≤ '9' then do
        let (number, cursor) ← Numeral.read false cursor
        return (.number number, cursor)
      else cursor.failNext .expectedValue

/-- Reads the items of a list up to its end; those read so far stand in reverse. -/
def items : Nat → Nat → List Value → Cursor → Except Failure (Value × Cursor)
  | 0, _, _, cursor => cursor.failHere .valueUnfinished
  | fuel + 1, depth, done, cursor =>
    match nextItem done.isEmpty cursor with
    | .error failure => .error failure
    | .ok none =>
      match endItems cursor with
      | .error failure => .error failure
      | .ok cursor => .ok (.array done.reverse, cursor)
    | .ok (some cursor) =>
      match value fuel depth cursor with
      | .error failure => .error (failure.within (.item done.length))
      | .ok (item, cursor) => items fuel depth (item :: done) cursor

/-- Reads the members of an object up to its end; those read so far stand in reverse. -/
def members : Nat → Nat → List (String × Value) → Cursor → Except Failure (Value × Cursor)
  | 0, _, _, cursor => cursor.failHere .valueUnfinished
  | fuel + 1, depth, done, cursor =>
    match nextMember done.isEmpty cursor with
    | .error failure => .error failure
    | .ok none =>
      match endMembers cursor with
      | .error failure => .error failure
      | .ok cursor => .ok (.object (setMembers done.reverse), cursor)
    | .ok (some (key, cursor)) =>
      match colon cursor with
      | .error failure => .error failure
      | .ok cursor =>
        match value fuel depth cursor with
        | .error failure => .error (failure.within (.member key))
        | .ok (item, cursor) => members fuel depth ((key, item) :: done) cursor

end

/-- How deep lists and objects may nest. -/
def depthLimit : Nat := 127

/-- Reads the first value of a text and leaves what follows it. -/
def leading (cursor : Cursor) : Except Failure (Value × Cursor) :=
  value (2 * cursor.rest.length + 2) depthLimit cursor

end Reader

/-- Reads a text that holds one value, with nothing but blanks around it. -/
def read (text : String) : Except Failure Value :=
  match Reader.leading (.start text) with
  | .error failure => .error failure
  | .ok (value, cursor) =>
    let cursor := cursor.skipBlanks
    if cursor.rest.isEmpty then .ok value else cursor.failNext .trailingText

end TypedJson.Json
