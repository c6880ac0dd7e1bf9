import TypedJson.Json.Value
import TypedJson.Text.Digit
import TypedJson.Text.Split

namespace TypedJson.Json

/-- A pointer into JSON values: the keys and positions on the way from the root. -/
structure Pointer where
  segments : List String
deriving DecidableEq

namespace Pointer

def root : Pointer := ⟨[]⟩

/-- The pointer to a member or item of what a pointer leads to. -/
def child (pointer : Pointer) (segment : String) : Pointer := ⟨pointer.segments ++ [segment]⟩

def escapeChar (char : Char) : List Char :=
  if char = '~' then ['~', '0'] else if char = '/' then ['~', '1'] else [char]

/-- Writes `~` and `/` as `~0` and `~1`. -/
def escape (segment : List Char) : List Char := segment.flatMap escapeChar

/-- Reads `~1` and `~0`; any other tilde stands for itself. -/
def unescape : List Char → List Char
  | '~' :: '1' :: rest => '/' :: unescape rest
  | '~' :: '0' :: rest => '~' :: unescape rest
  | char :: rest => char :: unescape rest
  | [] => []

def chars (segments : List String) : List Char :=
  segments.flatMap fun segment => '/' :: escape segment.toList

/-- The text of a pointer, in which each segment follows a slash. -/
def text (pointer : Pointer) : String := String.ofList (chars pointer.segments)

/-- Reads a pointer: nothing for the root, else segments that each follow a slash. -/
def ofText? (text : String) : Option Pointer :=
  match text.toList with
  | [] => some root
  | '/' :: rest => some ⟨(splitAt '/' rest).map fun part => String.ofList (unescape part)⟩
  | _ => none

/-- The position that a segment names: digits without sign or leading zeros. -/
def position? (segment : String) : Option Nat :=
  let digits := segment.toList
  if digits.isEmpty || !digits.all Char.isDigit then none
  else if digits.head? == some '0' && 1 < digits.length then none
  else some (decimalValue digits)

/-- The position that a segment names, if it fits 64 bits. -/
def index? (segment : String) : Option Nat :=
  (position? segment).filter fun position => position < 0x10000000000000000

/-- What a segment leads to. -/
def step (value : Value) (segment : String) : Option Value :=
  match value with
  | .object members => members.lookup segment
  | .array items => (index? segment).bind (items[·]?)
  | _ => none

/-- What a pointer leads to. -/
def follow (pointer : Pointer) (value : Value) : Option Value :=
  pointer.segments.foldlM step value

end Pointer

end TypedJson.Json
