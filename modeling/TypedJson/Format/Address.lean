import TypedJson.Text.Digit

namespace TypedJson.Format.Address

/-- Reads a part of a dotted address: a number of at most 255 without leading zeros. -/
def part (input : List Char) : Option (List Char) :=
  let found := input.takeWhile Char.isDigit
  let value := decimalValue found
  if found.isEmpty || 3 < found.length || 255 < value then none
  else if found.head? == some '0' && 1 < found.length then none
  else some (input.drop found.length)

/-- Reads what follows a separator. -/
def after (separator : Char) (item : List Char → Option (List Char)) :
    List Char → Option (List Char)
  | char :: rest => if char = separator then item rest else none
  | [] => none

/-- Reads four parts with dots between them. -/
def dotted (input : List Char) : Option (List Char) := do
  let rest ← part input
  let rest ← after '.' part rest
  let rest ← after '.' part rest
  after '.' part rest

/-- Whether a text is an internet address of the fourth version. -/
def isVersion4 (text : String) : Bool :=
  text.utf8ByteSize ≤ 15 && dotted text.toList == some []

/-- Reads a group of one to four hexadecimal digits. -/
def group (input : List Char) : Option (List Char) :=
  let found := input.takeWhile fun char => (hexDigit? char).isSome
  if found.isEmpty || 4 < found.length then none else some (input.drop found.length)

/-- What was read of the groups of an address. -/
structure Groups where
  count : Nat
  /-- Whether the last two groups were written as a dotted address. -/
  endsDotted : Bool
  rest : List Char

/-- Reads groups with colons between them, as many as there are up to a number. -/
def groups (first : Bool) : Nat → List Char → Groups
  | 0, input => ⟨0, false, input⟩
  | limit + 1, input =>
    let item (reader : List Char → Option (List Char)) :=
      if first then reader input else after ':' reader input
    match if limit = 0 then none else item dotted with
    | some rest => ⟨2, true, rest⟩
    | none =>
      match item group with
      | some rest =>
        let others := groups false limit rest
        { others with count := others.count + 1 }
      | none => ⟨0, false, input⟩

/-- Eight groups, or fewer with a double colon for the groups of zeros left out. -/
def isVersion6 (text : String) : Bool :=
  let head := groups true 8 text.toList
  if head.count = 8 then head.rest.isEmpty
  else if head.endsDotted then false
  else
    match head.rest with
    | ':' :: ':' :: rest => (groups true (7 - head.count) rest).rest.isEmpty
    | _ => false

end TypedJson.Format.Address
