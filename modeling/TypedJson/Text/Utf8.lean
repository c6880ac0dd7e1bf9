namespace TypedJson.Utf8

/-- Decodes bytes from an index on, up to where they are no text; gives the characters, behind
those found before, and the index reached. -/
def decodeFrom (bytes : ByteArray) (found : List Char) (index : Nat) : List Char × Nat :=
  match _decoded : bytes.utf8DecodeChar? index with
  | none => (found.reverse, index)
  | some char => decodeFrom bytes (char :: found) (index + char.utf8Size)
termination_by bytes.size - index
decreasing_by
  have inside := ByteArray.le_size_of_utf8DecodeChar?_eq_some _decoded
  have positive := char.utf8Size_pos
  omega

/-- The text that bytes start with, as far as it goes, and the bytes behind it. -/
def split (bytes : ByteArray) : String × ByteArray :=
  let (chars, stop) := decodeFrom bytes [] 0
  (String.ofList chars, bytes.extract stop bytes.size)

end TypedJson.Utf8
