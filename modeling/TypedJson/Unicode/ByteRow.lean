import TypedJson.Unicode.Ranges

namespace TypedJson.Unicode

/-- The bytes of a code point in UTF-8. -/
def bytesOf (code : Nat) : List Nat :=
  if code < 0x80 then [code]
  else if code < 0x800 then [0xC0 + code / 64, 0x80 + code % 64]
  else if code < 0x10000 then [0xE0 + code / 4096, 0x80 + code / 64 % 64, 0x80 + code % 64]
  else [0xF0 + code / 262144, 0x80 + code / 4096 % 64, 0x80 + code / 64 % 64, 0x80 + code % 64]

/-- The last code point of the first part of a range that is no single row. -/
def splitPoint? (first last : Nat) : Option Nat :=
  (byLength [0x7F, 0x7FF, 0xFFFF]).orElse fun _ =>
    if last ≤ 0x7F then none else byBlock [64, 4096, 262144]
where
  /-- Where the number of bytes grows. -/
  byLength : List Nat → Option Nat
    | [] => none
    | limit :: rest => if first ≤ limit ∧ limit < last then some limit else byLength rest
  /-- Where a block of all values of the last bytes starts or ends. -/
  byBlock : List Nat → Option Nat
    | [] => none
    | size :: rest =>
      if first / size = last / size then byBlock rest
      else if first % size ≠ 0 then some (first / size * size + size - 1)
      else if last % size ≠ size - 1 then some (last / size * size - 1)
      else byBlock rest

/-- The rows of one range: a text of UTF-8 stands for a code point of the range exactly if its bytes
lie in the ranges of one row. -/
def byteRows (first last : Nat) : List Ranges :=
  match splitPoint? first last with
  | some point =>
    if _inside : first ≤ point ∧ point < last then
      byteRows first point ++ byteRows (point + 1) last
    else []
  | none => [(bytesOf first).zip (bytesOf last)]
termination_by last - first

/-- The rows of all ranges, in order. -/
def rowsOf (ranges : Ranges) : List Ranges :=
  ranges.flatMap fun range => byteRows range.1 range.2

end TypedJson.Unicode
