namespace TypedJson.Unicode

/-- Ranges of code points with both ends. -/
abbrev Ranges := List (Nat × Nat)

/-- The last code point. -/
def lastCode : Nat := 0x10FFFF

/-- Membership of a code point in ranges. -/
def inRanges (ranges : Ranges) (code : Nat) : Bool :=
  ranges.any fun range => range.1 ≤ code && code ≤ range.2

/-- Puts a range before the first one that does not start below it. -/
def insertRange (range : Nat × Nat) : Ranges → Ranges
  | [] => [range]
  | next :: rest =>
    if range.1 ≤ next.1 then range :: next :: rest else next :: insertRange range rest

/-- Joins a range with those after it that overlap or touch it, given in order of their starts. -/
def joinFrom (first last : Nat) : Ranges → Ranges
  | [] => [(first, last)]
  | (start, stop) :: rest =>
    if start ≤ last + 1 then joinFrom first (max last stop) rest
    else (first, last) :: joinFrom start stop rest

/-- The same code points in normal form, which lists ranges in order with a gap between each two. -/
def normalize (ranges : Ranges) : Ranges :=
  match ranges.foldr insertRange [] with
  | [] => []
  | (first, last) :: rest => joinFrom first last rest

/-- The code points from a start on that lie in the gaps of ranges in order. -/
def gapsFrom (start : Nat) : Ranges → Ranges
  | [] => if start ≤ lastCode then [(start, lastCode)] else []
  | (first, last) :: rest =>
    if start < first then (start, first - 1) :: gapsFrom (last + 1) rest
    else gapsFrom (last + 1) rest

def complement (ranges : Ranges) : Ranges := gapsFrom 0 (normalize ranges)

def union (left right : Ranges) : Ranges := normalize (left ++ right)

def intersection (left right : Ranges) : Ranges :=
  complement (complement left ++ complement right)

def difference (left right : Ranges) : Ranges := complement (complement left ++ right)

def symmetricDifference (left right : Ranges) : Ranges :=
  union (difference left right) (difference right left)

end TypedJson.Unicode
