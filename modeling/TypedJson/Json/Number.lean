import TypedJson.Binary64

namespace TypedJson.Json

/-- A number is an integer of 64 bits, or a binary64 number for any other numeral. The two kinds are
never equal. -/
inductive Number
  | integer (value : Int) (inRange : -0x8000000000000000 ≤ value ∧ value < 0x10000000000000000)
  | float (value : Binary64)
deriving DecidableEq

namespace Number

def ofNat? (value : Nat) : Option Number :=
  if inRange : -0x8000000000000000 ≤ (value : Int) ∧ (value : Int) < 0x10000000000000000 then
    some (.integer value inRange)
  else none

def ofInt? (value : Int) : Option Number :=
  if inRange : -0x8000000000000000 ≤ value ∧ value < 0x10000000000000000 then
    some (.integer value inRange)
  else none

/-- The nearest binary64 number. -/
def toBinary64 : Number → Binary64
  | integer value _ => .ofInt value
  | float value => value

/-- Equality of numbers of one kind; the two zeros of the floating kind agree. -/
def same : Number → Number → Bool
  | integer left _, integer right _ => left == right
  | float left, float right => left.sameValue right
  | _, _ => false

/-- Whether there is no fractional part. -/
def isWhole : Number → Bool
  | integer _ _ => true
  | float value => value.isWhole

/-- Being the same number goes both ways. -/
theorem same_comm (left right : Number) : left.same right = right.same left := by
  cases left <;> cases right <;> simp [same, Binary64.sameValue, Bool.beq_comm]

end Number

end TypedJson.Json
