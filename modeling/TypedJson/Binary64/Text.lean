import TypedJson.Binary64.Shortest

namespace TypedJson

/-- How a number is laid out around its shortest digits. -/
structure NumberLayout where
  /-- Where an exact half between two shortest numerals goes. -/
  tie : TieRule
  /-- The decimal exponents that are written positionally. -/
  positional : Int → Bool
  /-- Whether a whole number in positional notation ends in `.0`. -/
  markWhole : Bool

namespace NumberLayout

/-- JSON text: positional from 10^-5 to below 10^16, whole numbers marked. -/
def json : NumberLayout where
  tie := .toEven
  positional exponent := decide (-5 ≤ exponent ∧ exponent ≤ 15)
  markWhole := true

/-- The text of a bound: always positional, whole numbers as integers are written. -/
def bound : NumberLayout where
  tie := .up
  positional _ := true
  markWhole := false

end NumberLayout

namespace Decimal

/-- Positional text of `digits · 10^exponent`. -/
def positional (value : Decimal) (markWhole : Bool) : String :=
  let digits := Nat.toDigits 10 value.digits
  if 0 ≤ value.exponent then
    String.ofList (digits ++ List.replicate value.exponent.toNat '0') ++
      (if markWhole then ".0" else "")
  else
    let places := (-value.exponent).toNat
    let padded := List.replicate (places + 1 - digits.length) '0' ++ digits
    String.ofList (padded.take (padded.length - places)) ++ "." ++
      String.ofList (padded.drop (padded.length - places))

/-- Text with one digit before the point and the power of ten after it. -/
def scientific (value : Decimal) : String :=
  let digits := Nat.toDigits 10 value.digits
  let exponent : Int := value.exponent + (digits.length - 1 : Nat)
  let fraction := digits.drop 1
  String.ofList (digits.take 1) ++
    (if fraction.isEmpty then "" else "." ++ String.ofList fraction) ++
    (if exponent < 0 then "e-" else "e+") ++ toString exponent.natAbs

/-- The decimal exponent of the leading digit. -/
def leadingExponent (value : Decimal) : Int := value.exponent + (width value.digits : Int) - 1

end Decimal

namespace Binary64

/-- The text of a number in a layout, which fixes all that the digits leave open. -/
def text (style : NumberLayout) (value : Binary64) : String :=
  let numeral := value.shortest style.tie
  (if value.negative then "-" else "") ++
    (if style.positional numeral.leadingExponent then numeral.positional style.markWhole
      else numeral.scientific)

end Binary64

end TypedJson
