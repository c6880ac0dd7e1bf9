import TypedJson.Binary64.Text
import TypedJson.Format.Basic
import TypedJson.Json.Value
import TypedJson.Pattern.Basic

namespace TypedJson

open Json (Value)

/-- A constraint that narrows a type. Each speaks of one kind of value, and no value of another kind
satisfies it. -/
inductive Constraint
  | minLength (count : Nat)
  | maxLength (count : Nat)
  | pattern (pattern : Pattern)
  | format (format : Format)
  | minimum (bound : Binary64)
  | exclusiveMinimum (bound : Binary64)
  | maximum (bound : Binary64)
  | exclusiveMaximum (bound : Binary64)
  | integral
  | minItems (count : Nat)
  | maxItems (count : Nat)

namespace Constraint

/-- Whether a value is a number whose nearest binary64 number passes a test. -/
def numberPasses (value : Value) (test : Binary64 → Bool) : Bool :=
  value.number?.any fun number => test number.toBinary64

/-- Lengths count characters. -/
def holds (constraint : Constraint) (value : Value) : Bool :=
  match constraint with
  | minLength count => value.string?.any fun text => count ≤ text.length
  | maxLength count => value.string?.any fun text => text.length ≤ count
  | pattern search => value.string?.any search.isMatch
  | format named => value.string?.any named.check
  | minimum bound => numberPasses value fun number => bound ≤ number
  | exclusiveMinimum bound => numberPasses value fun number => bound < number
  | maximum bound => numberPasses value fun number => number ≤ bound
  | exclusiveMaximum bound => numberPasses value fun number => number < bound
  | integral => value.number?.any Json.Number.isWhole
  | minItems count => value.items?.any fun items => count ≤ items.length
  | maxItems count => value.items?.any fun items => items.length ≤ count

def text : Constraint → String
  | minLength count => "minLength(" ++ toString count ++ ")"
  | maxLength count => "maxLength(" ++ toString count ++ ")"
  | pattern search => "pattern(" ++ search.text ++ ")"
  | format named => "format(" ++ named.name ++ ")"
  | minimum bound => ">= " ++ bound.text .bound
  | exclusiveMinimum bound => "> " ++ bound.text .bound
  | maximum bound => "<= " ++ bound.text .bound
  | exclusiveMaximum bound => "< " ++ bound.text .bound
  | integral => "integral"
  | minItems count => "minItems(" ++ toString count ++ ")"
  | maxItems count => "maxItems(" ++ toString count ++ ")"

def temporal? : Constraint → Option Format.Temporal
  | format named => named.temporal?
  | _ => none

end Constraint

/-- One or more constraints, all of which are to hold. -/
structure Constraints where
  list : List Constraint
  nonempty : list ≠ []

namespace Constraints

/-- The constraints of a list, if there are any. -/
def ofList? (list : List Constraint) : Option Constraints :=
  if nonempty : list ≠ [] then some ⟨list, nonempty⟩ else none

def hold (constraints : Constraints) (value : Value) : Bool :=
  constraints.list.all fun constraint => constraint.holds value

/-- The first of the constraints that does not hold. -/
def firstFailing? (constraints : Constraints) (value : Value) : Option Constraint :=
  constraints.list.find? fun constraint => !constraint.holds value

/-- What the first format that speaks of days or times says. -/
def temporal? (constraints : Constraints) : Option Format.Temporal :=
  constraints.list.findSome? Constraint.temporal?

def text (constraints : Constraints) : String :=
  " && ".intercalate (constraints.list.map Constraint.text)

end Constraints

end TypedJson
