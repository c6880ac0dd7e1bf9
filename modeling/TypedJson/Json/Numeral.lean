import TypedJson.Json.Cursor

namespace TypedJson.Json

namespace Numeral

def digit? (char : Char) : Option Nat :=
  if '0' ≤ char ∧ char ≤ '9' then some (char.toNat - '0'.toNat) else none

/-- The leading digits of a text and what follows them. -/
def digits : List Char → List Nat × List Char
  | [] => ([], [])
  | char :: rest =>
    match digit? char with
    | some digit => let (more, after) := digits rest; (digit :: more, after)
    | none => ([], char :: rest)

/-- Takes digits into a significand below 2^64; gives it, how many it took, and the others. -/
def absorb (significand : Nat) (taken : Nat) : List Nat → Nat × Nat × List Nat
  | [] => (significand, taken, [])
  | digit :: rest =>
    if significand * 10 + digit < 0x10000000000000000 then
      absorb (significand * 10 + digit) (taken + 1) rest
    else (significand, taken, digit :: rest)

/-- The greatest exponent that is counted. -/
def exponentLimit : Nat := 2147483647

/-- Reads an exponent's digits; stops with the digits used when the count goes past its limit. -/
def exponent (value : Nat) (used : Nat) : List Nat → Except Nat Nat
  | [] => .ok value
  | digit :: rest =>
    if value * 10 + digit ≤ exponentLimit then exponent (value * 10 + digit) (used + 1) rest
    else .error (used + 1)

/-- The number for a significand scaled by a power of ten. -/
def scaled (negative : Bool) (significand : Nat) (exponent : Int) (cursor : Cursor) :
    Except Failure (Number × Cursor) :=
  (Binary64.ofScaled? significand exponent).elim (cursor.failHere .numberOutOfRange) fun value =>
    .ok (.float (if negative then value.negate else value), cursor)

/-- Reads on after the sign of an exponent, if it has one. -/
def afterExponentSign (negative : Bool) (significand : Nat) (scale : Int) (downward : Bool)
    (cursor : Cursor) : Except Failure (Number × Cursor) :=
  match digits cursor.rest with
  | ([], _) =>
    if cursor.rest.isEmpty then cursor.failHere .valueUnfinished
    else cursor.failNext .badNumber
  | (found, _) =>
    match exponent 0 0 found with
    | .ok value =>
      scaled negative significand (if downward then scale - value else scale + value)
        (cursor.skipMany found.length)
    | .error used =>
      if significand ≠ 0 ∧ !downward then (cursor.skipMany used).failHere .numberOutOfRange
      else
        let zero : Binary64 := default
        .ok (.float (if negative then zero.negate else zero), cursor.skipMany found.length)

/-- Reads on after the letter of an exponent. -/
def afterExponentLetter (negative : Bool) (significand : Nat) (scale : Int) (cursor : Cursor) :
    Except Failure (Number × Cursor) :=
  match cursor.rest with
  | '+' :: _ => afterExponentSign negative significand scale false cursor.skip
  | '-' :: _ => afterExponentSign negative significand scale true cursor.skip
  | _ => afterExponentSign negative significand scale false cursor

/-- Reads on after digits that make a floating number: an exponent may follow. -/
def beforeExponent (negative : Bool) (significand : Nat) (scale : Int) (cursor : Cursor) :
    Except Failure (Number × Cursor) :=
  match cursor.rest with
  | 'e' :: _ => afterExponentLetter negative significand scale cursor.skip
  | 'E' :: _ => afterExponentLetter negative significand scale cursor.skip
  | _ => scaled negative significand scale cursor

/-- Reads on after the point. -/
def afterPoint (negative : Bool) (significand : Nat) (scale : Int) (cursor : Cursor) :
    Except Failure (Number × Cursor) :=
  match digits cursor.rest with
  | ([], _) =>
    if cursor.rest.isEmpty then cursor.failNext .valueUnfinished
    else cursor.failNext .badNumber
  | (found, _) =>
    let (significand, taken, _) := absorb significand 0 found
    beforeExponent negative significand (scale - taken) (cursor.skipMany found.length)

/-- A numeral without point and exponent: an integer if it fits, and `-0` is a floating zero. -/
def whole (negative : Bool) (significand : Nat) (cursor : Cursor) : Except Failure (Number × Cursor) :=
  let asFloat : Except Failure (Number × Cursor) :=
    let value := Binary64.ofNat significand
    .ok (.float (if negative then value.negate else value), cursor)
  if negative && significand == 0 then asFloat
  else
    match Number.ofInt? (if negative then -(significand : Int) else significand) with
    | some number => .ok (number, cursor)
    | none => asFloat

/-- Reads on after the digits before the point; so many of them only scale the significand. -/
def afterWhole (negative : Bool) (significand : Nat) (scale : Nat) (cursor : Cursor) :
    Except Failure (Number × Cursor) :=
  match cursor.rest with
  | '.' :: _ => afterPoint negative significand scale cursor.skip
  | 'e' :: _ => afterExponentLetter negative significand scale cursor.skip
  | 'E' :: _ => afterExponentLetter negative significand scale cursor.skip
  | _ =>
    if scale = 0 then whole negative significand cursor
    else scaled negative significand scale cursor

/-- Reads a numeral from its first digit on. The significand takes in digits as long as it fits 64
bits; digits of the whole part past that only scale it, and digits of the fraction past that are
dropped. -/
def read (negative : Bool) (cursor : Cursor) : Except Failure (Number × Cursor) :=
  match digits cursor.rest with
  | ([], _) =>
    if cursor.rest.isEmpty then cursor.failHere .valueUnfinished
    else cursor.failNext .badNumber
  | (0 :: _ :: _, _) => cursor.skip.failNext .badNumber
  | (found, _) =>
    let (significand, _, others) := absorb 0 0 found
    afterWhole negative significand others.length (cursor.skipMany found.length)

end Numeral

end TypedJson.Json
