import TypedJson.Regex.Expression
import TypedJson.Text.Digit

namespace TypedJson.Regex.Reader

/-- Blanks and comments up to the next character that counts in extended mode. -/
def skipExtended (inComment : Bool) : List Char → List Char
  | [] => []
  | char :: rest =>
    if inComment then skipExtended (char != '\n') rest
    else if Unicode.isBlank char then skipExtended false rest
    else if char = '#' then skipExtended true rest
    else char :: rest

def skip (extended : Bool) (input : List Char) : List Char :=
  if extended then skipExtended false input else input

/-- What may stand for one character, or for none. -/
inductive Atom
  | literal (char : Char) (byCode : Bool)
  | common (negated : Bool) (kind : CommonClass)
  | property (negated : Bool) (ranges : List (Nat × Nat))
  | anchor (kind : Anchor)

/-- The character with a code, if it has one. -/
def scalar? (code : Nat) : Option Char :=
  if code.isValidChar then some (Char.ofNat code) else none

/-- Reads exactly some hexadecimal digits. -/
def hexDigits (extended : Bool) : Nat → Nat → List Char → Option (Nat × List Char)
  | 0, value, input => some (value, input)
  | _, _, [] => none
  | count + 1, value, char :: rest =>
    match hexDigit? char with
    | some digit => hexDigits extended count (value * 16 + digit) (skip extended rest)
    | none => none

/--
The characters up to a closing brace, and what follows it. In extended mode blanks and comments
are left out.
-/
def untilBrace (extended inComment : Bool) : List Char → Option (List Char × List Char)
  | [] => none
  | char :: rest =>
    if inComment then untilBrace extended (char != '\n') rest
    else if extended && Unicode.isBlank char then untilBrace extended false rest
    else if extended && char = '#' then untilBrace extended true rest
    else if char = '}' then some ([], rest)
    else (untilBrace extended false rest).map fun (body, after) => (char :: body, after)

/-- Reads the code of a character, in braces or with a fixed number of digits. -/
def hexCode (extended : Bool) (count : Nat) (input : List Char) : Option (Atom × List Char) :=
  match skip extended input with
  | [] => none
  | '{' :: rest => do
    let (body, rest) ← untilBrace extended false rest
    let digits ← body.mapM hexDigit?
    if digits.isEmpty then none
    else
      let char ← scalar? (digits.foldl (fun value digit => value * 16 + digit) 0)
      return (.literal char false, rest)
  | input => do
    let (code, rest) ← hexDigits extended count 0 input
    let char ← scalar? code
    return (.literal char (count == 2), rest)

/-- Splits at the first of two marks for a value of a property. -/
def splitValue (mark : List Char) : List Char → Option (List Char × List Char)
  | [] => none
  | char :: rest =>
    if mark.isPrefixOf (char :: rest) then some ([], (char :: rest).drop mark.length)
    else (splitValue mark rest).map fun (name, value) => (char :: name, value)

/-- The ranges of a property as written, with whether the value is excluded. -/
def propertyNamed? (name : List Char) : Option (Bool × List (Nat × Nat)) :=
  match splitValue ['!', '='] name with
  | some (name, value) => (Unicode.propertyValue? name value).map fun ranges => (true, ranges)
  | none =>
    match splitValue [':'] name with
    | some (name, value) => (Unicode.propertyValue? name value).map fun ranges => (false, ranges)
    | none =>
      match splitValue ['='] name with
      | some (name, value) =>
        (Unicode.propertyValue? name value).map fun ranges => (false, ranges)
      | none => (Unicode.property? name).map fun ranges => (false, ranges)

/-- Reads a property after `\p` or `\P`. -/
def property (extended negated : Bool) (input : List Char) : Option (Atom × List Char) :=
  match skip extended input with
  | [] => none
  | '{' :: rest => do
    let (name, rest) ← untilBrace extended false rest
    let (excluded, ranges) ← propertyNamed? name
    return (.property (negated != excluded) ranges, rest)
  | '\\' :: _ => none
  | char :: rest => do
    let ranges ← Unicode.property? [char]
    return (.property negated ranges, skip extended rest)

/-- The characters with a meaning of their own. -/
def isMeta (char : Char) : Bool := "\\.+*?()|[]\x7b\x7d^$#&-~".toList.contains char

/-- Whether a backslash may stand before a character that means itself. -/
def isEscapable (char : Char) : Bool :=
  isMeta char ||
    (char.toNat < 0x80 && !char.isAlphanum && char != '<' && char != '>')

/-- Reads an escape after its backslash. -/
def escape (extended : Bool) : List Char → Option (Atom × List Char)
  | [] => none
  | 'x' :: rest => hexCode extended 2 rest
  | 'u' :: rest => hexCode extended 4 rest
  | 'U' :: rest => hexCode extended 8 rest
  | 'p' :: rest => property extended false rest
  | 'P' :: rest => property extended true rest
  | 'd' :: rest => some (.common false .digit, rest)
  | 'D' :: rest => some (.common true .digit, rest)
  | 's' :: rest => some (.common false .space, rest)
  | 'S' :: rest => some (.common true .space, rest)
  | 'w' :: rest => some (.common false .word, rest)
  | 'W' :: rest => some (.common true .word, rest)
  | 'a' :: rest => some (.literal '\x07' false, rest)
  | 'f' :: rest => some (.literal '\x0c' false, rest)
  | 't' :: rest => some (.literal '\t' false, rest)
  | 'n' :: rest => some (.literal '\n' false, rest)
  | 'r' :: rest => some (.literal '\r' false, rest)
  | 'v' :: rest => some (.literal '\x0b' false, rest)
  | 'A' :: rest => some (.anchor .textStart, rest)
  | 'z' :: rest => some (.anchor .textEnd, rest)
  | 'b' :: rest => some (boundary rest)
  | 'B' :: rest => some (.anchor .notWordBoundary, rest)
  | '<' :: rest => some (.anchor .wordStart, rest)
  | '>' :: rest => some (.anchor .wordEnd, rest)
  | char :: rest => if isEscapable char then some (.literal char false, rest) else none
where
  /-- A boundary may be followed by its side in braces. -/
  boundary (input : List Char) : Atom × List Char :=
    let sides : List (String × Anchor) :=
      [("\x7bstart\x7d", .wordStart), ("\x7bend\x7d", .wordEnd),
        ("\x7bstart-half\x7d", .wordStartHalf), ("\x7bend-half\x7d", .wordEndHalf)]
    match sides.find? fun side => side.1.toList.isPrefixOf input with
    | some (name, kind) => (.anchor kind, input.drop name.length)
    | none => (.anchor .wordBoundary, input)

/-- Reads a class such as `[:alpha:]` after its bracket. -/
def asciiClass : List Char → Option (ClassExpression × List Char)
  | ':' :: '^' :: rest => named true rest
  | ':' :: rest => named false rest
  | _ => none
where
  named (negated : Bool) (input : List Char) : Option (ClassExpression × List Char) :=
    let name := input.takeWhile (· != ':')
    match input.drop name.length with
    | ':' :: ']' :: rest =>
      (AsciiClass.named? name).map fun ranges => (.ascii negated ranges, rest)
    | _ => none

/-- Reads one character of a class, or a class in it. -/
def classAtom (extended : Bool) : List Char → Option (Atom × List Char)
  | [] => none
  | '\\' :: rest => escape extended rest
  | char :: rest => some (.literal char false, rest)

/-- The character that decides whether a hyphen makes a range. -/
def afterHyphen (extended : Bool) (input : List Char) : Option Char :=
  if extended then go false input else input.head?
where
  go (inComment : Bool) : List Char → Option Char
    | [] => input.head?
    | char :: rest =>
      if Unicode.isBlank char then go inComment rest
      else if !inComment && char = '#' then go true rest
      else some char

def Atom.toClass? : Atom → Option ClassExpression
  | literal char byCode => some (.literal char byCode)
  | common negated kind => some (.common negated kind)
  | property negated ranges => some (.property negated ranges)
  | anchor _ => none

/-- Reads a character, a class or a range of a class. -/
def classItem (extended : Bool) (input : List Char) :
    Option (ClassExpression × List Char) := do
  let (first, rest) ← classAtom extended input
  match skip extended rest with
  | [] => none
  | '-' :: after =>
    if afterHyphen extended after == some ']' || afterHyphen extended after == some '-' then
      return (← first.toClass?, '-' :: after)
    else
      let (last, rest) ← classAtom extended (skip extended after)
      match first, last with
      | .literal low lowByCode, .literal high highByCode =>
        if low ≤ high then return (.range low lowByCode high highByCode, rest) else none
      | _, _ => none
  | rest => return (← first.toClass?, rest)

/-- The class read so far: a finished left operand and the items after it, in reverse. -/
structure OpenClass where
  operand : Option (ClassOperator × ClassExpression)
  items : List ClassExpression

namespace OpenClass

def push (pending : OpenClass) (item : ClassExpression) : OpenClass :=
  { pending with items := item :: pending.items }

/-- All that was read, as one class. -/
def close (pending : OpenClass) : ClassExpression :=
  let right := ClassExpression.ofItems pending.items.reverse
  match pending.operand with
  | none => right
  | some (operator, left) => .combined operator left right

def combine (pending : OpenClass) (operator : ClassOperator) : OpenClass :=
  ⟨some (operator, pending.close), []⟩

end OpenClass

/-- The hyphens at the start of a class, which stand for themselves. -/
def leadingHyphens (extended : Bool) : Nat → List Char → List ClassExpression × List Char
  | 0, input => ([], input)
  | fuel + 1, input =>
    match input with
    | '-' :: rest =>
      let (items, rest) := leadingHyphens extended fuel (skip extended rest)
      (.literal '-' false :: items, rest)
    | _ => ([], input)

/-- Reads the start of a class after its bracket: negation, hyphens and a first bracket. -/
def classOpen (extended : Bool) (input : List Char) : Bool × OpenClass × List Char :=
  let input := skip extended input
  let (negated, input) :=
    match input with
    | '^' :: rest => (true, skip extended rest)
    | _ => (false, input)
  let (hyphens, input) := leadingHyphens extended input.length input
  match hyphens, input with
  | [], ']' :: rest => (negated, ⟨none, [.literal ']' false]⟩, skip extended rest)
  | _, _ => (negated, ⟨none, hyphens.reverse⟩, input)

/-- Reads a class up to its closing bracket. -/
def classRest (extended : Bool) : Nat → Bool → OpenClass → List Char →
    Option (ClassExpression × List Char)
  | 0, _, _, _ => none
  | fuel + 1, negated, pending, input =>
    match skip extended input with
    | [] => none
    | ']' :: rest => some (.bracketed negated pending.close, rest)
    | '&' :: '&' :: rest =>
      classRest extended fuel negated (pending.combine .intersection) rest
    | '-' :: '-' :: rest =>
      classRest extended fuel negated (pending.combine .difference) rest
    | '~' :: '~' :: rest =>
      classRest extended fuel negated (pending.combine .symmetricDifference) rest
    | '[' :: rest =>
      match asciiClass rest with
      | some (item, rest) => classRest extended fuel negated (pending.push item) rest
      | none =>
        let (innerNegated, inner, innerRest) := classOpen extended rest
        match classRest extended fuel innerNegated inner innerRest with
        | some (item, rest) => classRest extended fuel negated (pending.push item) rest
        | none => none
    | input =>
      match classItem extended input with
      | some (item, rest) => classRest extended fuel negated (pending.push item) rest
      | none => none

/-- Reads a class after its opening bracket. -/
def bracketClass (extended : Bool) (input : List Char) : Option (ClassExpression × List Char) :=
  let (negated, pending, rest) := classOpen extended input
  classRest extended (input.length + 1) negated pending rest

/-- The greatest count of a repetition. -/
def countLimit : Nat := 4294967295

/-- The digits of a count, with what may be skipped after each of them. -/
def countDigits (extended inComment : Bool) : List Char → List Nat × List Char
  | [] => ([], [])
  | char :: rest =>
    if inComment then countDigits extended (char != '\n') rest
    else if extended && Unicode.isBlank char then countDigits extended false rest
    else if extended && char = '#' then countDigits extended true rest
    else if '0' ≤ char ∧ char ≤ '9' then
      let (digits, after) := countDigits extended false rest
      ((char.toNat - 48) :: digits, after)
    else ([], char :: rest)

/-- Reads a count, with blanks around it. -/
def count (extended : Bool) (input : List Char) : Option (Nat × List Char) :=
  let (digits, rest) := countDigits extended false (input.dropWhile Unicode.isBlank)
  let value := digits.foldl (fun value digit => value * 10 + digit) 0
  if digits.isEmpty || countLimit < value then none
  else some (value, rest.dropWhile Unicode.isBlank)

/-- Reads the bounds of a repetition after its brace. -/
def bounds (extended : Bool) (input : List Char) :
    Option (Nat × Option Nat × List Char) := do
  let (low, rest) ← count extended (skip extended input)
  match rest with
  | '}' :: rest => return (low, some low, rest)
  | ',' :: rest =>
    match skip extended rest with
    | '}' :: rest => return (low, none, rest)
    | rest =>
      let (high, rest) ← count extended rest
      match rest with
      | '}' :: rest => if low ≤ high then return (low, some high, rest) else none
      | _ => none
  | _ => none

def flagNamed? : Char → Option FlagName
  | 'i' => some .caseInsensitive
  | 'm' => some .multiLine
  | 's' => some .dotMatchesNewLine
  | 'U' => some .swapGreed
  | 'u' => some .unicode
  | 'R' => some .anyLineEnding
  | 'x' => some .extended
  | _ => none

/--
Reads flags up to a colon or a parenthesis. A flag stands at most once, at most one hyphen
stands among them, and not at the end.
-/
def flags (negated hyphenLast : Bool) (done : FlagList) :
    List Char → Option (FlagList × Bool × List Char)
  | [] => none
  | ':' :: rest => if hyphenLast then none else some (done.reverse, true, rest)
  | ')' :: rest =>
    if hyphenLast || done.isEmpty then none else some (done.reverse, false, rest)
  | '-' :: rest => if negated then none else flags true true done rest
  | char :: rest =>
    match flagNamed? char with
    | none => none
    | some flag =>
      if (done.lookup flag).isSome then none else flags negated false ((flag, !negated) :: done) rest

/-- Whether a character may stand in the name of a group. -/
def isNameChar (first : Bool) (char : Char) : Bool :=
  char = '_' ||
    (if first then Unicode.isAlphabetic char
      else char = '.' || char = '[' || char = ']' || Unicode.isAlphanumeric char)

/-- Reads the name of a group up to its closing angle. -/
def groupName (input : List Char) : Option (List Char × List Char) :=
  let name := input.takeWhile (· != '>')
  match name, input.drop name.length with
  | first :: others, '>' :: rest =>
    if isNameChar true first && others.all (isNameChar false) then some (name, rest) else none
  | _, _ => none

/-- What a reader remembers: whether blanks are skipped, and the groups so far. -/
structure Memory where
  extended : Bool
  opened : Nat
  names : List (List Char)

/-- The start of a group. -/
inductive Opening
  | flags (list : FlagList)
  | group (list : FlagList)
  | capture

/-- Reads the start of a group after its parenthesis. -/
def opening (memory : Memory) (input : List Char) : Option (Opening × Memory × List Char) :=
  match skip memory.extended input with
  | '?' :: '=' :: _ => none
  | '?' :: '!' :: _ => none
  | '?' :: '<' :: '=' :: _ => none
  | '?' :: '<' :: '!' :: _ => none
  | '?' :: 'P' :: '<' :: rest => named rest
  | '?' :: '<' :: rest => named rest
  | '?' :: rest => do
    let (list, opens, rest) ← Reader.flags false false [] rest
    let extended := (list.lookup .extended).getD memory.extended
    let memory := { memory with extended }
    return (if opens then .group list else .flags list, memory, rest)
  | rest => some (.capture, { memory with opened := memory.opened + 1 }, rest)
where
  named (input : List Char) : Option (Opening × Memory × List Char) := do
    let (name, rest) ← groupName input
    if memory.names.contains name then none
    else
      return (.capture,
        { memory with opened := memory.opened + 1, names := name :: memory.names }, rest)

/-- Reads an expression that is neither a group, a class nor a repetition. -/
def simple (extended : Bool) : List Char → Option (Expression × List Char)
  | [] => none
  | '\\' :: rest => (escape extended rest).map fun (atom, rest) => (expression atom, rest)
  | '.' :: rest => some (.dot, rest)
  | '^' :: rest => some (.anchor .lineStart, rest)
  | '$' :: rest => some (.anchor .lineEnd, rest)
  | char :: rest => some (.literal char false, rest)
where
  expression : Atom → Expression
    | .literal char byCode => .literal char byCode
    | .common negated kind => .set (.common negated kind)
    | .property negated ranges => .set (.property negated ranges)
    | .anchor kind => .anchor kind

/-- Puts a repetition around the last item read; a question mark after it makes it lazy. -/
def repeated (extended : Bool) (low : Nat) (high : Option Nat) :
    List Expression → List Char → Option (List Expression × List Char)
  | body :: done, input =>
    if body.isRepeatable then
      match skip extended input with
      | '?' :: rest => some (.repetition body low high false :: done, rest)
      | _ => some (.repetition body low high true :: done, input)
    else none
  | [], _ => none

mutual

/-- Reads alternatives up to a closing parenthesis or the end. -/
def alternatives : Nat → Memory → List Expression → List Char →
    Option (Expression × Memory × List Char)
  | 0, _, _, _ => none
  | fuel + 1, memory, done, input =>
    match sequence fuel memory [] input with
    | none => none
    | some (item, memory, '|' :: rest) => alternatives fuel memory (item :: done) rest
    | some (item, memory, rest) =>
      some (Expression.ofAlternation (item :: done).reverse, memory, rest)

/-- Reads one alternative; the items read so far stand in reverse. -/
def sequence : Nat → Memory → List Expression → List Char →
    Option (Expression × Memory × List Char)
  | 0, _, _, _ => none
  | fuel + 1, memory, done, input =>
    match skip memory.extended input with
    | [] => some (Expression.ofConcat done.reverse, memory, [])
    | '|' :: rest => some (Expression.ofConcat done.reverse, memory, '|' :: rest)
    | ')' :: rest => some (Expression.ofConcat done.reverse, memory, ')' :: rest)
    | '(' :: rest =>
      match opening memory rest with
      | none => none
      | some (.flags list, memory, rest) => sequence fuel memory (.flags list :: done) rest
      | some (.group list, inner, rest) =>
        match alternatives fuel inner [] rest with
        | some (body, after, ')' :: rest) =>
          sequence fuel { after with extended := memory.extended } (.group list body :: done) rest
        | _ => none
      | some (.capture, inner, rest) =>
        match alternatives fuel inner [] rest with
        | some (body, after, ')' :: rest) =>
          sequence fuel { after with extended := memory.extended }
            (.capture inner.opened body :: done) rest
        | _ => none
    | '[' :: rest =>
      match bracketClass memory.extended rest with
      | some (set, rest) => sequence fuel memory (.set set :: done) rest
      | none => none
    | '?' :: rest =>
      match repeated false 0 (some 1) done rest with
      | some (done, rest) => sequence fuel memory done rest
      | none => none
    | '*' :: rest =>
      match repeated false 0 none done rest with
      | some (done, rest) => sequence fuel memory done rest
      | none => none
    | '+' :: rest =>
      match repeated false 1 none done rest with
      | some (done, rest) => sequence fuel memory done rest
      | none => none
    | '{' :: rest =>
      match bounds memory.extended rest with
      | some (low, high, rest) =>
        match repeated memory.extended low high done rest with
        | some (done, rest) => sequence fuel memory done rest
        | none => none
      | none => none
    | input =>
      match simple memory.extended input with
      | some (item, rest) => sequence fuel memory (item :: done) rest
      | none => none

end

/-- How deep an expression may nest. -/
def depthLimit : Nat := 250

/-- Reads a whole expression. Look-around and back references are no part of this dialect, and
neither is a repetition of nothing. -/
def read? (input : List Char) : Option Expression :=
  match alternatives (3 * input.length + 6) ⟨false, 0, []⟩ [] input with
  | some (expression, _, []) => if expression.depth ≤ depthLimit then some expression else none
  | _ => none

end TypedJson.Regex.Reader
