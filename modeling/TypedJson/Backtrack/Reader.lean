import TypedJson.Backtrack.Expression

namespace TypedJson.Backtrack.Reader

open TypedJson.Regex (Flags)

/-- What a reader remembers: the flags in force and the groups opened so far. -/
structure Memory where
  /-- The number of bytes of the whole pattern. -/
  size : Nat
  ignoreCase : Bool
  multiLine : Bool
  dotMatchesNewLine : Bool
  swapGreed : Bool
  extended : Bool
  opened : Nat
  names : List (List Char × Nat)
  /-- Whether some group was referred to by its number. -/
  numbered : Bool

namespace Memory

def start (size : Nat) : Memory :=
  ⟨size, false, false, false, false, false, 0, [], false⟩

/-- The flags of one memory with the groups of another. -/
def withFlagsOf (memory source : Memory) : Memory :=
  { memory with
    ignoreCase := source.ignoreCase
    multiLine := source.multiLine
    dotMatchesNewLine := source.dotMatchesNewLine
    swapGreed := source.swapGreed
    extended := source.extended }

/-- The flags for an ordinary regular expression inside the pattern. -/
def classFlags (memory : Memory) : Flags :=
  { Flags.standard with caseInsensitive := memory.ignoreCase }

end Memory

/-- The text after a comment; a backslash in it takes the next character along. -/
def afterComment : List Char → Option (List Char)
  | [] => none
  | ')' :: rest => some rest
  | '\\' :: _ :: rest => afterComment rest
  | _ :: rest => afterComment rest

/-- Moves over comments, and in extended mode over blanks and line comments. -/
def skipFrom (extended : Bool) : Nat → List Char → Option (List Char)
  | 0, input => some input
  | fuel + 1, input =>
    match input with
    | '(' :: '?' :: '#' :: rest =>
      match afterComment rest with
      | some rest => skipFrom extended fuel rest
      | none => none
    | '#' :: rest =>
      if extended then skipFrom extended fuel ((rest.dropWhile (· != '\n')).drop 1)
      else some input
    | char :: rest =>
      if extended && (char = ' ' || char = '\r' || char = '\n' || char = '\t') then
        skipFrom extended fuel rest
      else some input
    | [] => some []

def skip (memory : Memory) (input : List Char) : Option (List Char) :=
  skipFrom memory.extended (input.length + 1) input

/-- The greatest count, which stands for no bound. -/
def unbounded : Nat := 0xFFFFFFFFFFFFFFFF

/-- Reads a number from decimal digits that fits 64 bits. -/
def decimal (input : List Char) : Option (Nat × List Char) :=
  let digits := input.takeWhile Char.isDigit
  let value := decimalValue digits
  if digits.isEmpty || unbounded < value then none else some (value, input.drop digits.length)

def bound? (value : Nat) : Option Nat := if value = unbounded then none else some value

/-- Reads the bounds of a repetition after its brace. -/
def bounds (memory : Memory) (input : List Char) : Option (Nat × Option Nat × List Char) := do
  let input ← skip memory input
  let (low, rest) ← match input with
    | ',' :: _ => some (0, input)
    | _ => decimal input
  let rest ← skip memory rest
  let (high, rest) ← match rest with
    | '}' :: _ => some (bound? low, rest)
    | ',' :: rest => do
      let rest ← skip memory rest
      match decimal rest with
      | some (high, rest) => some (bound? high, rest)
      | none => some (none, rest)
    | _ => none
  match ← skip memory rest with
  | '}' :: rest => return (low, high, rest)
  | _ => none

def isNameChar (char : Char) : Bool := char = '_' || Unicode.isAlphanumeric char

/-- Reads a name between two marks; a relative number may start with a hyphen. -/
def name (opening closing : List Char) (relative : Bool) (input : List Char) :
    Option (List Char × List Char) :=
  if opening.isPrefixOf input then
    let body := input.drop opening.length
    let sign := if relative && body.head? == some '-' then ['-'] else []
    let found := sign ++ (body.drop sign.length).takeWhile isNameChar
    let rest := body.drop found.length
    if !found.isEmpty && closing.isPrefixOf rest then some (found, rest.drop closing.length)
    else none
  else none

/-- Refers to a group that has been opened, or by zero to the whole match. -/
def reference (memory : Memory) (group : Nat) : Option Expression :=
  if group ≤ memory.opened then some (.backReference group) else none

/-- Refers to a group by name, by number, or by a distance back from the last group. -/
def namedReference (memory : Memory) (found : List Char) : Option Expression :=
  match memory.names.lookup found with
  | some group => reference memory group
  | none =>
    match found with
    | '-' :: digits =>
      match decimal digits with
      | some (0, []) => reference memory 0
      | some (distance, []) =>
        if distance ≤ memory.opened + 1 then reference memory (memory.opened + 1 - distance)
        else none
      | _ => none
    | digits =>
      match decimal digits with
      | some (group, []) => reference memory group
      | _ => none

/-- Refers to a group by its decimal number, which stays below half the size of the pattern. -/
def numberedReference (memory : Memory) (input : List Char) :
    Option (Expression × Memory × List Char) := do
  let (group, rest) ← decimal input
  if group < memory.size / 2 then
    let expression ← reference memory group
    return (expression, { memory with numbered := true }, rest)
  else none

/-- Reads the code of a character: that many digits, or up to eight in braces. -/
def hexCode (count : Nat) (input : List Char) : Option (Char × List Char) :=
  let fixed := (input.take count).mapM hexDigit?
  match fixed with
  | some digits =>
    if digits.length = count then
      (Regex.Reader.scalar? (hexValue digits)).map fun char => (char, input.drop count)
    else braced input
  | none => braced input
where
  braced : List Char → Option (Char × List Char)
    | '{' :: rest => do
      let text := rest.takeWhile (· != '}')
      let digits ← text.mapM hexDigit?
      if digits.isEmpty || 8 < digits.length || text.length = rest.length then none
      else
        let char ← Regex.Reader.scalar? (hexValue digits)
        return (char, rest.drop (text.length + 1))
    | _ => none

/-- The text of a property after `\p`. -/
def propertyText : List Char → Option (List Char × List Char)
  | '{' :: rest =>
    let body := rest.takeWhile (· != '}')
    if body.length = rest.length then none
    else some ('{' :: body ++ ['}'], rest.drop (body.length + 1))
  | char :: rest => some ([char], rest)
  | [] => none

/-- What an escape stands for, inside and outside of classes. -/
inductive Escaped
  | char (char : Char)
  /-- A character that is taken as it stands, also if case is ignored. -/
  | exact (char : Char)
  /-- A class, as the text of an ordinary regular expression. -/
  | text (text : List Char)
  | expression (expression : Expression) (memory : Memory)

/-- Reads an escape after its backslash. -/
def escape (memory : Memory) (inClass : Bool) : List Char → Option (Escaped × List Char)
  | [] => none
  | 'x' :: rest => (hexCode 2 rest).map fun (char, rest) => (.char char, rest)
  | 'u' :: rest => (hexCode 4 rest).map fun (char, rest) => (.char char, rest)
  | 'U' :: rest => (hexCode 8 rest).map fun (char, rest) => (.char char, rest)
  | 'a' :: rest => some (.char '\x07', rest)
  | 'f' :: rest => some (.char '\x0c', rest)
  | 'n' :: rest => some (.char '\n', rest)
  | 'r' :: rest => some (.char '\r', rest)
  | 't' :: rest => some (.char '\t', rest)
  | 'v' :: rest => some (.char '\x0b', rest)
  | 'e' :: rest => some (.char '\x1b', rest)
  | 'h' :: rest => some (.text "[0-9A-Fa-f]".toList, rest)
  | 'H' :: rest => some (.text "[^0-9A-Fa-f]".toList, rest)
  | 'p' :: rest => (propertyText rest).map fun (text, rest) => (.text ('\\' :: 'p' :: text), rest)
  | 'P' :: rest => (propertyText rest).map fun (text, rest) => (.text ('\\' :: 'P' :: text), rest)
  | char :: rest =>
    if char.isDigit then
      if inClass then none
      else (numberedReference memory (char :: rest)).map fun (expression, memory, rest) =>
        (.expression expression memory, rest)
    else if "dDsSwW".toList.contains char then some (.text ['\\', char], rest)
    else if inClass then
      if char.isAlpha && !"kAzbBKG".toList.contains char then none else some (.char char, rest)
    else
      match char with
      | 'k' => do
        let (found, rest) ←
          if rest.head? == some '\'' then name ['\''] ['\''] true rest
          else name ['<'] ['>'] true rest
        let expression ← namedReference memory found
        return (.expression expression memory, rest)
      | 'A' => some (.expression (.condition .textStart) memory, rest)
      | 'z' => some (.expression (.condition .textEnd) memory, rest)
      | 'b' =>
        if rest.head? == some '{' then none
        else some (.expression (.condition (.wordBoundary .unicode)) memory, rest)
      | 'B' =>
        if rest.head? == some '{' then none
        else some (.expression (.condition (.notWordBoundary .unicode)) memory, rest)
      | '<' => some (.expression (.condition (.wordStart .unicode)) memory, rest)
      | '>' => some (.expression (.condition (.wordEnd .unicode)) memory, rest)
      | 'K' => some (.expression .keepOut memory, rest)
      | 'G' => some (.expression .searchStart memory, rest)
      | _ => if char.isAlpha then none else some (.exact char, rest)

/-- A character as it stands for itself in a class of an ordinary regular expression. -/
def quoteInClass (char : Char) : List Char :=
  if Regex.Reader.isMeta char then ['\\', char] else [char]

/-- Collects the text of a class up to the bracket that closes it; the depth counts brackets. -/
def classText (memory : Memory) : Nat → Nat → List Char → Option (List Char × List Char)
  | 0, _, _ => none
  | fuel + 1, depth, input =>
    match input with
    | [] => none
    | '\\' :: rest =>
      match escape memory true rest with
      | some (.char char, rest) =>
        (classText memory fuel depth rest).map fun (text, rest) => (quoteInClass char ++ text, rest)
      | some (.text found, rest) =>
        (classText memory fuel depth rest).map fun (text, rest) => (found ++ text, rest)
      | _ => none
    | '[' :: rest =>
      (classText memory fuel (depth + 1) rest).map fun (text, rest) => ('[' :: text, rest)
    | ']' :: rest =>
      if depth = 0 then some ([']'], rest)
      else (classText memory fuel (depth - 1) rest).map fun (text, rest) => (']' :: text, rest)
    | char :: rest =>
      (classText memory fuel depth rest).map fun (text, rest) => (char :: text, rest)

/-- Collects the text of a class after its bracket; a first closing bracket is a member. -/
def bracketText (memory : Memory) (input : List Char) : Option (List Char × List Char) :=
  let (negation, input) :=
    match input with
    | '^' :: rest => (['^'], rest)
    | _ => ([], input)
  let (first, input) :=
    match input with
    | ']' :: rest => ([']'], rest)
    | _ => ([], input)
  (classText memory (input.length + 1) 0 input).map fun (text, rest) =>
    ('[' :: negation ++ first ++ text, rest)

/-- Reads the text of a class as an ordinary regular expression. -/
def classRegex (memory : Memory) (text : List Char) : Option Expression := do
  let expression ← Regex.Reader.read? text
  let (regex, _) ← expression.meaning memory.classFlags
  return .set regex

/-- Reads an expression that opens no group. -/
def simple (memory : Memory) : List Char → Option (Expression × Memory × List Char)
  | [] => none
  | '.' :: rest => some (.anyChar memory.dotMatchesNewLine, memory, rest)
  | '^' :: rest =>
    some (.condition (if memory.multiLine then .lineStart else .textStart), memory, rest)
  | '$' :: rest =>
    some (.condition (if memory.multiLine then .lineEnd else .textEnd), memory, rest)
  | '\\' :: rest =>
    match escape memory false rest with
    | some (.char char, rest) => some (.literal char memory.ignoreCase, memory, rest)
    | some (.exact char, rest) => some (.literal char false, memory, rest)
    | some (.text text, rest) =>
      (classRegex memory text).map fun expression => (expression, memory, rest)
    | some (.expression expression memory, rest) => some (expression, memory, rest)
    | none => none
  | '[' :: rest => do
    let (text, rest) ← bracketText memory rest
    let expression ← classRegex memory text
    return (expression, memory, rest)
  | char :: rest => some (.literal char memory.ignoreCase, memory, rest)

/--
Reads flags up to a colon or a parenthesis; gives whether a group follows. `read` counts the
characters read so far, blanks and comments included: a parenthesis may not stand first, and
nothing may end right after a hyphen that stands first.
-/
def flags (negated : Bool) (read : Nat) : Nat → Memory → List Char →
    Option (Memory × Bool × List Char)
  | 0, _, _ => none
  | fuel + 1, memory, input =>
    match skip memory input with
    | none => none
    | some after =>
      let read := read + (input.length - after.length)
      let next (negated : Bool) := flags negated (read + 1) fuel
      match after with
      | 'i' :: rest => next negated { memory with ignoreCase := !negated } rest
      | 'm' :: rest => next negated { memory with multiLine := !negated } rest
      | 's' :: rest => next negated { memory with dotMatchesNewLine := !negated } rest
      | 'U' :: rest => next negated { memory with swapGreed := !negated } rest
      | 'x' :: rest => next negated { memory with extended := !negated } rest
      | 'u' :: rest => if negated then none else next negated memory rest
      | '-' :: rest => if negated then none else next true memory rest
      | ')' :: rest =>
        if read = 0 || (negated && read = 1) then none else some (memory, false, rest)
      | ':' :: rest => if negated && read = 1 then none else some (memory, true, rest)
      | _ => none

/-- The start of a group. -/
inductive Opening
  | capture
  | lookAround (behind negated : Bool)
  | atomic
  | plain
  | nothing
  | reference (expression : Expression)
  | conditional

/-- Reads the start of a group after its parenthesis. -/
def opening (memory : Memory) (input : List Char) :
    Option (Opening × Memory × List Char) := do
  match ← skip memory input with
  | '?' :: '=' :: rest => return (.lookAround false false, memory, rest)
  | '?' :: '!' :: rest => return (.lookAround false true, memory, rest)
  | '?' :: '<' :: '=' :: rest => return (.lookAround true false, memory, rest)
  | '?' :: '<' :: '!' :: rest => return (.lookAround true true, memory, rest)
  | '?' :: '<' :: rest => named ('<' :: rest)
  | '?' :: 'P' :: '<' :: rest => named ('<' :: rest)
  | '?' :: 'P' :: '=' :: rest =>
    let (found, rest) ← name [] [')'] false rest
    let expression ← namedReference memory found
    return (.reference expression, memory, rest)
  | '?' :: '>' :: rest => return (.atomic, memory, rest)
  | '?' :: '(' :: rest => return (.conditional, memory, rest)
  | '?' :: rest =>
    let (memory, opens, rest) ← flags false 0 (rest.length + 1) memory rest
    return (if opens then .plain else .nothing, memory, rest)
  | rest => return (.capture, { memory with opened := memory.opened + 1 }, rest)
where
  named (input : List Char) : Option (Opening × Memory × List Char) := do
    let (found, rest) ← name ['<'] ['>'] false input
    let group := memory.opened + 1
    return (.capture,
      { memory with opened := group, names := (found, group) :: memory.names }, rest)

/-- Reads how often something is to be repeated, if that follows. -/
def repetition? (memory : Memory) : List Char → Option (Nat × Option Nat × List Char)
  | '?' :: rest => some (0, some 1, rest)
  | '*' :: rest => some (0, none, rest)
  | '+' :: rest => some (1, none, rest)
  | '{' :: rest => bounds memory rest
  | _ => none

/-- Whether many rounds are preferred: a question mark asks for few. -/
def preference : List Char → Bool × List Char
  | '?' :: rest => (false, rest)
  | rest => (true, rest)

/-- The rounds of a repetition, atomic if a plus sign follows. -/
def possessive (rounds : Expression) : List Char → Expression × List Char
  | '+' :: rest => (.atomic rounds, rest)
  | rest => (rounds, rest)

/-- Puts a repetition around an expression, if one follows. -/
def withRepetition (memory : Memory) (body : Expression) (input : List Char) :
    Option (Expression × List Char) := do
  let input ← skip memory input
  match repetition? memory input with
  | none => return (body, input)
  | some (low, high, rest) =>
    if body.isRepeatable then
      let rest ← skip memory rest
      let (greedy, rest) := preference rest
      return possessive (.rounds body low high (greedy != memory.swapGreed)) rest
    else none

/-- Moves over a closing parenthesis. -/
def close (memory : Memory) (input : List Char) : Option (List Char) := do
  match ← skip memory input with
  | ')' :: rest => return rest
  | _ => none

/-- How deep groups may nest. -/
def depthLimit : Nat := 63

/-- The branches of a conditional: the first alternative, and the others. -/
def branches : Expression → Expression × Expression
  | .alternation [] => (.empty, .empty)
  | .alternation [yes] => (yes, .empty)
  | .alternation [yes, no] => (yes, no)
  | .alternation (yes :: others) => (yes, .alternation others)
  | yes => (yes, .empty)

/-- A condition: a reference to a group asks whether the group is set. -/
def asTest : Expression → Expression
  | .backReference group => .groupSet group
  | test => test

mutual

/-- Reads alternatives. Numbers and names of groups are not both used for references. -/
def alternatives : Nat → Nat → Memory → List Expression → List Char →
    Option (Expression × Memory × List Char)
  | 0, _, _, _, _ => none
  | fuel + 1, depth, memory, done, input =>
    match sequence fuel depth memory [] input with
    | none => none
    | some (item, memory, rest) =>
      match skip memory rest with
      | none => none
      | some ('|' :: rest) => alternatives fuel depth memory (item :: done) rest
      | some rest =>
        if done.isEmpty then
          if memory.numbered && !memory.names.isEmpty then none else some (item, memory, rest)
        else some (.alternation (item :: done).reverse, memory, rest)

/-- Reads one alternative; the items read so far stand in reverse. -/
def sequence : Nat → Nat → Memory → List Expression → List Char →
    Option (Expression × Memory × List Char)
  | 0, _, _, _, _ => none
  | fuel + 1, depth, memory, done, input =>
    match skip memory input with
    | none => none
    | some input =>
      if input.isEmpty || input.head? == some '|' || input.head? == some ')' then
        some (Expression.ofConcat done.reverse, memory, input)
      else
        match piece fuel depth memory input with
        | none => none
        | some (item, memory, rest) =>
          match withRepetition memory item rest with
          | none => none
          | some (item, rest) =>
            sequence fuel depth memory (if item.isEmpty then done else item :: done) rest

/-- Reads one expression without its repetition; the depth counts the groups around it. -/
def piece : Nat → Nat → Memory → List Char → Option (Expression × Memory × List Char)
  | 0, _, _, _ => none
  | fuel + 1, depth, memory, input =>
    match input with
    | '+' :: _ => none
    | '*' :: _ => none
    | '?' :: _ => none
    | '(' :: rest =>
      if depthLimit ≤ depth then none
      else
        match opening memory rest with
        | none => none
        | some (.nothing, memory, rest) => some (.empty, memory, rest)
        | some (.reference expression, memory, rest) => some (expression, memory, rest)
        | some (.plain, inner, rest) =>
          match alternatives fuel (depth + 1) inner [] rest with
          | some (body, after, ')' :: rest) => some (body, after.withFlagsOf memory, rest)
          | _ => none
        | some (.conditional, memory, rest) => conditional fuel (depth + 1) memory rest
        | some (kind, inner, rest) =>
          match alternatives fuel (depth + 1) inner [] rest with
          | none => none
          | some (body, after, rest) =>
            match close after rest with
            | none => none
            | some rest =>
              some (match kind with
                | .lookAround behind negated => .lookAround behind negated body
                | .atomic => .atomic body
                | _ => .group inner.opened body, after, rest)
    | input => simple memory input

/-- Reads a conditional after its second parenthesis. -/
def conditional : Nat → Nat → Memory → List Char → Option (Expression × Memory × List Char)
  | 0, _, _, _ => none
  | fuel + 1, depth, memory, input =>
    match test fuel depth memory input with
    | none => none
    | some (test, memory, rest) =>
      match close memory rest with
      | none => none
      | some rest =>
        match alternatives fuel depth memory [] rest with
        | none => none
        | some (body, memory, after) =>
          match close memory after with
          | none => none
          | some closed =>
            if after.length = rest.length then
              match test with
              | .backReference group => some (.groupSet group, memory, closed)
              | _ => none
            else
              let (yes, no) := branches body
              if yes.isEmpty && no.isEmpty then some (asTest test, memory, closed)
              else some (.conditional (asTest test) yes no, memory, closed)

/-- Reads the test of a conditional: a group or an expression. -/
def test : Nat → Nat → Memory → List Char → Option (Expression × Memory × List Char)
  | 0, _, _, _ => none
  | fuel + 1, depth, memory, input =>
    match input with
    | [] => none
    | '\'' :: _ => do
      let (found, rest) ← name ['\''] ['\''] true input
      let expression ← namedReference memory found
      return (expression, memory, rest)
    | '<' :: _ => do
      let (found, rest) ← name ['<'] ['>'] true input
      let expression ← namedReference memory found
      return (expression, memory, rest)
    | char :: _ =>
      if char.isDigit then numberedReference memory input
      else alternatives fuel depth memory [] input

end

/-- Reads a whole pattern; gives it with its number of groups. A group may be referred to once it
has been opened. -/
def read? (input : List Char) : Option (Expression × Nat) :=
  let size := (String.ofList input).utf8ByteSize
  match alternatives (4 * input.length + 8) 0 (.start size) [] input with
  | some (expression, memory, []) => some (expression, memory.opened)
  | _ => none

end TypedJson.Backtrack.Reader
