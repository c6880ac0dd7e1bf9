import TypedJson.Regex.Reader

namespace TypedJson.Regex

/-- The flags in force. -/
structure Flags where
  caseInsensitive : Bool
  multiLine : Bool
  dotMatchesNewLine : Bool
  swapGreed : Bool
  unicode : Bool
  anyLineEnding : Bool
deriving DecidableEq

namespace Flags

def standard : Flags := ⟨false, false, false, false, true, false⟩

def set (flags : Flags) (name : FlagName) (value : Bool) : Flags :=
  match name with
  | .caseInsensitive => { flags with caseInsensitive := value }
  | .multiLine => { flags with multiLine := value }
  | .dotMatchesNewLine => { flags with dotMatchesNewLine := value }
  | .swapGreed => { flags with swapGreed := value }
  | .unicode => { flags with unicode := value }
  | .anyLineEnding => { flags with anyLineEnding := value }
  | .extended => flags

def setAll (flags : Flags) (list : FlagList) : Flags :=
  list.foldl (fun flags item => flags.set item.1 item.2) flags

def wordKind (flags : Flags) : WordKind := if flags.unicode then .unicode else .ascii

/-- The set closed under case if case is ignored. -/
def fold (flags : Flags) (set : CharSet) : CharSet :=
  if flags.caseInsensitive then
    if flags.unicode then .caseClosure set else .asciiCaseClosure set
  else set

/-- The set or its complement. Without the Unicode flag nothing outside of ASCII may be matched by a
negation. -/
def negate? (flags : Flags) (negated : Bool) (set : CharSet) : Option CharSet :=
  if negated then if flags.unicode then some (.complement set) else none else some set

/-- The code point of a character of a class. -/
def classCode? (flags : Flags) (char : Char) : Option Nat :=
  if flags.unicode || char.toNat < 0x80 then some char.toNat else none

end Flags

namespace CommonClass

def set (flags : Flags) : CommonClass → CharSet
  | digit => if flags.unicode then .ranges Unicode.digitRanges else .ranges [(48, 57)]
  | space => if flags.unicode then .blank else .ranges [(9, 13), (32, 32)]
  | word => if flags.unicode then .ranges Unicode.wordRanges else asciiWord

end CommonClass

namespace ClassExpression

mutual

/-- The set of a class, before the brackets around it apply case and negation. -/
def meaning (flags : Flags) : ClassExpression → Option CharSet
  | empty => some .empty
  | literal char _ => (flags.classCode? char).map fun code => .ranges [(code, code)]
  | range first _ last _ => do
    let first ← flags.classCode? first
    let last ← flags.classCode? last
    return .ranges [(first, last)]
  | ascii negated ranges => flags.negate? negated (flags.fold (.ranges ranges))
  | common negated kind => flags.negate? negated (kind.set flags)
  | property negated ranges =>
    if flags.unicode then flags.negate? negated (flags.fold (.ranges ranges)) else none
  | union items => (meanings flags items).map CharSet.unionAll
  | combined operator left right => do
    let left ← left.meaning flags
    let right ← right.meaning flags
    let left := flags.fold left
    let right := flags.fold right
    return match operator with
      | .intersection => .intersection left right
      | .difference => .difference left right
      | .symmetricDifference => .symmetricDifference left right
  | bracketed negated members => do
    let set ← members.meaning flags
    flags.negate? negated (flags.fold set)

def meanings (flags : Flags) : List ClassExpression → Option (List CharSet)
  | [] => some []
  | item :: rest => do
    let set ← item.meaning flags
    let sets ← meanings flags rest
    return set :: sets

end

end ClassExpression

namespace Anchor

def condition (flags : Flags) : Anchor → Look
  | lineStart =>
    if flags.multiLine then if flags.anyLineEnding then .anyLineStart else .lineStart
    else .textStart
  | lineEnd =>
    if flags.multiLine then if flags.anyLineEnding then .anyLineEnd else .lineEnd
    else .textEnd
  | textStart => .textStart
  | textEnd => .textEnd
  | wordBoundary => .wordBoundary flags.wordKind
  | notWordBoundary => .notWordBoundary flags.wordKind
  | wordStart => .wordStart flags.wordKind
  | wordEnd => .wordEnd flags.wordKind
  | wordStartHalf => .wordStartHalf flags.wordKind
  | wordEndHalf => .wordEndHalf flags.wordKind

end Anchor

namespace Expression

/-- What a dot stands for. -/
def dotSet (flags : Flags) : CharSet :=
  if flags.dotMatchesNewLine then .all
  else if flags.anyLineEnding then .complement (.ranges [(10, 10), (13, 13)])
  else .complement (.ranges [(10, 10)])

mutual

/-- The regular expression, and the flags in force after it. Flags hold from where they stand to the
end of their group. -/
def meaning (flags : Flags) : Expression → Option (Regex × Flags)
  | empty => some (.empty, flags)
  | Expression.flags list => some (.empty, flags.setAll list)
  | literal char byCode =>
    if !flags.unicode && byCode && 0x80 ≤ char.toNat then none
    else if flags.unicode || char.toNat < 0x80 then
      some (.one (flags.fold (.single char)), flags)
    else some (.one (.single char), flags)
  | dot => if flags.unicode then some (.one (dotSet flags), flags) else none
  | anchor kind => some (.look (kind.condition flags), flags)
  | set members => (members.meaning flags).map fun set => (.one set, flags)
  | repetition body low high greedy => do
    let (regex, flags) ← body.meaning flags
    return (.rounds regex low high (greedy != flags.swapGreed), flags)
  | group list body => do
    let (regex, _) ← body.meaning (flags.setAll list)
    return (regex, flags)
  | capture index body => do
    let (regex, _) ← body.meaning flags
    return (.group index regex, flags)
  | concat items => do
    let (regexes, flags) ← meanings flags items
    return (.seq regexes, flags)
  | alternation items => do
    let (regexes, flags) ← meanings flags items
    return (.alt regexes, flags)

def meanings (flags : Flags) : List Expression → Option (List Regex × Flags)
  | [] => some ([], flags)
  | item :: rest => do
    let (regex, flags) ← item.meaning flags
    let (regexes, flags) ← meanings flags rest
    return (regex :: regexes, flags)

end

end Expression

end TypedJson.Regex
