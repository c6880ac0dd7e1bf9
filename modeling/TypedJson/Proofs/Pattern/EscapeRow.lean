import TypedJson.Proofs.Pattern.Agreement
import TypedJson.Proofs.Pattern.BracketRow

namespace TypedJson.Pattern

open TypedJson.Regex (CharSet)

/-- A class escape that stands alone or in a bracket of its own. -/
structure WrittenEscape where
  escape : ClassEscape
  bracketed : Bool
deriving DecidableEq

namespace WrittenEscape

def text (written : WrittenEscape) : List Char :=
  if written.bracketed then '[' :: written.escape.text ++ [']'] else written.escape.text

/-- The bracket that has the same meaning. -/
def bracket (written : WrittenEscape) : Bracket :=
  if written.bracketed then
    ⟨false, [.shorthand written.escape], List.cons_ne_nil _ _, fun _ same =>
      absurd (Option.some.inj same) (by decide)⟩
  else
    ⟨written.escape.negated, [.shorthand ⟨false, written.escape.kind⟩], List.cons_ne_nil _ _,
      fun _ same => absurd (Option.some.inj same) (by decide)⟩

/-- A written escape as a bracket is read apart. -/
theorem readsApart_bracket (written : WrittenEscape) : written.bracket.readsApart = true := by
  obtain ⟨⟨negated, kind⟩, bracketed⟩ := written
  cases bracketed <;> cases negated <;> cases kind <;> decide

/-- An escape becomes the text of its bracket. -/
theorem translated_text (written : WrittenEscape) (rest : List Char) :
    translated .linear false (written.text ++ rest) =
      written.bracket.image true ++ translated .linear false rest := by
  obtain ⟨⟨negated, kind⟩, bracketed⟩ := written
  cases bracketed with
  | true =>
      have same : text ⟨⟨negated, kind⟩, true⟩ = (bracket ⟨⟨negated, kind⟩, true⟩).text := by
        simp [Bracket.text, bracket, text, negation, BracketItem.text]
      rw [same]
      exact Bracket.translated_text _
  | false =>
      show translated .linear false ('\\' :: _ :: rest) = _
      rw [translated_pair]
      cases negated <;> cases kind <;> rfl

end WrittenEscape

/-- The body that ties escapes in a row to both ends of the text. -/
def escapesBody (escapes : List WrittenEscape) : List Char :=
  '^' :: (escapes.flatMap WrittenEscape.text ++ ['$'])

/-- The body of escapes is translated to the image of their brackets. -/
theorem engineText_escapesBody (escapes : List WrittenEscape) :
    engineText .linear (escapesBody escapes) = rowImage (escapes.map WrittenEscape.bracket) := by
  have images : translated .linear false (escapes.flatMap WrittenEscape.text ++ ['$']) =
      (escapes.map WrittenEscape.bracket).flatMap (Bracket.image true) ++ ['$'] := by
    induction escapes with
    | nil => rfl
    | cons written others ih =>
        rw [List.flatMap_cons, List.append_assoc, written.translated_text, ih, List.map_cons,
          List.flatMap_cons, List.append_assoc]
  have start : translated .linear false (escapesBody escapes) =
      '^' :: translated .linear false (escapes.flatMap WrittenEscape.text ++ ['$']) :=
    translated_cons (by decide)
  rw [rowImage, ← images, ← start]
  rfl

/-! ### Engines -/

/-- Without a parenthesis no look-around is opened. -/
theorem opensLookAround_eq_false {input : List Char} (unopened : '(' ∉ input) :
    opensLookAround input = false := by
  induction input with
  | nil => rfl
  | cons char rest ih =>
      rw [List.mem_cons, not_or] at unopened
      obtain ⟨other, later⟩ := unopened
      have next := ih later
      unfold opensLookAround
      split
      all_goals first
        | rfl
        | (next same => exact absurd (List.cons.inj same).1.symm other)
        | (next same =>
            obtain ⟨-, rfl⟩ := List.cons.inj same
            exact next)

/-- An escape is written with few characters. -/
theorem WrittenEscape.mem_text {written : WrittenEscape} {char : Char}
    (inside : char ∈ written.text) : char ∈ "[]\\dDwW".toList := by
  obtain ⟨⟨negated, kind⟩, bracketed⟩ := written
  have known : (WrittenEscape.text ⟨⟨negated, kind⟩, bracketed⟩).all
      ("[]\\dDwW".toList.contains ·) = true := by
    cases bracketed <;> cases negated <;> cases kind <;> rfl
  exact List.contains_iff_mem.mp (List.all_eq_true.mp known char inside)

/-- The body of escapes is written with few characters. -/
theorem mem_escapesBody {escapes : List WrittenEscape} {char : Char}
    (inside : char ∈ escapesBody escapes) : char ∈ "^$[]\\dDwW".toList := by
  obtain rfl | rest := List.mem_cons.mp inside
  · decide
  · obtain texts | stop := List.mem_append.mp rest
    · obtain ⟨written, -, here⟩ := List.mem_flatMap.mp texts
      exact List.mem_cons_of_mem _ (List.mem_cons_of_mem _ (WrittenEscape.mem_text here))
    · obtain rfl := List.mem_singleton.mp stop
      decide

/-- An escape refers to no group. -/
theorem refersBack_text (written : WrittenEscape) (rest : List Char) :
    (Token.readAll (written.text ++ rest)).any Token.refersBack =
      (Token.readAll rest).any Token.refersBack := by
  obtain ⟨⟨negated, kind⟩, bracketed⟩ := written
  cases bracketed with
  | false => cases negated <;> cases kind <;> rfl
  | true =>
      have closing : Token.readAll (']' :: rest) = .single ']' :: Token.readAll rest :=
        readAll_cons (by decide)
      have opening (letter : Char) : Token.readAll ('[' :: '\\' :: letter :: ']' :: rest) =
          .single '[' :: .pair letter :: Token.readAll (']' :: rest) := readAll_cons (by decide)
      show (Token.readAll ('[' :: '\\' :: _ :: ']' :: rest)).any Token.refersBack = _
      rw [opening, closing]
      cases negated <;> cases kind <;> rfl

/-- Escapes refer to no group. -/
theorem refersBack_texts (escapes : List WrittenEscape) :
    (Token.readAll (escapes.flatMap WrittenEscape.text ++ ['$'])).any Token.refersBack = false := by
  induction escapes with
  | nil => rfl
  | cons written others ih =>
      rw [List.flatMap_cons, List.append_assoc, refersBack_text, ih]

/-- The body of escapes is left to the linear engine. -/
theorem engineFor_escapesBody (escapes : List WrittenEscape) :
    engineFor (escapesBody escapes) = .linear := by
  have unopened : '(' ∉ escapesBody escapes := fun inside =>
    absurd (mem_escapesBody inside) (by decide)
  have start : Token.readAll (escapesBody escapes) =
      .single '^' :: Token.readAll (escapes.flatMap WrittenEscape.text ++ ['$']) :=
    readAll_cons (by decide)
  have plain : (Token.readAll (escapesBody escapes)).any Token.refersBack = false := by
    rw [start, List.any_cons, refersBack_texts]
    rfl
  rw [engineFor, opensLookAround_eq_false unopened, plain]
  rfl

/-- The text that the engine reads, for flags that leave the ends of lines alone. -/
theorem effective_escapesBody (escapes : List WrittenEscape) {flags : List Char}
    (whole : 'm' ∉ flags) :
    Parts.effective ⟨escapesBody escapes, flags⟩ =
      patternImage (flags.contains 'i') (flags.contains 'y')
        (escapes.map WrittenEscape.bracket) := by
  have lines : flags.contains 'm' = false := by simpa using whole
  rw [Parts.effective, engineFor_escapesBody, engineText_escapesBody, patternImage, flagText]
  simp only [lines, Bool.false_eq_true, if_false, List.append_nil]

/-! ### Sets under the flag for case -/

/-- The two letters that differ from a word character of ASCII in case only. -/
def isCaseOfWord (char : Char) : Bool := char == '\u017f' || char == '\u212a'

/-- The characters of an escape; the case of word characters may be ignored. -/
def ClassEscape.containsUnder (ignoreCase : Bool) (escape : ClassEscape) (char : Char) : Bool :=
  (escape.kind.contains char || (ignoreCase && escape.kind == .word && isCaseOfWord char)) !=
    escape.negated

/-- A set that is closed under case has a complement that is closed, too. -/
theorem any_caseOrbit_not {test : Nat → Bool}
    (closed : ∀ code, test code = true → ∀ other ∈ Unicode.caseOrbit code, test other = true)
    (code : Nat) : (Unicode.caseOrbit code).any (fun other => !test other) = !test code := by
  cases here : test code with
  | true =>
      rw [Bool.not_true, List.any_eq_false]
      intro other inside
      simp [closed code here other inside]
  | false =>
      exact List.any_eq_true.mpr ⟨code, Unicode.mem_caseOrbit code, by simp [here]⟩

namespace AsciiKind

/-- The set of a class with the case of its members ignored. -/
def folded (kind : AsciiKind) : CharSet := .caseClosure (.unionAll kind.sets)

/-- The members of that set that are not of ASCII. -/
def others : AsciiKind → List Nat
  | digit => []
  | word => [0x17f, 0x212a]

/-- A class of ASCII has characters of ASCII alone. -/
theorem lt_of_containsCode {kind : AsciiKind} {code : Nat}
    (inside : (CharSet.unionAll kind.sets).containsCode code = true) : code < 128 := by
  cases kind <;>
    simp [sets, CharSet.unionAll, CharSet.between, CharSet.single, CharSet.containsCode,
      Unicode.inRanges] at inside <;> omega

/-- A folded class has two more letters if it is that of word characters. -/
theorem containsCode_folded (kind : AsciiKind) (code : Nat) :
    kind.folded.containsCode code = true ↔
      (CharSet.unionAll kind.sets).containsCode code = true ∨ code ∈ kind.others := by
  apply Unicode.caseOrbit_any_ascii (fun code => lt_of_containsCode)
  · cases kind <;> decide +kernel
  · cases kind <;> decide +kernel

/-- The set holds the whole orbit of each member. -/
theorem containsCode_orbit {kind : AsciiKind} {code : Nat}
    (inside : kind.folded.containsCode code = true) :
    ∀ other ∈ Unicode.caseOrbit code, kind.folded.containsCode other = true := by
  have ascii : ∀ code < 128, (CharSet.unionAll kind.sets).containsCode code = true →
      ∀ other ∈ Unicode.caseOrbit code, (CharSet.unionAll kind.sets).containsCode other = true ∨
        other ∈ kind.others := by
    intro code small
    rw [Unicode.caseOrbit_ascii small]
    revert code
    cases kind <;> decide +kernel
  have more : ∀ code ∈ kind.others, ∀ other ∈ Unicode.caseOrbit code,
      (CharSet.unionAll kind.sets).containsCode other = true ∨ other ∈ kind.others := by
    cases kind <;> decide +kernel
  intro other known
  rw [containsCode_folded]
  obtain here | extra := (kind.containsCode_folded code).mp inside
  · exact ascii code (lt_of_containsCode here) here other known
  · exact more code extra other known

/-- A folded class has the characters that differ from one of its own in case only. -/
theorem contains_folded (kind : AsciiKind) (char : Char) :
    kind.folded.contains char =
      (kind.contains char || (kind == .word && isCaseOfWord char)) := by
  have plain : (CharSet.unionAll kind.sets).contains char = kind.contains char := by
    rw [contains_unionAll, kind.any_sets]
  have long : char.toNat = 0x17f ↔ char = '\u017f' := Char.toNat_inj (d := '\u017f')
  have kelvin : char.toNat = 0x212a ↔ char = '\u212a' := Char.toNat_inj (d := '\u212a')
  rw [Bool.eq_iff_iff, CharSet.contains, containsCode_folded, Bool.or_eq_true, ← plain]
  cases kind with
  | digit => simp [others, CharSet.contains]
  | word => simp [others, CharSet.contains, isCaseOfWord, long, kelvin]

end AsciiKind

/-- The set of an escape under the flag for case. -/
theorem set_folded (written : WrittenEscape) :
    written.bracket.set ⟨true, false⟩ =
      if written.bracketed then
        if written.escape.negated then .caseClosure (.complement written.escape.kind.folded)
        else written.escape.kind.folded
      else negateIf written.escape.negated written.escape.kind.folded := by
  obtain ⟨⟨negated, kind⟩, bracketed⟩ := written
  cases bracketed <;> cases negated <;> cases kind <;> rfl

/-- With the case ignored the set of an escape is the folded class. -/
theorem contains_set_folded (written : WrittenEscape) (char : Char) :
    (written.bracket.set ⟨true, false⟩).contains char =
      written.escape.containsUnder true char := by
  obtain ⟨⟨negated, kind⟩, bracketed⟩ := written
  have folded := kind.contains_folded char
  have complement : (CharSet.caseClosure (.complement kind.folded)).contains char =
      !kind.folded.contains char :=
    any_caseOrbit_not (fun code inside => AsciiKind.containsCode_orbit inside) char.toNat
  rw [set_folded, ClassEscape.containsUnder, Bool.true_and, ← folded]
  cases bracketed <;> cases negated <;>
    simp [negateIf, complement, Regex.CharSet.contains_complement]

/-- The set of an escape is what it stands for under the flag. -/
theorem contains_set_escape (ignoreCase : Bool) (written : WrittenEscape) (char : Char) :
    (written.bracket.set ⟨ignoreCase, false⟩).contains char =
      written.escape.containsUnder ignoreCase char := by
  cases ignoreCase with
  | true => exact contains_set_folded written char
  | false =>
      have exact : (written.bracket.set .exact).contains char = written.bracket.contains char :=
        written.bracket.contains_set char
      obtain ⟨⟨negated, kind⟩, bracketed⟩ := written
      refine exact.trans ?_
      cases bracketed <;> cases negated <;>
        simp [WrittenEscape.bracket, Bracket.contains, BracketItem.contains, ClassEscape.contains,
          ClassEscape.containsUnder]

/-! ### Sizes -/

/-- The ranges of the set of a class with the case of its members ignored. -/
def AsciiKind.foldedRanges : AsciiKind → Unicode.Ranges
  | digit => [(48, 57)]
  | word => [(48, 57), (65, 90), (95, 95), (97, 122), (383, 383), (8490, 8490)]

/-- The ranges of a folded class are known. -/
theorem AsciiKind.codeRanges_folded (kind : AsciiKind) :
    kind.folded.codeRanges = kind.foldedRanges := by
  have plain : (CharSet.unionAll kind.sets).codeRanges = match kind with
      | digit => [(48, 57)]
      | word => [(48, 57), (65, 90), (95, 95), (97, 122)] := by
    cases kind <;> decide +kernel
  rw [folded, CharSet.codeRanges, plain]
  cases kind with
  | digit => decide +kernel
  | word => decide +kernel

/-- The other characters are closed under case, too. -/
theorem AsciiKind.closeUnderCase_complement (kind : AsciiKind) :
    Unicode.closeUnderCase (Unicode.complement kind.foldedRanges) =
      Unicode.complement kind.foldedRanges := by
  have ranges : Unicode.complement kind.foldedRanges = match kind with
      | digit => [(0, 47), (58, 1114111)]
      | word => [(0, 47), (58, 64), (91, 94), (96, 96), (123, 382), (384, 8489),
          (8491, 1114111)] := by
    cases kind <;> decide +kernel
  have filled : Unicode.Filled kind.foldedRanges := by
    intro range inside
    revert range
    cases kind <;> decide
  apply Unicode.closeUnderCase_of_closed (Unicode.normal_complement filled)
  rw [ranges]
  cases kind with
  | digit => decide +kernel
  | word => decide +kernel

/-- An escape has at most seven ranges. -/
theorem length_codeRanges_escape (ignoreCase : Bool) (written : WrittenEscape) :
    (written.bracket.set ⟨ignoreCase, false⟩).codeRanges.length ≤ 7 := by
  cases ignoreCase with
  | false =>
      have one : written.bracket.items.length = 1 := by
        rw [WrittenEscape.bracket]
        split <;> rfl
      have spans := written.bracket.spans_set_le
      exact Nat.le_trans (CharSet.length_codeRanges_le _) (Nat.le_trans spans (by omega))
  | true =>
      obtain ⟨⟨negated, kind⟩, bracketed⟩ := written
      have few : kind.foldedRanges.length ≤ 6 := by cases kind <;> decide
      have other := Unicode.length_complement_le kind.foldedRanges
      have closed := kind.closeUnderCase_complement
      rw [set_folded]
      cases bracketed <;> cases negated <;>
        simp only [negateIf, if_true, if_false, Bool.false_eq_true, CharSet.codeRanges,
          kind.codeRanges_folded, closed] <;> omega

/-- Escapes take room for seven ranges each. -/
theorem setsCost_escapes_le (ignoreCase : Bool) (escapes : List WrittenEscape) :
    setsCost ⟨ignoreCase, false⟩ (escapes.map WrittenEscape.bracket) ≤ 14768 * escapes.length := by
  induction escapes with
  | nil => exact Nat.zero_le _
  | cons written others ih =>
      have few := length_codeRanges_escape ignoreCase written
      have cost := CharSet.leafCost_le (written.bracket.set ⟨ignoreCase, false⟩)
      rw [setsCost] at ih ⊢
      rw [List.map_cons, List.map_cons, List.sum_cons, List.length_cons]
      omega

/-! ### Patterns -/

/-- A row of escapes between the marks of both ends, and flags that leave the ends of lines alone. -/
structure EscapePattern where
  escapes : List WrittenEscape
  flags : List Char
  known : ∀ flag ∈ flags, flag ∈ ['g', 'i', 'u', 'y']

namespace EscapePattern

def parts (pattern : EscapePattern) : Parts := ⟨escapesBody pattern.escapes, pattern.flags⟩

def source (pattern : EscapePattern) : String := String.ofList pattern.parts.text

def ignoresCase (pattern : EscapePattern) : Bool := pattern.flags.contains 'i'

/-- The parts of a pattern of escapes are delimited. -/
theorem delimited (pattern : EscapePattern) : pattern.parts.Delimited where
  flags flag inside := by
    have marks : ['g', 'i', 'u', 'y'].all Parts.isFlag = true := rfl
    exact List.all_eq_true.mp marks flag (pattern.known flag inside)
  nonempty := List.cons_ne_nil _ _
  oneLine inside := absurd (mem_escapesBody inside) (by decide)

/-- A pattern of escapes is matched by what the linear engine reads of its image. -/
theorem matcher?_eq (pattern : EscapePattern) :
    pattern.parts.matcher? = (Regex.ofText? (patternImage pattern.ignoresCase
      (pattern.flags.contains 'y') (pattern.escapes.map WrittenEscape.bracket))).map .linear := by
  have whole : 'm' ∉ pattern.flags := fun inside =>
    absurd (pattern.known 'm' inside) (by decide)
  have linear : engineFor pattern.parts.body = .linear := engineFor_escapesBody pattern.escapes
  rw [Parts.matcher?, linear]
  exact congrArg (Option.map Matcher.linear) (congrArg Regex.ofText?
    (effective_escapesBody pattern.escapes whole))

/--
A row of escapes is compiled unless it is very long, and then it matches the texts that have one
character of each escape. Under the flag for case the two letters count as word characters.
-/
theorem isMatch_escapes_iff (pattern : EscapePattern) :
    (pattern.escapes.length ≤ 700 → ∃ compiled, ofSource? pattern.source = some compiled) ∧
      ∀ compiled, ofSource? pattern.source = some compiled → ∀ text,
        compiled.isMatch text = true ↔
          List.Forall₂ (fun written char =>
            written.escape.containsUnder pattern.ignoresCase char = true)
            pattern.escapes text.toList := by
  have apart : ∀ bracket ∈ pattern.escapes.map WrittenEscape.bracket,
      bracket.readsApart = true := by
    intro bracket inside
    obtain ⟨written, -, rfl⟩ := List.mem_map.mp inside
    exact written.readsApart_bracket
  have matcher := pattern.matcher?_eq
  rw [ofText?_patternImage pattern.ignoresCase (pattern.flags.contains 'y') apart] at matcher
  constructor
  · intro short
    have cost := setsCost_escapes_le pattern.ignoresCase pattern.escapes
    have room : 14768 * 700 + 336 ≤ Regex.Footprint.limit := by decide
    rw [isCompilable_patternRegexes (by omega), if_pos rfl] at matcher
    rw [source, ofSource?, String.toList_ofList, Parts.ofSource_text pattern.delimited]
    exact ⟨_, congrArg (Option.map _) matcher⟩
  · intro compiled read text
    rw [ofSource?_text pattern.delimited read] at matcher
    split at matcher
    · have same : compiled.matcher = .linear (.seq (patternRegexes pattern.ignoresCase
          (pattern.flags.contains 'y') (pattern.escapes.map WrittenEscape.bracket))) :=
        Option.some.inj matcher
      rw [isMatch, same, Matcher.isMatch, isMatch_patternRegexes, List.forall₂_map_left_iff]
      simp only [contains_set_escape]
    · exact absurd matcher (by simp)

/-- A pattern of one escape under the flag for case. -/
def oneWord : EscapePattern := ⟨[⟨⟨false, .word⟩, false⟩], ['i'], by simp⟩

/-- A word character with the case ignored is one of the pattern for all texts. -/
theorem isMatch_oneWord :
    ∃ compiled, ofSource? "/^\\w$/i" = some compiled ∧ ∀ text, compiled.isMatch text = true ↔
      List.Forall₂ (fun written char =>
        written.escape.containsUnder oneWord.ignoresCase char = true)
        oneWord.escapes text.toList := by
  have source : oneWord.source = "/^\\w$/i" := by decide
  obtain ⟨parses, matched⟩ := isMatch_escapes_iff oneWord
  obtain ⟨compiled, read⟩ := parses (by decide)
  exact ⟨compiled, source ▸ read, matched compiled read⟩

/-- A letter outside of ASCII is taken for a word character. -/
theorem isMatch_longS :
    (ofSource? "/^\\w$/i").map (·.isMatch "\u017f") = some true ∧
      (ClassEscape.contains ⟨false, .word⟩ '\u017f') = false := by
  decide +kernel

end EscapePattern

end TypedJson.Pattern
