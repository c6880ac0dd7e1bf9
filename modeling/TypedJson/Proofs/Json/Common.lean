import Mathlib.Data.List.TakeWhile
import TypedJson.Proofs.Json.Left

/-
This file follows the reader through two texts that start alike. What it reads in the first text it
reads in the second one as well, provided that nothing is read to its end in what the first goes on
with, and the second goes on with nothing or with a character which continues no value. Places play
no part, for they only tell where reading failed.
-/

namespace TypedJson.Json

/-- A text of blanks. -/
inductive Blanks : List Char → Prop
  | nothing : Blanks []
  | space {rest : List Char} (blank : Blanks rest) : Blanks (' ' :: rest)
  | feed {rest : List Char} (blank : Blanks rest) : Blanks ('\n' :: rest)
  | tab {rest : List Char} (blank : Blanks rest) : Blanks ('\t' :: rest)
  | back {rest : List Char} (blank : Blanks rest) : Blanks ('\r' :: rest)

/-- A text whose start continues no value. -/
inductive Ends : List Char → Prop
  | nothing : Ends []
  | space (rest : List Char) : Ends (' ' :: rest)
  | feed (rest : List Char) : Ends ('\n' :: rest)
  | tab (rest : List Char) : Ends ('\t' :: rest)
  | back (rest : List Char) : Ends ('\r' :: rest)
  | comma (rest : List Char) : Ends (',' :: rest)
  | colon (rest : List Char) : Ends (':' :: rest)
  | bracket (rest : List Char) : Ends (']' :: rest)
  | brace (rest : List Char) : Ends ('}' :: rest)
  | stray (rest : List Char) : Ends ('\x7f' :: rest)

/-- A text in which nothing is read to its end: blanks, or the mark of a stray byte with no quote
behind it. -/
inductive Barren : List Char → Prop
  | blanks {text : List Char} (blank : Blanks text) : Barren text
  | stray {rest : List Char} (unquoted : '"' ∉ rest) : Barren ('\x7f' :: rest)

/-- What is left of such a text past blanks. -/
inductive Halt : List Char → Prop
  | nothing : Halt []
  | stray (rest : List Char) : Halt ('\x7f' :: rest)

/-- A character that belongs to no word, numeral or escape. -/
def IsIdle (char : Char) : Prop := Cursor.isBlank char = true ∨ char = '\x7f'

instance (char : Char) : Decidable (IsIdle char) := inferInstanceAs (Decidable (_ ∨ _))

/-- Blanks are read one by one. -/
theorem blanks_iff {text : List Char} :
    Blanks text ↔ ∀ char ∈ text, Cursor.isBlank char = true := by
  constructor
  · intro blank
    induction blank with
    | nothing => simp
    | space _ ih | feed _ ih | tab _ ih | back _ ih =>
        exact List.forall_mem_cons.mpr ⟨rfl, ih⟩
  · intro each
    induction text with
    | nil => exact .nothing
    | cons char rest ih =>
        obtain ⟨blank, others⟩ := List.forall_mem_cons.mp each
        simp only [Cursor.isBlank, Bool.or_eq_true, decide_eq_true_eq] at blank
        obtain ((rfl | rfl) | rfl) | rfl := blank
        · exact .space (ih others)
        · exact .feed (ih others)
        · exact .tab (ih others)
        · exact .back (ih others)

namespace Barren

variable {text : List Char}

/-- What nothing is read to its end in continues no value. -/
theorem ends (barren : Barren text) : Ends text := by
  cases barren with
  | blanks blank => cases blank <;> constructor
  | stray _ => exact .stray _

/-- What nothing is read to its end in has no quote. -/
theorem unquoted (barren : Barren text) : '"' ∉ text := by
  cases barren with
  | blanks blank =>
      intro quoted
      have isBlank := blanks_iff.mp blank _ quoted
      cases isBlank
  | stray unquoted => simpa using unquoted

/-- What nothing is read to its end in starts with a character of no word. -/
theorem isIdle_head {char : Char} {rest : List Char} (barren : Barren (char :: rest)) :
    IsIdle char := by
  cases barren with
  | blanks blank => exact .inl (blanks_iff.mp blank char List.mem_cons_self)
  | stray _ => exact .inr rfl

/-- Past blanks, nothing or the mark of a stray byte is left. -/
theorem halt (barren : Barren text) : Halt (text.dropWhile Cursor.isBlank) := by
  cases barren with
  | blanks blank =>
      rw [List.dropWhile_eq_nil_iff.mpr (blanks_iff.mp blank)]
      exact .nothing
  | stray _ => exact .stray _

end Barren

/-- How two texts go on after what they have in common. -/
structure Tails (left right : List Char) : Prop where
  barren : Barren left
  ends : Ends right

/-- Two cursors before texts that start alike. -/
def Common (left right : List Char) (here there : Cursor) : Prop :=
  ∃ chars, here.rest = chars ++ left ∧ there.rest = chars ++ right

/-- The same item was read, and what is left starts alike. -/
def CommonAfter {Item : Type} (left right : List Char) (here there : Item × Cursor) : Prop :=
  there.1 = here.1 ∧ Common left right here.2 there.2

/-- Past blanks: the first text halts, or both texts go on with one character. -/
def Ahead (left right : List Char) (here there : Cursor) : Prop :=
  Halt here.rest ∨
    ∃ char chars, here.rest = char :: (chars ++ left) ∧ there.rest = char :: (chars ++ right)

/-- Where the first result is an item, so is the second, and the items are related. -/
def Carried {First Second : Type} (related : First → Second → Prop)
    (result : Except Failure First) (other : Except Failure Second) : Prop :=
  ∀ item, result = .ok item → ∃ found, other = .ok found ∧ related item found

namespace Carried

variable {First Second FirstNext SecondNext : Type} {related : First → Second → Prop}
  {relatedNext : FirstNext → SecondNext → Prop}

theorem error (failure : Failure) (other : Except Failure Second) :
    Carried related (.error failure) other := by
  intro item read
  simp at read

/-- After a failure nothing is asked of the other text. -/
theorem failNext (cursor : Cursor) (fault : Fault) (other : Except Failure Second) :
    Carried related (cursor.failNext fault) other := error _ _

/-- After a failure nothing is asked of the other text. -/
theorem of_fails {result : Except Failure First} (fails : ∃ failure, result = .error failure)
    (other : Except Failure Second) : Carried related result other := by
  obtain ⟨failure, rfl⟩ := fails
  exact error failure other

theorem ok {first : First} {second : Second} (both : related first second) :
    Carried related (.ok first) (.ok second) := by
  intro item read
  obtain rfl := Except.ok.inj read
  exact ⟨second, rfl, both⟩

theorem bind {result : Except Failure First} {other : Except Failure Second}
    {next : First → Except Failure FirstNext} {nextOther : Second → Except Failure SecondNext}
    (carried : Carried related result other)
    (each : ∀ item found, related item found →
      Carried relatedNext (next item) (nextOther found)) :
    Carried relatedNext (result >>= next) (other >>= nextOther) := by
  cases result with
  | error failure => exact error failure _
  | ok item =>
      obtain ⟨found, rfl, both⟩ := carried item rfl
      exact each item found both

theorem map {result : Except Failure First} {other : Except Failure Second}
    {change : First → FirstNext} {changeOther : Second → SecondNext}
    (carried : Carried related result other)
    (each : ∀ item found, related item found → relatedNext (change item) (changeOther found)) :
    Carried relatedNext (result.map change) (other.map changeOther) := by
  intro item made
  obtain ⟨before, isResult, rfl⟩ := map_eq_ok.mp made
  obtain ⟨found, rfl, both⟩ := carried before isResult
  exact ⟨_, rfl, each before found both⟩

end Carried

variable {left right : List Char} {here there : Cursor}

namespace Common

/-- The common part is a list of characters. -/
theorem exists_chars (common : Common left right here there) :
    ∃ chars place other, here = ⟨chars ++ left, place⟩ ∧ there = ⟨chars ++ right, other⟩ := by
  obtain ⟨hereRest, place⟩ := here
  obtain ⟨thereRest, other⟩ := there
  obtain ⟨chars, rfl, rfl⟩ := common
  exact ⟨chars, place, other, rfl, rfl⟩

/-- Skipping within the common part leaves the texts with a common part. -/
theorem skipMany {count : Nat} {chars : List Char} (within : count ≤ chars.length)
    (left right : List Char) (place other : Place) :
    Common left right (Cursor.skipMany ⟨chars ++ left, place⟩ count)
      (Cursor.skipMany ⟨chars ++ right, other⟩ count) := by
  refine ⟨chars.drop count, ?_, ?_⟩
  · rw [Cursor.rest_skipMany, List.drop_append_of_le_length within]
  · rw [Cursor.rest_skipMany, List.drop_append_of_le_length within]

/-- Past a character that both texts go on with. -/
theorem past (char : Char) (chars left right : List Char) (place other : Place) :
    Common left right (Cursor.skip ⟨char :: (chars ++ left), place⟩)
      (Cursor.skip ⟨char :: (chars ++ right), other⟩) :=
  ⟨chars, rfl, rfl⟩

theorem same (char : Char) (chars left right : List Char) (place other : Place) :
    Common left right ⟨char :: (chars ++ left), place⟩ ⟨char :: (chars ++ right), other⟩ :=
  ⟨char :: chars, rfl, rfl⟩

variable {First Second : Type} {related : First → Second → Prop}
  {read : Cursor → Except Failure First} {readThere : Cursor → Except Failure Second}

/-- Reading fails where the first text goes on alone, and elsewhere it depends on the first
character. -/
theorem carried (common : Common left right here there)
    (fails : ∀ place, ∃ failure, read ⟨left, place⟩ = .error failure)
    (first : ∀ char chars place other, Carried related (read ⟨char :: (chars ++ left), place⟩)
      (readThere ⟨char :: (chars ++ right), other⟩)) :
    Carried related (read here) (readThere there) := by
  obtain ⟨chars, place, other, rfl, rfl⟩ := common.exists_chars
  cases chars with
  | nil => exact .of_fails (fails place) _
  | cons char chars => exact first char chars place other

end Common

/-- Past blanks, reading fails at the end of the text and at the mark of a stray byte. -/
theorem Ahead.carried {First Second : Type} {related : First → Second → Prop}
    {read : Cursor → Except Failure First} {readThere : Cursor → Except Failure Second}
    (ahead : Ahead left right here there)
    (fails : ∀ place, ∃ failure, read ⟨[], place⟩ = .error failure)
    (failsStray : ∀ rest place, ∃ failure, read ⟨'\x7f' :: rest, place⟩ = .error failure)
    (first : ∀ char chars place other, Carried related (read ⟨char :: (chars ++ left), place⟩)
      (readThere ⟨char :: (chars ++ right), other⟩)) :
    Carried related (read here) (readThere there) := by
  obtain ⟨hereRest, place⟩ := here
  obtain ⟨thereRest, other⟩ := there
  obtain halt | ⟨char, chars, rfl, rfl⟩ := ahead
  · cases halt with
    | nothing => exact .of_fails (fails place) _
    | stray rest => exact .of_fails (failsStray rest place) _
  · exact first char chars place other

/-- Past blanks the texts go on together, or the first one halts. -/
theorem Common.skipBlanks (tails : Tails left right) (common : Common left right here there) :
    Ahead left right here.skipBlanks there.skipBlanks := by
  obtain ⟨chars, ofHere, ofThere⟩ := common
  rw [Ahead, Cursor.rest_skipBlanks, Cursor.rest_skipBlanks, ofHere, ofThere,
    List.dropWhile_append, List.dropWhile_append]
  cases chars.dropWhile Cursor.isBlank with
  | nil => exact .inl tails.barren.halt
  | cons char chars => exact .inr ⟨char, chars, rfl, rfl⟩

namespace Reader

/-- No word starts where the first text goes on alone. -/
theorem word_barren {letter : Char} {letters : List Char} (busy : ¬IsIdle letter)
    (barren : Barren left) (place : Place) :
    ∃ failure, word (letter :: letters) ⟨left, place⟩ = .error failure := by
  cases left with
  | nil => exact ⟨_, rfl⟩
  | cons char rest =>
      refine ⟨_, if_neg ?_⟩
      rintro rfl
      exact busy barren.isIdle_head

/-- A word that is read in the first text is read in the second one. -/
theorem carried_word (tails : Tails left right) {letters : List Char}
    (busy : ∀ letter ∈ letters, ¬IsIdle letter)
    (common : Common left right here there) :
    Carried (Common left right) (word letters here) (word letters there) := by
  induction letters generalizing here there with
  | nil => exact .ok common
  | cons letter letters ih =>
      obtain ⟨first, others⟩ := List.forall_mem_cons.mp busy
      apply common.carried (word_barren first tails.barren)
      intro char chars place other
      simp only [word]
      split
      · exact ih others (.past ..)
      · exact .error _ _

/-- Characters of no word are no digits. -/
theorem hexDigit?_idle {char : Char} (idle : IsIdle char) : hexDigit? char = none := by
  obtain blank | rfl := idle
  · simp only [Cursor.isBlank, Bool.or_eq_true, decide_eq_true_eq] at blank
    obtain ((rfl | rfl) | rfl) | rfl := blank <;> rfl
  · rfl

/-- With a character of no word among them, four characters are no code. -/
theorem unit?_idle {first second third fourth : Char}
    (idle : IsIdle first ∨ IsIdle second ∨ IsIdle third ∨ IsIdle fourth) :
    unit? first second third fourth = none := by
  obtain idle | idle | idle | idle := idle <;> simp [unit?, hexDigit?_idle idle]

/-- A text has no more characters than bytes. -/
theorem length_le_utf8Length (chars : List Char) : chars.length ≤ utf8Length chars := by
  have counted (chars : List Char) (sum : Nat) :
      sum + chars.length ≤ chars.foldl (fun sum char => sum + char.utf8Size) sum := by
    induction chars generalizing sum with
    | nil => exact Nat.le_refl sum
    | cons char rest ih =>
        have positive := char.utf8Size_pos
        have others := ih (sum + char.utf8Size)
        rw [List.foldl_cons, List.length_cons]
        omega
  simpa [utf8Length] using counted chars 0

/-- Four characters are a code or a failure. -/
theorem hexUnit_four (first second third fourth : Char) (rest : List Char) (place : Place) :
    hexUnit ⟨first :: second :: third :: fourth :: rest, place⟩ =
      match unit? first second third fourth with
      | some unit =>
        .ok (unit, Cursor.skipMany ⟨first :: second :: third :: fourth :: rest, place⟩ 4)
      | none => .error ⟨.badEscape,
          Cursor.placeAfter place (first :: second :: third :: fourth :: rest) 4, []⟩ := by
  have enough := length_le_utf8Length (first :: second :: third :: fourth :: rest)
  simp only [List.length_cons] at enough
  unfold hexUnit
  exact if_neg (by dsimp only; omega)

/-- A unit that is not complete in the common part takes in a character that is no digit. -/
theorem hexUnit_few {chars : List Char} (few : chars.length < 4) (barren : Barren left)
    (place : Place) : ∃ failure, hexUnit ⟨chars ++ left, place⟩ = .error failure := by
  unfold hexUnit
  split
  · exact ⟨_, rfl⟩
  · split
    · rename_i first second third fourth rest found
      have head {char : Char} {rest : List Char} (same : left = char :: rest) : IsIdle char :=
        (same ▸ barren).isIdle_head
      have none : unit? first second third fourth = none := by
        apply unit?_idle
        rcases chars with _ | ⟨_, _ | ⟨_, _ | ⟨_, _ | ⟨_, chars⟩⟩⟩⟩
        · exact .inl (head found)
        · simp at found
          exact .inr (.inl (head found.2))
        · simp at found
          exact .inr (.inr (.inl (head found.2.2)))
        · simp at found
          exact .inr (.inr (.inr (head found.2.2.2)))
        · simp at few
          omega
      rw [none]
      exact ⟨_, rfl⟩
    · exact ⟨_, rfl⟩

/-- A code that is read in the first text is read in the second one. -/
theorem carried_hexUnit (tails : Tails left right) (common : Common left right here there) :
    Carried (CommonAfter left right) (hexUnit here) (hexUnit there) := by
  obtain ⟨chars, place, other, rfl, rfl⟩ := common.exists_chars
  by_cases few : chars.length < 4
  · exact .of_fails (hexUnit_few few tails.barren place) _
  · rcases chars with _ | ⟨first, _ | ⟨second, _ | ⟨third, _ | ⟨fourth, chars⟩⟩⟩⟩
    case cons.cons.cons.cons =>
      have within : 4 ≤ (first :: second :: third :: fourth :: chars).length := by simp
      have skipped := Common.skipMany within left right place other
      simp only [List.cons_append, hexUnit_four]
      cases unit? first second third fourth with
      | none => exact .error _ _
      | some unit => exact .ok ⟨rfl, skipped⟩
    all_goals exact absurd (by simp) few

/-- A character between two codes is found in both texts. -/
theorem carried_expectInPair {expected : Char} (busy : ¬IsIdle expected)
    (tails : Tails left right) (common : Common left right here there) :
    Carried (Common left right) (expectInPair expected here) (expectInPair expected there) := by
  apply common.carried
  · intro place
    have barren := tails.barren
    cases left with
    | nil => exact ⟨_, rfl⟩
    | cons char rest =>
        refine ⟨_, if_neg ?_⟩
        rintro rfl
        exact busy barren.isIdle_head
  · intro char chars place other
    simp only [expectInPair]
    split
    · exact .ok (.past ..)
    · exact .error _ _

/-- An escape by code is read the same in both texts. -/
theorem carried_unicodeEscape (tails : Tails left right) (common : Common left right here there) :
    Carried (CommonAfter left right) (unicodeEscape here) (unicodeEscape there) := by
  unfold unicodeEscape
  apply (carried_hexUnit tails common).bind
  rintro ⟨unit, here⟩ ⟨_, there⟩ ⟨rfl, common⟩
  dsimp only at common ⊢
  split
  · exact .error _ _
  · split
    · apply (carried_expectInPair (by decide) tails common).bind
      intro here there common
      apply (carried_expectInPair (by decide) tails common).bind
      intro here there common
      apply (carried_hexUnit tails common).bind
      rintro ⟨low, here⟩ ⟨_, there⟩ ⟨rfl, common⟩
      dsimp only at common ⊢
      split
      · exact .ok ⟨rfl, common⟩
      · exact .error _ _
    · exact .ok ⟨rfl, common⟩

/-- No escape starts where the first text goes on alone. -/
theorem escape_barren (barren : Barren left) (place : Place) :
    ∃ failure, escape ⟨left, place⟩ = .error failure := by
  cases barren with
  | blanks blank => cases blank <;> exact ⟨_, rfl⟩
  | stray _ => exact ⟨_, rfl⟩

/-- An escape is read the same in both texts. -/
theorem carried_escape (tails : Tails left right) (common : Common left right here there) :
    Carried (CommonAfter left right) (escape here) (escape there) := by
  apply common.carried (escape_barren tails.barren)
  intro char chars place other
  unfold escape
  dsimp only
  split
  case h_1 => exact .error _ _
  case h_11 => exact .error _ _
  case h_10 =>
    rename_i letter
    obtain ⟨rfl, rfl⟩ := List.cons.inj letter
    exact carried_unicodeEscape tails (.past ..)
  all_goals
    rename_i letter
    obtain ⟨rfl, rfl⟩ := List.cons.inj letter
    exact .ok ⟨rfl, .past ..⟩

/-- A plain character of a string is taken, unless it is a control character. -/
theorem stringBody_plain {char : Char} (notQuote : char ≠ '"') (notBackslash : char ≠ '\\')
    (fuel : Nat) (done chars : List Char) (place : Place) :
    stringBody (fuel + 1) done ⟨char :: chars, place⟩ =
      if char.toNat < 0x20 then Cursor.failNext ⟨char :: chars, place⟩ .controlCharacter
      else stringBody fuel (char :: done) (Cursor.skip ⟨char :: chars, place⟩) := by
  simp [stringBody]

/-- Without a quote, the end of a string is missing. -/
theorem stringBody_unquoted {cursor : Cursor} (unquoted : '"' ∉ cursor.rest) (fuel : Nat)
    (done : List Char) : ∃ failure, stringBody fuel done cursor = .error failure := by
  induction fuel generalizing done cursor with
  | zero => exact ⟨_, rfl⟩
  | succ fuel ih =>
      have later {after : Cursor} (reaches : cursor.Reaches after) : '"' ∉ after.rest :=
        fun quoted => unquoted (List.IsSuffix.subset reaches quoted)
      unfold stringBody
      split
      · exact ⟨_, rfl⟩
      · rename_i quote
        exact absurd (quote ▸ List.mem_cons_self) unquoted
      · split
        · rename_i escaped
          exact ih (later (.trans (.skip cursor) (reaches_escape escaped))) _
        · exact ⟨_, rfl⟩
      · split
        · exact ⟨_, rfl⟩
        · exact ih (later (.skip cursor)) _

/-- The rest of a string is read the same in both texts. -/
theorem carried_stringBody (tails : Tails left right) {fuel larger : Nat} (enough : fuel ≤ larger)
    (done : List Char) (common : Common left right here there) :
    Carried (CommonAfter left right) (stringBody fuel done here)
      (stringBody larger done there) := by
  induction fuel generalizing larger done here there with
  | zero => exact .error _ _
  | succ fuel ih =>
      obtain ⟨larger, rfl⟩ : ∃ less, larger = less + 1 := ⟨larger - 1, by omega⟩
      have enough : fuel ≤ larger := Nat.le_of_succ_le_succ enough
      apply common.carried fun _ => stringBody_unquoted tails.barren.unquoted _ _
      intro char chars place other
      by_cases quote : char = '"'
      · subst quote
        exact .ok ⟨rfl, .past ..⟩
      by_cases backslash : char = '\\'
      · subst backslash
        have carried := carried_escape tails (.past '\\' chars left right place other)
        simp only [stringBody]
        split
        · rename_i escaped after read
          obtain ⟨⟨_, after'⟩, found, rfl, common⟩ := carried _ read
          rw [found]
          exact ih enough _ common
        · exact .error _ _
      rw [stringBody_plain quote backslash, stringBody_plain quote backslash]
      split
      · exact .error _ _
      · exact ih enough _ (.past ..)

/-- A string is read the same in both texts. -/
theorem carried_string (tails : Tails left right) (common : Common left right here there) :
    Carried (CommonAfter left right) (string here) (string there) := by
  intro item read
  obtain ⟨found, other, both⟩ := carried_stringBody tails (Nat.le_refl _) [] common _ read
  exact ⟨found, stringBody_enough (Nat.lt_succ_self _) other, both⟩

end Reader

namespace Numeral

/-- Digits are followed by the same text, and then by what comes next. -/
theorem digits_append (ends : Ends right) (chars : List Char) :
    digits (chars ++ right) = ((digits chars).1, (digits chars).2 ++ right) := by
  induction chars with
  | nil => cases ends <;> rfl
  | cons char rest ih =>
      rw [List.cons_append, digits, digits, ih]
      split <;> rfl

/-- A float is made the same in both texts. -/
theorem carried_scaled (negative : Bool) (significand : Nat) (exponent : Int)
    (common : Common left right here there) :
    Carried (CommonAfter left right) (scaled negative significand exponent here)
      (scaled negative significand exponent there) := by
  unfold scaled
  cases Binary64.ofScaled? significand exponent with
  | none => exact .error _ _
  | some value => exact .ok ⟨rfl, common⟩

/-- An exponent is read the same in both texts. -/
theorem carried_afterExponentSign (tails : Tails left right) (negative : Bool)
    (significand : Nat) (scale : Int) (downward : Bool)
    (common : Common left right here there) :
    Carried (CommonAfter left right) (afterExponentSign negative significand scale downward here)
      (afterExponentSign negative significand scale downward there) := by
  obtain ⟨chars, place, other, rfl, rfl⟩ := common.exists_chars
  have within := length_digits_le chars
  unfold afterExponentSign
  rw [digits_append tails.barren.ends, digits_append tails.ends]
  generalize digits chars = found at within ⊢
  obtain ⟨found, rest⟩ := found
  cases found with
  | nil => dsimp only; split <;> exact .error _ _
  | cons digit others =>
      have past := Common.skipMany within left right place other
      dsimp only
      split
      · exact carried_scaled _ _ _ past
      · split
        · exact .error _ _
        · exact .ok ⟨rfl, past⟩

/-- Without a sign an exponent is positive. -/
theorem afterExponentLetter_plain {char : Char} (notPlus : char ≠ '+') (notMinus : char ≠ '-')
    (negative : Bool) (significand : Nat) (scale : Int) (rest : List Char) (place : Place) :
    afterExponentLetter negative significand scale ⟨char :: rest, place⟩ =
      afterExponentSign negative significand scale false ⟨char :: rest, place⟩ := by
  simp [afterExponentLetter, notPlus, notMinus]

/-- No exponent starts where the first text goes on alone. -/
theorem afterExponentLetter_barren (barren : Barren left) (negative : Bool) (significand : Nat)
    (scale : Int) (place : Place) :
    ∃ failure, afterExponentLetter negative significand scale ⟨left, place⟩ = .error failure := by
  cases barren with
  | blanks blank => cases blank <;> exact ⟨_, rfl⟩
  | stray _ => exact ⟨_, rfl⟩

/-- An exponent with its sign is read the same in both texts. -/
theorem carried_afterExponentLetter (tails : Tails left right) (negative : Bool)
    (significand : Nat) (scale : Int) (common : Common left right here there) :
    Carried (CommonAfter left right) (afterExponentLetter negative significand scale here)
      (afterExponentLetter negative significand scale there) := by
  apply common.carried (afterExponentLetter_barren tails.barren _ _ _)
  intro char chars place other
  have carried (downward : Bool) {here there : Cursor} (common : Common left right here there) :=
    carried_afterExponentSign tails negative significand scale downward common
  by_cases plus : char = '+'
  · subst plus
    exact carried false (.past ..)
  by_cases minus : char = '-'
  · subst minus
    exact carried true (.past ..)
  rw [afterExponentLetter_plain plus minus, afterExponentLetter_plain plus minus]
  exact carried false (.same char chars left right place other)

/-- A numeral that ends needs no exponent. -/
theorem beforeExponent_ends {rest : List Char} (ends : Ends rest) (negative : Bool)
    (significand : Nat) (scale : Int) (place : Place) :
    beforeExponent negative significand scale ⟨rest, place⟩ =
      scaled negative significand scale ⟨rest, place⟩ := by
  cases ends <;> rfl

/-- What follows the digits of a fraction is read the same in both texts. -/
theorem carried_beforeExponent (tails : Tails left right) (negative : Bool) (significand : Nat)
    (scale : Int) (common : Common left right here there) :
    Carried (CommonAfter left right) (beforeExponent negative significand scale here)
      (beforeExponent negative significand scale there) := by
  have plain := carried_scaled negative significand scale common
  have carried {here there : Cursor} (common : Common left right here there) :=
    carried_afterExponentLetter tails negative significand scale common
  obtain ⟨chars, place, other, rfl, rfl⟩ := common.exists_chars
  cases chars with
  | nil =>
      -- the common part ends with the numeral, and neither text goes on with it
      rw [List.nil_append, List.nil_append] at plain ⊢
      rw [beforeExponent_ends tails.barren.ends, beforeExponent_ends tails.ends]
      exact plain
  | cons char chars =>
      by_cases lower : char = 'e'
      · subst lower
        exact carried (.past ..)
      by_cases upper : char = 'E'
      · subst upper
        exact carried (.past ..)
      simpa [beforeExponent, lower, upper] using plain

/-- A fraction is read the same in both texts. -/
theorem carried_afterPoint (tails : Tails left right) (negative : Bool) (significand : Nat)
    (scale : Int) (common : Common left right here there) :
    Carried (CommonAfter left right) (afterPoint negative significand scale here)
      (afterPoint negative significand scale there) := by
  obtain ⟨chars, place, other, rfl, rfl⟩ := common.exists_chars
  have within := length_digits_le chars
  unfold afterPoint
  rw [digits_append tails.barren.ends, digits_append tails.ends]
  generalize digits chars = found at within ⊢
  obtain ⟨found, rest⟩ := found
  cases found with
  | nil => dsimp only; split <;> exact .error _ _
  | cons digit others =>
      exact carried_beforeExponent tails _ _ _ (.skipMany within left right place other)

/-- An integer is made the same in both texts. -/
theorem carried_whole (negative : Bool) (significand : Nat)
    (common : Common left right here there) :
    Carried (CommonAfter left right) (whole negative significand here)
      (whole negative significand there) := by
  unfold whole
  dsimp only
  split
  · exact .ok ⟨rfl, common⟩
  · split
    · exact .ok ⟨rfl, common⟩
    · exact .ok ⟨rfl, common⟩

/-- Before what continues no value a numeral is over. -/
theorem afterWhole_ends {rest : List Char} (ends : Ends rest) (negative : Bool)
    (significand scale : Nat) (place : Place) :
    afterWhole negative significand scale ⟨rest, place⟩ =
      if scale = 0 then whole negative significand ⟨rest, place⟩
      else scaled negative significand scale ⟨rest, place⟩ := by
  cases ends <;> rfl

/-- What follows the digits before a point is read the same in both texts. -/
theorem carried_afterWhole (tails : Tails left right) (negative : Bool)
    (significand scale : Nat) (common : Common left right here there) :
    Carried (CommonAfter left right) (afterWhole negative significand scale here)
      (afterWhole negative significand scale there) := by
  have plain : Carried (CommonAfter left right)
      (if scale = 0 then whole negative significand here
        else scaled negative significand scale here)
      (if scale = 0 then whole negative significand there
        else scaled negative significand scale there) := by
    split
    · exact carried_whole _ _ common
    · exact carried_scaled _ _ _ common
  obtain ⟨chars, place, other, rfl, rfl⟩ := common.exists_chars
  cases chars with
  | nil =>
      rw [List.nil_append, List.nil_append] at plain ⊢
      rw [afterWhole_ends tails.barren.ends, afterWhole_ends tails.ends]
      exact plain
  | cons char chars =>
      by_cases point : char = '.'
      · subst point
        exact carried_afterPoint tails _ _ _ (.past ..)
      by_cases lower : char = 'e'
      · subst lower
        exact carried_afterExponentLetter tails _ _ _ (.past ..)
      by_cases upper : char = 'E'
      · subst upper
        exact carried_afterExponentLetter tails _ _ _ (.past ..)
      simpa [afterWhole, point, lower, upper] using plain

/-- A numeral is read the same in both texts. -/
theorem carried_read (tails : Tails left right) (negative : Bool)
    (common : Common left right here there) :
    Carried (CommonAfter left right) (read negative here) (read negative there) := by
  obtain ⟨chars, place, other, rfl, rfl⟩ := common.exists_chars
  have within := length_digits_le chars
  unfold read
  rw [digits_append tails.barren.ends, digits_append tails.ends]
  generalize digits chars = found at within ⊢
  obtain ⟨found, rest⟩ := found
  cases found with
  | nil => dsimp only; split <;> exact .error _ _
  | cons digit others =>
      have carried := carried_afterWhole tails negative (absorb 0 0 (digit :: others)).1
        (absorb 0 0 (digit :: others)).2.2.length (.skipMany within left right place other)
      cases digit with
      | zero =>
          cases others with
          | nil => exact carried
          | cons second others => exact .error _ _
      | succ digit => exact carried

end Numeral

namespace Reader

/-- An item follows in both texts, or in neither; or else the first text halts there. -/
def NextItem (left right : List Char) (result other : Except Failure (Option Cursor)) : Prop :=
  ∀ item, result = .ok item → (∃ cursor, item = some cursor ∧ Halt cursor.rest) ∨
    ∃ found, other = .ok found ∧ Option.Rel (Common left right) item found

namespace NextItem

theorem failNext (cursor : Cursor) (fault : Fault) (other : Except Failure (Option Cursor)) :
    NextItem left right (cursor.failNext fault) other := by
  intro item made
  simp [Cursor.failNext] at made

/-- No item follows in either text. -/
theorem absent : NextItem left right (.ok none) (.ok none) := by
  rintro _ made
  obtain rfl := Except.ok.inj made
  exact .inr ⟨_, rfl, .none⟩

/-- An item follows in both texts. -/
theorem present (common : Common left right here there) :
    NextItem left right (.ok (some here)) (.ok (some there)) := by
  rintro _ made
  obtain rfl := Except.ok.inj made
  exact .inr ⟨_, rfl, .some common⟩

theorem halts {rest : List Char} (halt : Halt rest) (place : Place)
    (other : Except Failure (Option Cursor)) :
    NextItem left right (.ok (some ⟨rest, place⟩)) other := by
  rintro _ made
  obtain rfl := Except.ok.inj made
  exact .inl ⟨_, rfl, halt⟩

/-- Reading on fails where the first text halts. -/
theorem bind {First Second : Type} {related : First → Second → Prop}
    {result other : Except Failure (Option Cursor)} {next : Option Cursor → Except Failure First}
    {nextOther : Option Cursor → Except Failure Second} (item : NextItem left right result other)
    (fails : ∀ cursor, Halt cursor.rest → ∃ failure, next (.some cursor) = .error failure)
    (each : ∀ here there, Option.Rel (Common left right) here there →
      Carried related (next here) (nextOther there)) :
    Carried related (result >>= next) (other >>= nextOther) := by
  cases result with
  | error failure => exact .error failure _
  | ok first =>
      obtain ⟨cursor, rfl, halt⟩ | ⟨second, rfl, both⟩ := item first rfl
      · exact .of_fails (fails cursor halt) _
      · exact each first second both

end NextItem

/-- The next item of a list is found in both texts, or the first one halts. -/
theorem carried_nextItem (tails : Tails left right) (first : Bool)
    (common : Common left right here there) :
    NextItem left right (nextItem first here) (nextItem first there) := by
  have past := common.skipBlanks tails
  unfold nextItem
  generalize here.skipBlanks = here at past
  generalize there.skipBlanks = there at past
  obtain ⟨hereRest, place⟩ := here
  obtain ⟨thereRest, other⟩ := there
  obtain halt | ⟨char, chars, rfl, rfl⟩ := past
  · cases halt with
    | nothing => exact .failNext _ _ _
    | stray rest =>
        cases first with
        | true => exact .halts (.stray rest) _ _
        | false => exact .failNext _ _ _
  by_cases bracket : char = ']'
  · subst bracket
    exact .absent
  cases first with
  | true => simpa [bracket] using NextItem.present (.same char chars left right place other)
  | false =>
      by_cases comma : char = ','
      · subst comma
        have later := (Common.past ',' chars left right place other).skipBlanks tails
        simp only [Bool.false_eq_true, ↓reduceIte]
        generalize (Cursor.skip ⟨',' :: (chars ++ left), place⟩).skipBlanks = here at later
        generalize (Cursor.skip ⟨',' :: (chars ++ right), other⟩).skipBlanks = there at later
        obtain ⟨hereRest, place⟩ := here
        obtain ⟨thereRest, other⟩ := there
        obtain halt | ⟨char, chars, rfl, rfl⟩ := later
        · cases halt with
          | nothing => exact .failNext _ _ _
          | stray rest => exact .halts (.stray rest) _ _
        by_cases bracket : char = ']'
        · subst bracket
          exact .failNext _ _ _
        · simpa [bracket] using NextItem.present (.same char chars left right place other)
      · simpa [bracket, comma] using NextItem.failNext _ _ _

/-- A list ends in both texts. -/
theorem carried_endItems (tails : Tails left right) (common : Common left right here there) :
    Carried (Common left right) (endItems here) (endItems there) := by
  have past := common.skipBlanks tails
  unfold endItems
  generalize here.skipBlanks = here at past
  generalize there.skipBlanks = there at past
  apply past.carried (fun _ => ⟨_, rfl⟩) (fun _ _ => ⟨_, rfl⟩)
  intro char chars place other
  by_cases bracket : char = ']'
  · subst bracket
    exact .ok (.past ..)
  by_cases comma : char = ','
  · subst comma
    simp only []
    split <;> exact .failNext _ _ _
  simpa [bracket, comma] using Carried.failNext _ _ _

/-- The next key of an object is found in both texts. -/
theorem carried_nextKey (tails : Tails left right) (first : Bool)
    (common : Common left right here there) :
    Carried (Option.Rel (Common left right)) (nextKey first here) (nextKey first there) := by
  have past := common.skipBlanks tails
  unfold nextKey
  generalize here.skipBlanks = here at past
  generalize there.skipBlanks = there at past
  apply past.carried (fun _ => ⟨_, rfl⟩) (fun _ _ => by cases first <;> exact ⟨_, rfl⟩)
  intro char chars place other
  by_cases brace : char = '}'
  · subst brace
    exact .ok .none
  cases first with
  | true =>
      by_cases quote : char = '"'
      · subst quote
        exact .ok (.some (.past ..))
      · simpa [brace, quote] using Carried.failNext _ _ _
  | false =>
      by_cases comma : char = ','
      · subst comma
        have later := (Common.past ',' chars left right place other).skipBlanks tails
        simp only [Bool.false_eq_true, ↓reduceIte]
        generalize (Cursor.skip ⟨',' :: (chars ++ left), place⟩).skipBlanks = here at later
        generalize (Cursor.skip ⟨',' :: (chars ++ right), other⟩).skipBlanks = there at later
        apply later.carried (fun _ => ⟨_, rfl⟩) (fun _ _ => ⟨_, rfl⟩)
        intro char chars place other
        by_cases quote : char = '"'
        · subst quote
          exact .ok (.some (.past ..))
        by_cases brace : char = '}'
        · subst brace
          exact .failNext _ _ _
        simpa [brace, quote] using Carried.failNext _ _ _
      · simpa [brace, comma] using Carried.failNext _ _ _

/-- The next member of an object is found in both texts. -/
theorem carried_nextMember (tails : Tails left right) (first : Bool)
    (common : Common left right here there) :
    Carried (Option.Rel (CommonAfter left right)) (nextMember first here)
      (nextMember first there) := by
  have key := carried_nextKey tails first common
  unfold nextMember
  split
  · exact .error _ _
  · rename_i found
    obtain ⟨_, other, both⟩ := key _ found
    cases both
    rw [other]
    exact .ok .none
  · rename_i here found
    obtain ⟨_, other, both⟩ := key _ found
    cases both with
    | some common =>
        have text := carried_string tails common
        rw [other]
        dsimp only
        split
        · exact .error _ _
        · rename_i read
          obtain ⟨after, other, both⟩ := text _ read
          rw [other]
          exact .ok (.some both)

/-- A colon is found in both texts. -/
theorem carried_colon (tails : Tails left right) (common : Common left right here there) :
    Carried (Common left right) (colon here) (colon there) := by
  have past := common.skipBlanks tails
  unfold colon
  generalize here.skipBlanks = here at past
  generalize there.skipBlanks = there at past
  apply past.carried (fun _ => ⟨_, rfl⟩) (fun _ _ => ⟨_, rfl⟩)
  intro char chars place other
  by_cases colon : char = ':'
  · subst colon
    exact .ok (.past ..)
  simpa [colon] using Carried.failNext _ _ _

/-- An object ends in both texts. -/
theorem carried_endMembers (tails : Tails left right) (common : Common left right here there) :
    Carried (Common left right) (endMembers here) (endMembers there) := by
  have past := common.skipBlanks tails
  unfold endMembers
  generalize here.skipBlanks = here at past
  generalize there.skipBlanks = there at past
  apply past.carried (fun _ => ⟨_, rfl⟩) (fun _ _ => ⟨_, rfl⟩)
  intro char chars place other
  by_cases brace : char = '}'
  · subst brace
    exact .ok (.past ..)
  by_cases comma : char = ','
  · subst comma
    exact .failNext _ _ _
  simpa [brace, comma] using Carried.failNext _ _ _

/-- What holds of values, items and members that are read with some fuel. -/
structure CarriedWith (left right : List Char) (fuel : Nat) : Prop where
  value : ∀ larger depth here there, fuel ≤ larger → Common left right here there →
    Carried (CommonAfter left right) (value fuel depth here) (value larger depth there)
  items : ∀ larger depth done here there, fuel ≤ larger → Common left right here there →
    Carried (CommonAfter left right) (items fuel depth done here) (items larger depth done there)
  members : ∀ larger depth done here there, fuel ≤ larger → Common left right here there →
    Carried (CommonAfter left right) (members fuel depth done here)
      (members larger depth done there)

/-- No value starts where the first text halts. -/
theorem value_halts {cursor : Cursor} (halt : Halt cursor.rest) (fuel depth : Nat) :
    ∃ failure, value fuel depth cursor = .error failure := by
  obtain ⟨rest, place⟩ := cursor
  cases fuel with
  | zero => exact ⟨_, rfl⟩
  | succ fuel => cases halt <;> exact ⟨_, rfl⟩

/-- Items are read the same if, with less fuel, values and items are. -/
theorem carried_items_succ (tails : Tails left right) {fuel larger : Nat} (enough : fuel ≤ larger)
    (carried : CarriedWith left right fuel) (depth : Nat) (done : List Value)
    (common : Common left right here there) :
    Carried (CommonAfter left right) (items (fuel + 1) depth done here)
      (items (larger + 1) depth done there) := by
  have next := carried_nextItem tails done.isEmpty common
  unfold items
  split
  · exact .error _ _
  · rename_i found
    obtain ⟨_, impossible, -⟩ | ⟨_, other, both⟩ := next _ found
    · cases impossible
    cases both
    have closed := carried_endItems tails common
    rw [other]
    dsimp only
    split
    · exact .error _ _
    · rename_i after found
      obtain ⟨_, other, common⟩ := closed _ found
      rw [other]
      exact .ok ⟨rfl, common⟩
  · rename_i here found
    obtain ⟨_, same, halt⟩ | ⟨_, other, both⟩ := next _ found
    · obtain rfl := Option.some.inj same
      obtain ⟨failure, fails⟩ := value_halts halt fuel depth
      rw [fails]
      exact .error _ _
    cases both with
    | some common =>
        have item := carried.value _ depth _ _ enough common
        rw [other]
        dsimp only
        split
        · exact .error _ _
        · rename_i read
          obtain ⟨⟨_, there⟩, other, rfl, common⟩ := item _ read
          rw [other]
          exact carried.items _ depth _ _ _ enough common

/-- Members are read the same if, with less fuel, values and members are. -/
theorem carried_members_succ (tails : Tails left right) {fuel larger : Nat} (enough : fuel ≤ larger)
    (carried : CarriedWith left right fuel) (depth : Nat) (done : List (String × Value))
    (common : Common left right here there) :
    Carried (CommonAfter left right) (members (fuel + 1) depth done here)
      (members (larger + 1) depth done there) := by
  have next := carried_nextMember tails done.isEmpty common
  unfold members
  split
  · exact .error _ _
  · rename_i found
    obtain ⟨_, other, both⟩ := next _ found
    cases both
    have closed := carried_endMembers tails common
    rw [other]
    dsimp only
    split
    · exact .error _ _
    · rename_i after found
      obtain ⟨_, other, common⟩ := closed _ found
      rw [other]
      exact .ok ⟨rfl, common⟩
  · rename_i key here found
    obtain ⟨_, other, both⟩ := next _ found
    cases both with
    | some both =>
        rename_i after
        obtain ⟨_, there⟩ := after
        obtain ⟨rfl, common⟩ := both
        have past := carried_colon tails common
        rw [other]
        dsimp only
        split
        · exact .error _ _
        · rename_i found
          obtain ⟨_, other, common⟩ := past _ found
          have item := carried.value _ depth _ _ enough common
          rw [other]
          dsimp only
          split
          · exact .error _ _
          · rename_i read
            obtain ⟨⟨_, there⟩, other, rfl, common⟩ := item _ read
            rw [other]
            exact carried.members _ depth _ _ _ enough common

/-- What a scalar becomes does not matter to how it is read. -/
theorem carried_scalar {Item : Type} (toValue : Item → Value)
    {result other : Except Failure (Item × Cursor)}
    (carried : Carried (CommonAfter left right) result other) :
    Carried (CommonAfter left right)
      (do let (item, cursor) ← result; return (toValue item, cursor))
      (do let (item, cursor) ← other; return (toValue item, cursor)) := by
  apply carried.bind
  intro read found both
  exact .ok ⟨congrArg toValue both.1, both.2⟩

/-- A value that is one word is read the same in both texts. -/
theorem carried_word_as (tails : Tails left right) (value : Value) {letters : List Char}
    (busy : ∀ letter ∈ letters, ¬IsIdle letter)
    (common : Common left right here there) :
    Carried (CommonAfter left right) (do let cursor ← word letters here; return (value, cursor))
      (do let cursor ← word letters there; return (value, cursor)) := by
  apply (carried_word tails busy common).bind
  intro here there common
  exact .ok ⟨rfl, common⟩

/-- Values are read the same if, with less fuel, items and members are. -/
theorem carried_value_succ (tails : Tails left right) {fuel larger : Nat} (enough : fuel ≤ larger)
    (carried : CarriedWith left right fuel) (depth : Nat)
    (common : Common left right here there) :
    Carried (CommonAfter left right) (value (fuel + 1) depth here)
      (value (larger + 1) depth there) := by
  have past := common.skipBlanks tails
  unfold value
  generalize here.skipBlanks = here at past
  generalize there.skipBlanks = there at past
  apply past.carried (fun _ => ⟨_, rfl⟩) (fun _ _ => ⟨_, rfl⟩)
  intro char chars place other
  have first := Common.past char chars left right place other
  by_cases null : char = 'n'
  · subst null
    exact carried_word_as tails .null (by simp [IsIdle, Cursor.isBlank]) first
  by_cases yes : char = 't'
  · subst yes
    exact carried_word_as tails (.boolean true) (by simp [IsIdle, Cursor.isBlank]) first
  by_cases no : char = 'f'
  · subst no
    exact carried_word_as tails (.boolean false) (by simp [IsIdle, Cursor.isBlank]) first
  by_cases minus : char = '-'
  · subst minus
    exact carried_scalar .number (Numeral.carried_read tails true first)
  by_cases quote : char = '"'
  · subst quote
    exact carried_scalar .string (carried_string tails first)
  by_cases bracket : char = '['
  · subst bracket
    cases depth with
    | zero => exact .failNext _ _ _
    | succ depth => exact carried.items _ depth [] _ _ enough first
  by_cases brace : char = '{'
  · subst brace
    cases depth with
    | zero => exact .failNext _ _ _
    | succ depth => exact carried.members _ depth [] _ _ enough first
  by_cases digit : '0' ≤ char ∧ char ≤ '9'
  · simpa [null, yes, no, minus, quote, bracket, brace, digit] using
      carried_scalar .number
        (Numeral.carried_read tails false (.same char chars left right place other))
  · simpa [null, yes, no, minus, quote, bracket, brace, digit] using Carried.failNext _ _ _

/-- A common text is read with more fuel, of which the text itself needs no more than before. -/
theorem carriedWith (tails : Tails left right) (fuel : Nat) : CarriedWith left right fuel := by
  induction fuel with
  | zero =>
      constructor
      · intros
        exact .error _ _
      · intros
        exact .error _ _
      · intros
        exact .error _ _
  | succ fuel ih =>
      have less (larger : Nat) (enough : fuel + 1 ≤ larger) :
          ∃ less, fuel ≤ less ∧ larger = less + 1 := ⟨larger - 1, by omega, by omega⟩
      constructor
      · intro larger depth here there enough common
        obtain ⟨others, left, rfl⟩ := less larger enough
        exact carried_value_succ tails left ih depth common
      · intro larger depth done here there enough common
        obtain ⟨others, left, rfl⟩ := less larger enough
        exact carried_items_succ tails left ih depth done common
      · intro larger depth done here there enough common
        obtain ⟨others, left, rfl⟩ := less larger enough
        exact carried_members_succ tails left ih depth done common

end Reader

/-- A text is one document if only blanks follow its first value. -/
theorem read_eq_ok_iff {text : String} {value : Value} :
    read text = .ok value ↔
      ∃ after, Reader.leading (.start text) = .ok (value, after) ∧ Blanks after.rest := by
  have blank (cursor : Cursor) : cursor.skipBlanks.rest = [] ↔ Blanks cursor.rest := by
    rw [Cursor.rest_skipBlanks, List.dropWhile_eq_nil_iff, blanks_iff]
  unfold read
  cases Reader.leading (.start text) with
  | error failure => simp
  | ok found =>
      obtain ⟨first, after⟩ := found
      by_cases empty : Blanks after.rest
      · simp [blank, empty]
      · simp [blank, empty, Cursor.failNext]

/-- A document is read the same with other blanks behind it. -/
theorem read_of_common {chars left right : List Char} (leftBlank : Blanks left)
    (rightBlank : Blanks right) {value : Value}
    (made : read (String.ofList (chars ++ left)) = .ok value) :
    read (String.ofList (chars ++ right)) = .ok value := by
  obtain ⟨after, leading, blank⟩ := read_eq_ok_iff.mp made
  have common : Common left right (.start (.ofList (chars ++ left)))
      (.start (.ofList (chars ++ right))) := by
    refine ⟨chars, ?_, ?_⟩
    · exact String.toList_ofList
    · exact String.toList_ofList
  obtain ⟨⟨_, past⟩, found, rfl, rest, ofAfter, ofPast⟩ :=
    (Reader.carriedWith ⟨.blanks leftBlank, (Barren.blanks rightBlank).ends⟩ _).value _ _ _ _
      (Nat.le_refl _) common _
      leading
  refine read_eq_ok_iff.mpr ⟨past, ?_, ?_⟩
  · -- the fuel of the first text may be more or less than that of the second
    exact (Reader.keptWith _).value _ _ _ _ (.inr (Nat.le_refl _)) found
  · rw [ofAfter, blanks_iff, List.forall_mem_append] at blank
    rw [ofPast, blanks_iff, List.forall_mem_append]
    exact ⟨blank.1, blanks_iff.mp rightBlank⟩

/-- Blanks at the end of a text change nothing about the document that it is. -/
theorem read_append_blanks {chars blanks : List Char} (blank : Blanks blanks) (value : Value) :
    read (String.ofList (chars ++ blanks)) = .ok value ↔
      read (String.ofList chars) = .ok value := by
  constructor
  · intro made
    simpa using read_of_common blank .nothing made
  · intro made
    exact read_of_common .nothing blank (by simpa using made)

end TypedJson.Json
