import TypedJson.Format.Regular
import TypedJson.Proofs.Regex.Reach

namespace TypedJson

namespace Format

open Regex (CharSet Matches MatchesRow Rounds WithinRounds)

variable {set : CharSet} {row : List Regex} {last : Nat}

/-- A set matches its next member. -/
theorem matches_one_iff (done rest : List Char) :
    Matches (done ++ rest) (.one set) done.length last ↔
      ∃ char tail, rest = char :: tail ∧ set.contains char = true ∧
        last = (done ++ [char]).length := by
  have here : (done ++ rest)[done.length]? = rest.head? := by
    simp [List.getElem?_append_right, List.head?_eq_getElem?]
  rw [Matches, here]
  cases rest with
  | nil => simp
  | cons char tail => simp [and_comm]

/-- So many rounds of a set match so many members. -/
theorem rounds_one_iff (count : Nat) (done rest : List Char) :
    Rounds (Matches (done ++ rest) (.one set)) count done.length last ↔
      ∃ part tail, rest = part ++ tail ∧ part.length = count ∧
        (∀ char ∈ part, set.contains char = true) ∧ last = (done ++ part).length := by
  induction count generalizing done rest with
  | zero =>
      constructor
      · rintro rfl
        exact ⟨[], rest, rfl, rfl, nofun, by rw [List.append_nil]⟩
      · rintro ⟨part, tail, rfl, empty, -, rfl⟩
        rw [List.length_eq_zero_iff.mp empty, List.append_nil, Rounds]
  | succ count ih =>
      constructor
      · rintro ⟨middle, here, others⟩
        obtain ⟨char, tail, rfl, member, rfl⟩ := (matches_one_iff done rest).mp here
        rw [List.append_cons] at others
        obtain ⟨part, tail, rfl, size, members, rfl⟩ := (ih (done ++ [char]) tail).mp others
        refine ⟨char :: part, tail, rfl, by simp [size], ?_, by simp⟩
        exact List.forall_mem_cons.mpr ⟨member, members⟩
      · rintro ⟨part, tail, rfl, size, members, rfl⟩
        obtain ⟨char, part, rfl⟩ := List.exists_cons_of_length_eq_add_one size
        rw [List.forall_mem_cons] at members
        refine ⟨(done ++ [char]).length, ?_, ?_⟩
        · exact (matches_one_iff done _).mpr ⟨char, part ++ tail, rfl, members.1, rfl⟩
        · rw [List.cons_append, List.append_cons]
          exact (ih (done ++ [char]) (part ++ tail)).mpr
            ⟨part, tail, rfl, by simpa using size, members.2, by simp⟩

/-- One round or more of a set match a run of members. -/
theorem matches_oneOrMore_iff (done rest : List Char) :
    Matches (done ++ rest) (oneOrMore set) done.length last ↔
      ∃ part tail, rest = part ++ tail ∧ part ≠ [] ∧
        (∀ char ∈ part, set.contains char = true) ∧ last = (done ++ part).length := by
  rw [oneOrMore, Matches]
  simp only [rounds_one_iff]
  constructor
  · rintro ⟨count, ⟨positive, -⟩, part, tail, rfl, rfl, members, rfl⟩
    exact ⟨part, tail, rfl, List.ne_nil_of_length_pos positive, members, rfl⟩
  · rintro ⟨part, tail, rfl, nonempty, members, rfl⟩
    exact ⟨part.length, ⟨List.length_pos_iff.mpr nonempty, by simp⟩, part, tail, rfl, rfl,
      members, rfl⟩

/-- A run may stop at any of its characters, and the parts after it go on from there. -/
theorem row_oneOrMore_iff (done rest : List Char) :
    MatchesRow (done ++ rest) (oneOrMore set :: row) done.length last ↔
      ∃ part tail, rest = part ++ tail ∧ part ≠ [] ∧
        (∀ char ∈ part, set.contains char = true) ∧
          MatchesRow (done ++ part ++ tail) row (done ++ part).length last := by
  simp only [MatchesRow, matches_oneOrMore_iff]
  constructor
  · rintro ⟨_, ⟨part, tail, rfl, nonempty, members, rfl⟩, others⟩
    exact ⟨part, tail, rfl, nonempty, members, by rwa [List.append_assoc]⟩
  · rintro ⟨part, tail, rfl, nonempty, members, others⟩
    rw [List.append_assoc] at others
    exact ⟨_, ⟨part, tail, rfl, nonempty, members, rfl⟩, others⟩

/-- A literal in a row matches itself, and the row goes on behind it. -/
theorem row_literal_iff (char : Char) (done rest : List Char) :
    MatchesRow (done ++ rest) (.literal char :: row) done.length last ↔
      ∃ tail, rest = char :: tail ∧
        MatchesRow (done ++ [char] ++ tail) row (done ++ [char]).length last := by
  rw [MatchesRow, Regex.literal]
  simp only [matches_one_iff, CharSet.contains_single]
  constructor
  · rintro ⟨_, ⟨_, tail, rfl, rfl, rfl⟩, others⟩
    exact ⟨tail, rfl, by rwa [List.append_assoc]⟩
  · rintro ⟨tail, rfl, others⟩
    exact ⟨_, ⟨char, tail, rfl, rfl, rfl⟩, by rwa [List.append_assoc] at others⟩

/-- The characters of mail addresses are neither blank nor the sign. -/
theorem contains_mailChar (char : Char) :
    mailChar.contains char = true ↔ Unicode.isBlank char = false ∧ char ≠ '@' := by
  have single : (CharSet.single '@').contains char = false ↔ char ≠ '@' := by
    rw [← Bool.not_eq_true, CharSet.contains_single]
  rw [mailChar, CharSet.contains_complement, CharSet.contains_union, Bool.not_eq_true',
    Bool.or_eq_false_iff, single]
  exact Iff.rfl

/-- The runs of characters that the expression finds in a mail address. -/
theorem isMailAddress_iff_parts (text : String) :
    isMailAddress text = true ↔
      ∃ name before after, text.toList = name ++ '@' :: (before ++ '.' :: after) ∧
        (name ≠ [] ∧ before ≠ [] ∧ after ≠ []) ∧
          ∀ char ∈ name ++ before ++ after, mailChar.contains char = true := by
  rw [isMailAddress, mailAddress, wholeText, Regex.isMatch_wholeText_iff]
  generalize text.toList = chars
  refine (row_oneOrMore_iff [] chars).trans ?_
  simp only [row_literal_iff, row_oneOrMore_iff, List.nil_append]
  constructor
  · rintro ⟨name, _, rfl, named, nameChars, _, rfl, before, _, rfl, first, beforeChars, _, rfl,
      after, tail, rfl, second, afterChars, ends⟩
    have nothing : tail = [] := by
      rw [MatchesRow] at ends
      simpa using ends
    subst nothing
    refine ⟨name, before, after, by simp, ⟨named, first, second⟩, ?_⟩
    simp only [List.forall_mem_append]
    exact ⟨⟨nameChars, beforeChars⟩, afterChars⟩
  · rintro ⟨name, before, after, rfl, ⟨named, first, second⟩, allChars⟩
    simp only [List.forall_mem_append] at allChars
    obtain ⟨⟨nameChars, beforeChars⟩, afterChars⟩ := allChars
    refine ⟨name, _, rfl, named, nameChars, _, rfl, before, _, rfl, first, beforeChars, _, rfl,
      after, [], (List.append_nil after).symm, second, afterChars, ?_⟩
    simp [MatchesRow]

/--
A mail address has one sign between name and domain, no blank anywhere, and some dot of the domain
has something before it and after it.
-/
theorem isMailAddress_iff (text : String) :
    isMailAddress text = true ↔
      text.toList.count '@' = 1 ∧ (∀ char ∈ text.toList, Unicode.isBlank char = false) ∧
        ∃ name domain, text.toList = name ++ '@' :: domain ∧ name ≠ [] ∧
          ∃ before after, domain = before ++ '.' :: after ∧ before ≠ [] ∧ after ≠ [] := by
  rw [isMailAddress_iff_parts]
  constructor
  · rintro ⟨name, before, after, isText, ⟨named, first, second⟩, chars⟩
    simp only [contains_mailChar, List.forall_mem_append] at chars
    obtain ⟨⟨ofName, ofBefore⟩, ofAfter⟩ := chars
    refine ⟨?_, ?_, name, before ++ '.' :: after, isText, named, before, after, rfl, first, second⟩
    · have absent {part : List Char}
          (chars : ∀ char ∈ part, Unicode.isBlank char = false ∧ char ≠ '@') :
          part.count '@' = 0 := List.count_eq_zero.mpr fun inside => (chars '@' inside).2 rfl
      simp [isText, absent ofName, absent ofBefore, absent ofAfter]
    · rw [isText]
      simp only [List.forall_mem_append, List.forall_mem_cons]
      exact ⟨fun char inside => (ofName char inside).1, by decide,
        fun char inside => (ofBefore char inside).1, by decide,
        fun char inside => (ofAfter char inside).1⟩
  · rintro ⟨one, unblank, name, _, isText, named, before, after, rfl, first, second⟩
    refine ⟨name, before, after, isText, ⟨named, first, second⟩, ?_⟩
    rw [isText] at one unblank
    have noSign : (name ++ before ++ after).count '@' = 0 := by
      have dot : ('.' :: after).count '@' = after.count '@' := List.count_cons_of_ne (by decide)
      simp only [List.count_append, List.count_cons_self, dot] at one ⊢
      omega
    intro char inside
    refine (contains_mailChar char).mpr ⟨unblank char (by grind), ?_⟩
    rintro rfl
    exact List.count_eq_zero.mp noSign inside

end Format
end TypedJson
