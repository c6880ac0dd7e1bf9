import TypedJson.Proofs.Pattern.LinearText
import TypedJson.Proofs.Regex.Reading

namespace TypedJson.Pattern

open TypedJson.Regex (Expression Flags)
open TypedJson.Regex.Reader (Memory Reads ReadsItems Unrepeatable rowFrom sequence_succ)

variable {rules : Rules} {memory : Memory} {input : List Char}

/-! ### Readings -/

/-- A flag at the front of a row is read. -/
theorem readsItems_flag (plain : memory.extended = false) {done : List Expression} {letter : Char}
    {name : Regex.FlagName}
    (known : letter = 'i' ∧ name = .caseInsensitive ∨ letter = 'm' ∧ name = .multiLine)
    {found : Expression × Memory × List Char} :
    ReadsItems memory done ('(' :: '?' :: letter :: ')' :: input) found ↔
      ReadsItems memory (.flags [(name, true)] :: done) input found := by
  refine ReadsItems.iff_of_step fun fuel => ?_
  rw [sequence_succ, plain]
  simp only [Regex.Reader.skip, Bool.false_eq_true, if_false, rowFrom, opening_linearFlag plain known,
    Option.bind_some, Regex.Reader.afterOpening]

/-- The flags of a pattern are read at the front of a row. -/
theorem readsItems_flagText (plain : memory.extended = false) {done : List Expression}
    {found : Expression × Memory × List Char} :
    ReadsItems memory done (flagText rules ++ input) found ↔
      ReadsItems memory ((flagItems rules).reverse ++ done) input found := by
  have letterI (done : List Expression) (rest : List Char) :
      ReadsItems memory done ("(?i)".toList ++ rest) found ↔
        ReadsItems memory (.flags [(.caseInsensitive, true)] :: done) rest found :=
    readsItems_flag plain (.inl ⟨rfl, rfl⟩)
  have letterM (done : List Expression) (rest : List Char) :
      ReadsItems memory done ("(?m)".toList ++ rest) found ↔
        ReadsItems memory (.flags [(.multiLine, true)] :: done) rest found :=
    readsItems_flag plain (.inr ⟨rfl, rfl⟩)
  obtain ⟨ignoreCase, multiLine⟩ := rules
  cases ignoreCase with
  | false =>
      cases multiLine with
      | false => exact Iff.rfl
      | true => exact letterM done input
  | true =>
      cases multiLine with
      | false => exact letterI done input
      | true => exact (letterI done ("(?m)".toList ++ input)).trans (letterM _ input)

/-- Flags are not repeated. -/
theorem unrepeatable_flagItems : Unrepeatable (flagItems rules).reverse := by
  obtain ⟨ignoreCase, multiLine⟩ := rules
  cases ignoreCase <;> cases multiLine <;> simp [Unrepeatable, flagItems, Expression.isRepeatable]

/-- An expression starts with the flags of a body and goes on with another expression. -/
def StartsWithFlags (rules : Rules) (whole body : Expression) : Prop :=
  ∃ items others, body = .ofAlternation (.ofConcat items :: others) ∧
    whole = .ofAlternation (.ofConcat (flagItems rules ++ items) :: others)

/-- What is read behind flags is read alone. -/
theorem reads_of_flagText (plain : memory.extended = false) {whole : Expression} {after : Memory}
    {left : List Char} (read : Reads memory (flagText rules ++ input) (whole, after, left)) :
    ∃ body, StartsWithFlags rules whole body ∧ Reads memory input (body, after, left) := by
  obtain ⟨⟨first, middle, rest⟩, row, follows⟩ := Regex.Reader.reads_iff.mp read
  rw [readsItems_flagText plain, List.append_nil] at row
  obtain ⟨items, rfl, others⟩ := row.after unrepeatable_flagItems
  obtain ⟨alternatives, same, goOn⟩ := follows.after
  rw [List.reverse_reverse] at same
  refine ⟨_, ⟨items, alternatives, rfl, same⟩, Regex.Reader.reads_iff.mpr ?_⟩
  exact ⟨_, others [] (fun _ none => by simp at none), goOn _⟩

/-- What is read alone is read behind flags. -/
theorem reads_flagText (rules : Rules) (plain : memory.extended = false) {body : Expression}
    {after : Memory}
    {left : List Char} (read : Reads memory input (body, after, left)) :
    ∃ whole, StartsWithFlags rules whole body ∧
      Reads memory (flagText rules ++ input) (whole, after, left) := by
  obtain ⟨⟨first, middle, rest⟩, row, follows⟩ := Regex.Reader.reads_iff.mp read
  obtain ⟨items, rfl, others⟩ := row.after fun _ none => by simp at none
  obtain ⟨alternatives, same, goOn⟩ := follows.after
  refine ⟨_, ⟨items, alternatives, same, rfl⟩, Regex.Reader.reads_iff.mpr ⟨_, ?_, goOn _⟩⟩
  rw [readsItems_flagText plain, List.append_nil]
  have row := others (flagItems rules).reverse unrepeatable_flagItems
  rwa [List.reverse_reverse] at row

/-- The text of a body that is tied to the start of the text. -/
def tiedText (input : List Char) : List Char := '\\' :: 'A' :: '(' :: '?' :: ':' :: (input ++ [')'])

/-- What a tied body is read as. -/
def tiedItems (rules : Rules) (body : Expression) : List Expression :=
  flagItems rules ++ [.anchor .textStart, .group [] body]

/-- A tied text is read with a body that the group encloses, behind the condition. -/
theorem readsItems_tied (plain : memory.extended = false) {done : List Expression}
    {found : Expression × Memory × List Char} :
    ReadsItems memory done (tiedText input) found ↔
      ∃ body after left, Reads memory (input ++ [')']) (body, after, ')' :: left) ∧
        ReadsItems { after with extended := memory.extended }
          (.group [] body :: .anchor .textStart :: done) left found := by
  have starts (fuel : Nat) : Regex.Reader.sequence (fuel + 1) memory done (tiedText input) =
      Regex.Reader.sequence fuel memory (.anchor .textStart :: done)
        ('(' :: '?' :: ':' :: (input ++ [')'])) := by
    rw [sequence_succ, plain]
    rfl
  exact (ReadsItems.iff_of_step starts).trans
    (ReadsItems.group_iff (by rw [plain]; rfl) (opening_group plain _))

/-- At the end a row is what was read. -/
theorem readsItems_nil {done : List Expression} {found : Expression × Memory × List Char} :
    ReadsItems memory done [] found ↔ found = (.ofConcat done.reverse, memory, []) := by
  have ends (fuel : Nat) : Regex.Reader.sequence (fuel + 1) memory done [] =
      some (.ofConcat done.reverse, memory, []) := by
    rw [sequence_succ, Regex.Reader.skip_nil]
    rfl
  constructor
  · rintro ⟨_ | fuel, read⟩
    · exact nomatch read
    · exact (Option.some.inj ((ends fuel).symm.trans read)).symm
  · rintro rfl
    exact ⟨1, ends 0⟩

/-- Nothing follows at the end. -/
theorem follows_nil {item : Expression} {found : Expression × Memory × List Char} :
    Regex.Reader.Follows (item, memory, []) found ↔ found = (item, memory, []) := by
  constructor
  · rintro ⟨fuel, read⟩
    exact (Option.some.inj read).symm
  · rintro rfl
    exact ⟨0, rfl⟩

/-- A tied pattern is read with a body that the group encloses. -/
theorem body_of_reads_tied (plain : memory.extended = false)
    {found : Expression × Memory × List Char}
    (read : Reads memory (flagText rules ++ tiedText input) found) :
    ∃ body after left, Reads memory (input ++ [')']) (body, after, ')' :: left) := by
  obtain ⟨first, row, -⟩ := Regex.Reader.reads_iff.mp read
  rw [readsItems_flagText plain, readsItems_tied plain] at row
  obtain ⟨body, after, left, inside, -⟩ := row
  exact ⟨body, after, left, inside⟩

/-- A tied body is the group that its parenthesis closes. -/
theorem reads_tied_iff (rules : Rules) (plain : memory.extended = false)
    (closed : ∀ found, Reads memory (input ++ [')']) found → found.2.2 = [')'])
    {whole : Expression} :
    (∃ last, Reads memory (flagText rules ++ tiedText input) (whole, last, [])) ↔
      ∃ body after, Reads memory (input ++ [')']) (body, after, [')']) ∧
        whole = .ofConcat (tiedItems rules body) := by
  have reversed (body : Expression) : (Expression.group [] body ::
      .anchor .textStart :: ((flagItems rules).reverse ++ [])).reverse = tiedItems rules body := by
    simp [tiedItems]
  constructor
  · rintro ⟨last, read⟩
    obtain ⟨⟨first, middle, rest⟩, row, follows⟩ := Regex.Reader.reads_iff.mp read
    rw [readsItems_flagText plain, readsItems_tied plain] at row
    obtain ⟨body, after, left, inside, row⟩ := row
    obtain rfl : left = [] := (List.cons.inj (closed _ inside)).2
    rw [readsItems_nil, reversed] at row
    obtain ⟨rfl, rfl, rfl⟩ := Prod.mk.injEq .. ▸ row
    rw [follows_nil] at follows
    exact ⟨body, after, inside, congrArg Prod.fst follows⟩
  · rintro ⟨body, after, inside, rfl⟩
    refine ⟨{ after with extended := memory.extended }, Regex.Reader.reads_iff.mpr
      ⟨(.ofConcat (tiedItems rules body), { after with extended := memory.extended }, []), ?_,
        follows_nil.mpr rfl⟩⟩
    rw [readsItems_flagText plain, readsItems_tied plain]
    exact ⟨body, after, [], inside, readsItems_nil.mpr (by rw [reversed])⟩

/-! ### Meanings -/

/-- Two meanings leave the same flags in force and have the same matches, or both are missing. -/
def Alike (text : List Char) : Option (Regex × Flags) → Option (Regex × Flags) → Prop :=
  Option.Rel fun one other => one.2 = other.2 ∧
    ∀ first last, Regex.Matches text one.1 first last ↔ Regex.Matches text other.1 first last

variable {text : List Char} {one other last : Option (Regex × Flags)} {start : Flags}

namespace Alike

theorem refl (one : Option (Regex × Flags)) : Alike text one one := by
  cases one with
  | none => exact .none
  | some found => exact .some ⟨rfl, fun _ _ => Iff.rfl⟩

theorem symm (alike : Alike text one other) : Alike text other one := by
  cases alike with
  | none => exact .none
  | some same => exact .some ⟨same.1.symm, fun first last => (same.2 first last).symm⟩

theorem trans (alike : Alike text one other) (further : Alike text other last) :
    Alike text one last := by
  cases alike with
  | none => exact further
  | some same =>
      cases further with
      | some more => exact .some ⟨same.1.trans more.1, fun first last =>
          (same.2 first last).trans (more.2 first last)⟩

/-- Meanings that are alike are there or not. -/
theorem isSome_eq (alike : Alike text one other) : one.isSome = other.isSome := by
  cases alike <;> rfl

end Alike

/-- A row as one expression means what the row means. -/
theorem alike_ofConcat (items : List Expression) :
    Alike text ((Expression.ofConcat items).meaning start)
      ((Expression.meanings start items).map fun (regexes, last) => (.seq regexes, last)) := by
  match items with
  | [] => exact .some ⟨rfl, fun _ _ => Iff.rfl⟩
  | [item] =>
      simp only [Expression.ofConcat, Expression.meanings]
      cases item.meaning start with
      | none => exact .none
      | some found => exact .some ⟨rfl, fun first last => by simp [Regex.Matches, Regex.MatchesRow]⟩
  | item :: next :: rest =>
      simp only [Expression.ofConcat, Expression.meaning]
      cases Expression.meanings start (item :: next :: rest) <;> exact .refl _

/-- What an alternative and those after it mean. -/
def choiceMeaning (first : Option (Regex × Flags)) (others : List Expression) :
    Option (Regex × Flags) := do
  let (regex, flags) ← first
  let (regexes, last) ← Expression.meanings flags others
  return (.alt (regex :: regexes), last)

/-- Alternatives as one expression mean a choice. -/
theorem alike_ofAlternation (item : Expression) (others : List Expression) :
    Alike text ((Expression.ofAlternation (item :: others)).meaning start)
      (choiceMeaning (item.meaning start) others) := by
  match others with
  | [] =>
      simp only [Expression.ofAlternation, choiceMeaning, Expression.meanings]
      cases item.meaning start with
      | none => exact .none
      | some found =>
          exact .some ⟨rfl, fun first last => by simp [Regex.Matches, Regex.MatchesChoice]⟩
  | next :: rest =>
      simp only [Expression.ofAlternation, Expression.meaning, choiceMeaning]
      rw [Expression.meanings]
      cases item.meaning start with
      | none => exact .none
      | some found =>
          obtain ⟨regex, flags⟩ := found
          simp only [Option.bind_eq_bind, Option.bind_some]
          cases Expression.meanings flags (next :: rest) <;> exact .refl _

/-- Choices are alike if their first alternatives are. -/
theorem Alike.choice (alike : Alike text one other) (others : List Expression) :
    Alike text (choiceMeaning one others) (choiceMeaning other others) := by
  cases alike with
  | none => exact .none
  | @some first second same =>
      obtain ⟨regex, flags⟩ := first
      obtain ⟨regex', flags'⟩ := second
      obtain ⟨rfl, same⟩ := same
      simp only [choiceMeaning, Option.bind_eq_bind, Option.bind_some]
      cases Expression.meanings flags others with
      | none => exact .none
      | some found => exact .some ⟨rfl, fun first last => by
          simp only [Regex.Matches, Regex.MatchesChoice, same]⟩

/-- Items mean their expressions one after the other. -/
theorem meanings_append_eq (items more : List Expression) :
    Expression.meanings start (items ++ more) = do
      let (regexes, middle) ← Expression.meanings start items
      let (others, last) ← Expression.meanings middle more
      return (regexes ++ others, last) := by
  induction items generalizing start with
  | nil =>
      simp only [List.nil_append, Expression.meanings, Option.bind_eq_bind, Option.bind_some]
      cases Expression.meanings start more <;> rfl
  | cons item rest ih =>
      simp only [List.cons_append, Expression.meanings, ih, Option.bind_eq_bind, Option.pure_def,
        Option.bind_assoc]
      simp

/-- Flags before the first alternative are in force in all of them. -/
theorem StartsWithFlags.alike (text : List Char) {whole body : Expression}
    (starts : StartsWithFlags rules whole body) :
    Alike text (whole.meaning .standard) (body.meaning rules.flags) := by
  obtain ⟨items, others, rfl, rfl⟩ := starts
  refine (alike_ofAlternation _ _).trans (.trans ?_ (alike_ofAlternation _ _).symm)
  refine Alike.choice ((alike_ofConcat _).trans (.trans ?_ (alike_ofConcat _).symm)) others
  obtain ⟨empties, made, nothing⟩ := meanings_flagItems rules text
  rw [meanings_append_eq, made]
  simp only [Option.bind_eq_bind, Option.bind_some]
  cases Expression.meanings rules.flags items with
  | none => exact .none
  | some found => exact .some ⟨rfl, fun first last => by
      simp [Regex.Matches, Regex.matchesRow_append, nothing]⟩

/-- A tied body means the condition for the start of the text and the body after it. -/
theorem meaning_tied (rules : Rules) (text : List Char) (body : Expression) : ∃ empties,
    (∀ first last, Regex.MatchesRow text empties first last ↔ first = last) ∧
      (Expression.ofConcat (tiedItems rules body)).meaning .standard =
        (body.meaning rules.flags).map fun (inner, _) =>
          (.seq (empties ++ [.look .textStart, inner]), rules.flags) := by
  obtain ⟨empties, made, nothing⟩ := meanings_flagItems rules text
  have several (items : List Expression) (one two : Expression) :
      Expression.ofConcat (items ++ [one, two]) = .concat (items ++ [one, two]) := by
    match items with
    | [] => rfl
    | [item] => rfl
    | item :: next :: rest => rfl
  refine ⟨empties, nothing, ?_⟩
  rw [tiedItems, several, Expression.meaning, meanings_append_eq, made]
  simp only [Expression.meanings, Expression.meaning, Flags.setAll, List.foldl_nil,
    Option.bind_eq_bind, Option.bind_some]
  cases body.meaning rules.flags <;> rfl

/-- A tied expression matches a text if its body matches at the start. -/
theorem matches_tied {empties : List Regex}
    (nothing : ∀ first last, Regex.MatchesRow text empties first last ↔ first = last)
    {inner : Regex} : Regex.isMatch (.seq (empties ++ [.look .textStart, inner])) text = true ↔
      ∃ last, Regex.Matches text inner 0 last := by
  rw [Regex.isMatch_iff_matches]
  simp only [Regex.Matches, Regex.matchesRow_append, nothing, Regex.MatchesRow]
  constructor
  · rintro ⟨first, last, inside, _, rfl, _, ⟨start, rfl⟩, _, found, rfl⟩
    obtain rfl := (Regex.Look.holdsAt_textStart inside).mp start
    exact ⟨_, found⟩
  · rintro ⟨last, found⟩
    have start := (Regex.Look.holdsAt_textStart (Nat.zero_le text.length)).mpr rfl
    exact ⟨0, last, Nat.zero_le _, 0, rfl, 0, ⟨start, rfl⟩, last, found, rfl⟩

end TypedJson.Pattern

namespace TypedJson.Regex

open TypedJson.Pattern (Rules flagText tiedText reads_flagText reads_of_flagText reads_tied_iff
  body_of_reads_tied meaning_tied matches_tied)
open Reader (Memory Reads)

variable {rules : Rules} {input : List Char}

/-! ### Patterns -/

/-- What is read of a text is neither too deep nor too large for the linear engine. -/
def WithinLimits (input : List Char) : Prop :=
  ∀ expression after, Reads ⟨false, 0, []⟩ input (expression, after, []) →
    expression.depth ≤ Reader.depthLimit ∧
      ∀ regex flags, expression.meaning .standard = some (regex, flags) →
        regex.isCompilable = true

/-- A pattern is read to the end, nests within the limit, has a meaning and is small. -/
theorem ofText?_eq_some_iff {regex : Regex} :
    ofText? input = some regex ↔
      ∃ expression after flags, Reads ⟨false, 0, []⟩ input (expression, after, []) ∧
        expression.depth ≤ Reader.depthLimit ∧
          expression.meaning .standard = some (regex, flags) ∧ regex.isCompilable = true := by
  simp only [ofText?, Option.bind_eq_bind, Option.bind_eq_some_iff, Reader.read?_eq_some_iff,
    Prod.exists]
  constructor
  · rintro ⟨expression, ⟨shallow, after, read⟩, meant, flags, means, made⟩
    split at made
    · next small =>
        obtain rfl := Option.some.inj made
        exact ⟨expression, after, flags, read, shallow, means, small⟩
    · cases made
  · rintro ⟨expression, after, flags, read, shallow, means, small⟩
    exact ⟨expression, ⟨shallow, after, read⟩, regex, flags, means, if_pos small⟩

/-- Within the limits a pattern is accepted if it is read and has a meaning. -/
theorem WithinLimits.isSome_ofText?_iff (within : WithinLimits input) :
    (ofText? input).isSome = true ↔
      ∃ expression after, Reads ⟨false, 0, []⟩ input (expression, after, []) ∧
        (expression.meaning .standard).isSome = true := by
  simp only [Option.isSome_iff_exists, ofText?_eq_some_iff, Prod.exists]
  constructor
  · rintro ⟨regex, expression, after, flags, read, -, means, -⟩
    exact ⟨expression, after, read, regex, flags, means⟩
  · rintro ⟨expression, after, read, regex, flags, means⟩
    obtain ⟨shallow, small⟩ := within expression after read
    exact ⟨regex, expression, after, flags, read, shallow, means, small regex flags means⟩

/--
A tied body is read for the linear engine if the body is, where the group around it ends with its
own parenthesis and the engine's limits refuse neither.
-/
theorem isSome_ofText?_tied_iff
    (closed : ∀ found, Reads ⟨false, 0, []⟩ (input ++ [')']) found → found.2.2 = [')'])
    (plain : WithinLimits (flagText rules ++ input))
    (tied : WithinLimits (flagText rules ++ tiedText input)) :
    (ofText? (flagText rules ++ tiedText input)).isSome = true ↔
      (ofText? (flagText rules ++ input)).isSome = true := by
  rw [tied.isSome_ofText?_iff, plain.isSome_ofText?_iff]
  constructor
  · rintro ⟨whole, last, read, means⟩
    obtain ⟨body, after, inside, rfl⟩ := (reads_tied_iff rules rfl closed).mp ⟨last, read⟩
    obtain ⟨whole, starts, read⟩ := reads_flagText rules rfl inside.of_close
    obtain ⟨empties, -, same⟩ := meaning_tied rules [] body
    rw [same, Option.isSome_map] at means
    exact ⟨whole, after, read, (starts.alike []).isSome_eq.trans means⟩
  · rintro ⟨whole, last, read, means⟩
    obtain ⟨body, starts, inside⟩ := reads_of_flagText rfl read
    obtain ⟨empties, -, same⟩ := meaning_tied rules [] body
    obtain inside | inside := inside.close
    · obtain ⟨last, read⟩ := (reads_tied_iff rules rfl closed).mpr
        ⟨body, last, inside, rfl⟩
      refine ⟨_, last, read, ?_⟩
      rw [same, Option.isSome_map, ← (starts.alike []).isSome_eq]
      exact means
    · exact nomatch closed _ inside

/-- A body that the linear engine reads in the group around a tied body as it does alone. -/
structure Enclosable (rules : Rules) (input : List Char) : Prop where
  /-- In a tied pattern, the group ends with its own parenthesis and with none of the body. -/
  closes : (ofText? (flagText rules ++ tiedText input)).isSome = true →
    ∀ found, Reads ⟨false, 0, []⟩ (input ++ [')']) found → found.2.2 = [')']
  /-- The parenthesis does not end up in a comment. -/
  apart : ∀ body after, Reads ⟨false, 0, []⟩ input (body, after, []) →
    ∀ found, Reads ⟨false, 0, []⟩ (input ++ [')']) found → found.2.2 ≠ []
  plain : WithinLimits (flagText rules ++ input)
  tied : WithinLimits (flagText rules ++ tiedText input)

/-- A body that the group encloses is accepted tied just if it is accepted alone. -/
theorem Enclosable.isSome_ofText?_iff (enclosable : Enclosable rules input) :
    (ofText? (flagText rules ++ tiedText input)).isSome = true ↔
      (ofText? (flagText rules ++ input)).isSome = true := by
  obtain ⟨closes, apart, plain, tied⟩ := enclosable
  constructor
  · intro anchored
    exact (isSome_ofText?_tied_iff (closes anchored) plain tied).mp anchored
  · intro alone
    obtain ⟨whole, after, read, -⟩ := plain.isSome_ofText?_iff.mp alone
    obtain ⟨body, -, inside⟩ := reads_of_flagText rfl read
    obtain closed | commented := inside.close
    · have closed : ∀ found, Reads ⟨false, 0, []⟩ (input ++ [')']) found → found.2.2 = [')'] := by
        intro found there
        rw [there.unique closed]
      exact (isSome_ofText?_tied_iff closed plain tied).mpr alone
    · exact absurd rfl (apart _ _ inside _ commented)

/-- One reading within the limits is enough, for there is no other. -/
theorem WithinLimits.of_reads {expression : Expression} {after : Memory}
    (read : Reads ⟨false, 0, []⟩ input (expression, after, []))
    (shallow : expression.depth ≤ Reader.depthLimit)
    (small : (expression.meaning .standard).all (fun meaning => meaning.1.isCompilable) = true) :
    WithinLimits input := by
  intro other memory found
  obtain ⟨rfl, -⟩ := Prod.mk.inj (read.unique found)
  refine ⟨shallow, fun regex flags means => ?_⟩
  rw [means] at small
  exact small

/-- A body after which the parenthesis is left is enclosable, within the limits. -/
theorem Enclosable.of_reads {body : Expression} {after : Memory}
    (read : Reads ⟨false, 0, []⟩ (input ++ [')']) (body, after, [')']))
    (plain : WithinLimits (flagText rules ++ input))
    (tied : WithinLimits (flagText rules ++ tiedText input)) : Enclosable rules input := by
  refine ⟨fun _ found there => ?_, fun _ _ _ found there => ?_, plain, tied⟩
  · rw [there.unique read]
  · rw [there.unique read]
    exact List.cons_ne_nil _ _

/-- Of two patterns for the linear engine, the tied one finds what the other finds at the start. -/
theorem isMatch_tied_iff {plain tied : Regex}
    (one : ofText? (flagText rules ++ input) = some plain)
    (other : ofText? (flagText rules ++ tiedText input) = some tied) (text : List Char) :
    tied.isMatch text = true ↔ ∃ last, Matches text plain 0 last := by
  obtain ⟨whole, after, flags, read, -, means, -⟩ := ofText?_eq_some_iff.mp one
  obtain ⟨tiedWhole, last, tiedFlags, tiedRead, -, tiedMeans, -⟩ :=
    ofText?_eq_some_iff.mp other
  obtain ⟨body, starts, inside⟩ := reads_of_flagText rfl read
  have closed (found) (there : Reads ⟨false, 0, []⟩ (input ++ [')']) found) : found.2.2 = [')'] := by
    obtain ⟨_, _, left, tiedInside⟩ := body_of_reads_tied rfl tiedRead
    obtain inside | inside := inside.close
    · rw [there.unique inside]
    · exact nomatch (Prod.mk.injEq .. ▸ inside.unique tiedInside)
  obtain ⟨other, middle, there, rfl⟩ := (reads_tied_iff rules rfl closed).mp ⟨last, tiedRead⟩
  obtain ⟨rfl, -⟩ := Prod.mk.injEq .. ▸ there.of_close.unique inside
  obtain ⟨empties, nothing, same⟩ := meaning_tied rules text other
  rw [same] at tiedMeans
  obtain ⟨⟨inner, ending⟩, here, made⟩ := Option.map_eq_some_iff.mp tiedMeans
  obtain ⟨rfl, rfl⟩ := Prod.mk.injEq .. ▸ made
  have alike := starts.alike text
  rw [means, here] at alike
  cases alike with
  | some same => simp only [matches_tied nothing, same.2]

end TypedJson.Regex
