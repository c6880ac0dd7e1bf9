import TypedJson.Proofs.Backtrack.Anchored
import TypedJson.Proofs.Backtrack.Reading
import TypedJson.Proofs.Pattern.BacktrackBody
import TypedJson.Proofs.Pattern.StickyLinear

namespace TypedJson.Backtrack.Reader

open TypedJson.Pattern (Rules Flagged flagText tiedText opening_flag opening_plain skip_eq
  Uncommented uncommented_cons uncommented_group)

variable {rules : Rules} {depth : Nat} {memory after before : Memory} {input rest : List Char}
  {done : List Expression} {found : Reading}

/-! ### Flags -/

/-- A row is read the same past what may be skipped. -/
theorem sequence_skipped {start : List Char} (skipped : skip memory input = some start)
    (fuel : Nat) : sequence fuel depth memory done start = sequence fuel depth memory done input := by
  cases fuel with
  | zero => rw [sequence, sequence]
  | succ fuel => rw [sequence_succ, sequence_succ, skipped, skip_skip skipped]

/-- No repetition follows, also not after comments. -/
def Unrepeated (memory : Memory) (input : List Char) : Prop :=
  ∃ start, skip memory input = some start ∧ repetition? memory start = none

theorem Unrepeated.cons (plain : memory.extended = false) {char : Char}
    (uncommented : Uncommented (char :: rest))
    (other : char ∉ ['?', '*', '+', '{']) : Unrepeated memory (char :: rest) := by
  refine ⟨char :: rest, skip_eq plain uncommented, ?_⟩
  simp only [List.mem_cons, List.not_mem_nil, or_false, not_or] at other
  obtain ⟨optional, star, plus, brace⟩ := other
  simp [repetition?, optional, star, plus, brace]

/-- What is empty may not be repeated. -/
theorem withRepetition_empty_iff {counted : Expression × List Char} :
    withRepetition memory .empty input = some counted ↔
      ∃ start, skip memory input = some start ∧ repetition? memory start = none ∧
        counted = (.empty, start) := by
  unfold withRepetition
  cases skip memory input with
  | none => simp
  | some start =>
      cases repeated : repetition? memory start <;>
        simp [repeated, Expression.isRepeatable, eq_comm]

/-- A flag at the start of a row is a piece. -/
theorem sequence_flag {letter : Char} (plain : before.extended = false)
    (flagged : Flagged letter before after) (fuel : Nat) :
    sequence (fuel + 1) depth before done ('(' :: '?' :: letter :: ')' :: rest) =
      (piece fuel depth before ('(' :: '?' :: letter :: ')' :: rest)).bind
        (afterPiece fuel depth done) := by
  rw [sequence_succ, skip_eq plain flagged.uncommented, Option.bind_some, rowFrom,
    if_neg (by simp)]

/-- A flag is read as an empty piece that changes the memory. -/
theorem piece_flag {letter : Char} (plain : before.extended = false)
    (flagged : Flagged letter before after) (shallow : depth < depthLimit) (fuel : Nat) :
    piece (fuel + 1) depth before ('(' :: '?' :: letter :: ')' :: rest) =
      some (.empty, after, rest) := by
  rw [piece_group, if_neg (Nat.not_le.mpr shallow), opening_flag plain flagged]
  rfl

/-- A flag is in force in the rest of its row, and nothing may repeat it. -/
theorem readsRow_flag {letter : Char} (plain : before.extended = false)
    (flagged : Flagged letter before after) (shallow : depth < depthLimit) :
    ReadsRow depth before done ('(' :: '?' :: letter :: ')' :: rest) found ↔
      Unrepeated after rest ∧ ReadsRow depth after done rest found := by
  have goesOn {start : List Char} (skipped : skip after rest = some start) (fuel : Nat) :
      sequence fuel depth after (if Expression.empty.isEmpty then done else .empty :: done) start =
        sequence fuel depth after done rest := sequence_skipped skipped fuel
  constructor
  · rintro ⟨_ | _ | fuel, read⟩
    · rw [sequence] at read
      cases read
    · rw [sequence_flag plain flagged, piece] at read
      cases read
    · rw [sequence_flag plain flagged, piece_flag plain flagged shallow, Option.bind_some] at read
      obtain ⟨counted, repeats, read⟩ := Option.bind_eq_some_iff.mp read
      obtain ⟨start, skipped, unrepeated, rfl⟩ := withRepetition_empty_iff.mp repeats
      exact ⟨⟨start, skipped, unrepeated⟩, _, (goesOn skipped _).symm.trans read⟩
  · rintro ⟨⟨start, skipped, unrepeated⟩, fuel, read⟩
    obtain ⟨fuel, rfl⟩ : ∃ fewer, fuel = fewer + 1 :=
      Nat.exists_eq_add_one_of_ne_zero (by rintro rfl; rw [sequence] at read; cases read)
    refine ⟨fuel + 2, ?_⟩
    rw [sequence_flag plain flagged, piece_flag plain flagged shallow, Option.bind_some]
    exact Option.bind_eq_some_iff.mpr ⟨(.empty, start),
      withRepetition_empty_iff.mpr ⟨start, skipped, unrepeated, rfl⟩,
      (goesOn skipped _).trans read⟩

/-- The memory before a pattern to which the flags of a body apply. -/
def startOf (rules : Rules) (input : List Char) : Memory :=
  { Memory.start (String.ofList input).utf8ByteSize with
    ignoreCase := rules.ignoreCase
    multiLine := rules.multiLine }

/-- The flags of a body are in force in it, and nothing may repeat them. -/
theorem readsRow_flagText {size : Nat} :
    ReadsRow 0 (.start size) done (flagText rules ++ input) found ↔
      (flagText rules ≠ [] → Unrepeated ((startOf rules input).resize size) input) ∧
        ReadsRow 0 ((startOf rules input).resize size) done input found := by
  have shallow : 0 < depthLimit := by decide
  have between {memory : Memory} (plain : memory.extended = false) :
      Unrepeated memory ("(?m)".toList ++ input) :=
    .cons plain (uncommented_group (by decide)) (by decide)
  have written (nonempty : flagText rules ≠ []) (unrepeated : Prop) :
      (flagText rules ≠ [] → unrepeated) ↔ unrepeated :=
    ⟨fun given => given nonempty, fun given _ => given⟩
  obtain ⟨ignoreCase, multiLine⟩ := rules
  cases ignoreCase with
  | false =>
      cases multiLine with
      | false => exact (and_iff_right fun absurd => (absurd rfl).elim).symm
      | true =>
          rw [written (List.cons_ne_nil _ _)]
          exact readsRow_flag rfl (.inr ⟨rfl, rfl⟩) shallow
  | true =>
      cases multiLine with
      | false =>
          rw [written (List.cons_ne_nil _ _)]
          exact readsRow_flag rfl (.inl ⟨rfl, rfl⟩) shallow
      | true =>
          rw [written (List.cons_ne_nil _ _)]
          have first : ReadsRow 0 (.start size) done ("(?i)".toList ++ ("(?m)".toList ++ input)) found ↔
              _ := readsRow_flag rfl (.inl ⟨rfl, rfl⟩) shallow
          exact first.trans ((and_iff_right (between rfl)).trans
            (readsRow_flag rfl (.inr ⟨rfl, rfl⟩) shallow))

/-- A row starts with no mark of a repetition. -/
theorem rowFrom_mark {char : Char} (mark : char ∈ ['?', '*', '+']) (fuel : Nat) :
    rowFrom fuel depth memory done (char :: rest) = none := by
  simp only [List.mem_cons, List.not_mem_nil, or_false] at mark
  rcases mark with rfl | rfl | rfl <;> cases fuel <;> simp [rowFrom, piece]

/-- Before a repetition there is nothing to read, unless its brace stands for itself. -/
theorem ReadsRow.unrepeated (read : ReadsRow depth memory done input found)
    (uncounted : ∀ start, skip memory input = some ('{' :: start) → bounds memory start = none) :
    Unrepeated memory input := by
  obtain ⟨_ | fuel, read⟩ := read
  · rw [sequence] at read
    cases read
  rw [sequence_succ] at read
  obtain ⟨start, skipped, read⟩ := Option.bind_eq_some_iff.mp read
  refine ⟨start, skipped, ?_⟩
  cases start with
  | nil => rfl
  | cons char rest =>
      unfold repetition?
      split
      · next same =>
          rw [same, rowFrom_mark (by decide)] at read
          cases read
      · next same =>
          rw [same, rowFrom_mark (by decide)] at read
          cases read
      · next same =>
          rw [same, rowFrom_mark (by decide)] at read
          cases read
      · next same => exact uncounted _ (skipped.trans (congrArg some same))
      · rfl

/-- Behind its flags a pattern is read with these in the memory, if nothing repeats them. -/
theorem reads_flagText {size : Nat} (room : (Memory.start size).HasRoom (flagText rules ++ input)) :
    Reads 0 (.start size) (flagText rules ++ input) found ↔
      (flagText rules ≠ [] → Unrepeated ((startOf rules input).resize size) input) ∧
        Reads 0 ((startOf rules input).resize size) input found := by
  have roomToo : ((startOf rules input).resize size).HasRoom input :=
    room.of_length_le (List.suffix_append _ _).length_le
  rw [reads_iff room, reads_iff roomToo]
  simp only [readsRow_flagText, and_assoc, exists_and_left]

/-! ### Tied bodies -/

/-- What a tied body is read as. -/
def tiedOf (body : Expression) : Expression :=
  if body.isEmpty then .condition .textStart else body.tied

/-- A tied body is the condition for the start of the text and a group around the body. -/
theorem sequence_tied (plain : memory.extended = false) (fuel : Nat) :
    sequence (fuel + 3) 0 memory [] (tiedText input) =
      ((alternatives fuel 1 memory [] (input ++ [')'])).bind (afterPlain memory)).bind
        (afterPiece (fuel + 1) 0 [.condition .textStart]) := by
  have backslash : Uncommented (tiedText input) := uncommented_cons (by decide)
  have parenthesis : Uncommented ('(' :: '?' :: ':' :: (input ++ [')'])) :=
    uncommented_group (by decide)
  have starts : piece (fuel + 2) 0 memory (tiedText input) =
      some (.condition .textStart, memory, '(' :: '?' :: ':' :: (input ++ [')'])) := by
    rw [tiedText, piece_simple (by decide), if_neg (by decide)]
    rfl
  have once : withRepetition memory (.condition .textStart)
      ('(' :: '?' :: ':' :: (input ++ [')'])) =
        some (.condition .textStart, '(' :: '?' :: ':' :: (input ++ [')'])) := by
    simp [withRepetition, skip_eq plain parenthesis, repetition?]
  rw [sequence_succ, skip_eq plain backslash, Option.bind_some, rowFrom,
    if_neg (by simp [tiedText]), starts, Option.bind_some, afterPiece, once, Option.bind_some]
  dsimp only
  rw [sequence_succ, skip_eq plain parenthesis, Option.bind_some, rowFrom, if_neg (by simp),
    piece_group, if_neg (by decide), opening_plain plain]
  rfl

/-- Behind the group nothing is left to read. -/
theorem afterPiece_nil (body : Expression) (fuel : Nat) :
    afterPiece (fuel + 1) 0 [.condition .textStart] (body, memory, []) =
      some (tiedOf body, memory, []) := by
  have once : withRepetition memory body [] = some (body, []) := by
    rw [withRepetition, skip_nil]
    rfl
  rw [afterPiece, once, Option.bind_some]
  dsimp only
  rw [sequence_succ, skip_nil, Option.bind_some, tiedOf]
  split
  · rfl
  · rfl

/-- A tied text is read with a body that the group encloses. -/
theorem body_of_readsRow_tied (plain : memory.extended = false)
    (room : memory.HasRoom (tiedText input))
    (read : ReadsRow 0 memory [] (tiedText input) found) :
    ∃ body after left, Reads 1 memory (input ++ [')']) (body, after, ')' :: left) ∧
      ∃ fuel, afterPiece (fuel + 1) 0 [.condition .textStart]
        (body, after.withFlagsOf memory, left) = some found := by
  obtain ⟨fuel, read⟩ := read
  have enough : sequence (4 * (tiedText input).length + 3) 0 memory [] (tiedText input) =
      some found := sequence_of_le room read (by omega)
  rw [sequence_tied plain] at enough
  obtain ⟨group, grouped, follows⟩ := Option.bind_eq_some_iff.mp enough
  obtain ⟨⟨body, after, rest⟩, inside, closes⟩ := Option.bind_eq_some_iff.mp grouped
  unfold afterPlain at closes
  split at closes
  · next same =>
      obtain ⟨rfl, rfl, rfl⟩ := Prod.mk.injEq .. ▸ same
      obtain rfl := Option.some.inj closes
      exact ⟨_, _, _, ⟨_, inside⟩, _, follows⟩
  · cases closes

/-- What is enclosed by the group is read as the tied expression. -/
theorem readsRow_tied (plain : memory.extended = false) {body : Expression}
    (read : Reads 1 memory (input ++ [')']) (body, after, [')'])) :
    ReadsRow 0 memory [] (tiedText input) (tiedOf body, after.withFlagsOf memory, []) := by
  obtain ⟨fuel, read⟩ := read
  refine ⟨fuel + 3, ?_⟩
  rw [sequence_tied plain, read, Option.bind_some, afterPlain, Option.bind_some, afterPiece_nil]

/-- Groups were referred to by their numbers although some have names. -/
def Memory.Mixed (memory : Memory) : Prop := memory.numbered = true ∧ memory.names ≠ []

/-- Nothing follows at the end. -/
theorem follows_nil {item : Expression} :
    Follows depth (item, memory, []) found ↔ ¬memory.Mixed ∧ found = (item, memory, []) := by
  have ends (fuel : Nat) : (skip memory []).bind (afterMark fuel depth [] item memory) =
      if memory.numbered && !memory.names.isEmpty then none else some (item, memory, []) := by
    rw [skip_nil, Option.bind_some, afterMark_last (by simp), choiceOf, if_pos List.isEmpty_nil]
    split <;> rfl
  have mixed : (memory.numbered && !memory.names.isEmpty) = true ↔ memory.Mixed := by
    simp [Memory.Mixed]
  simp only [Follows, ends, exists_const]
  split
  · next both => simp [mixed.mp both]
  · next neither => simp [mt mixed.mpr neither, eq_comm]

/-- A tied body is the group that its parenthesis closes. -/
theorem reads_tied_iff (plain : memory.extended = false) (room : memory.HasRoom (tiedText input))
    (closed : ∀ found, Reads 1 memory (input ++ [')']) found → found.2.2 = [')'])
    {whole : Expression} {last : Memory} :
    Reads 0 memory (tiedText input) (whole, last, []) ↔
      ∃ body after, Reads 1 memory (input ++ [')']) (body, after, [')']) ∧ ¬after.Mixed ∧
        whole = tiedOf body ∧ last = after.withFlagsOf memory := by
  rw [reads_iff room]
  constructor
  · rintro ⟨first, row, follows⟩
    obtain ⟨body, after, left, inside, fuel, item⟩ := body_of_readsRow_tied plain room row
    obtain rfl : left = [] := (List.cons.inj (closed _ inside)).2
    rw [afterPiece_nil] at item
    obtain rfl := Option.some.inj item
    obtain ⟨unmixed, same⟩ := follows_nil.mp follows
    obtain ⟨rfl, rfl, -⟩ := Prod.mk.injEq .. ▸ same
    exact ⟨body, after, inside, unmixed, rfl, rfl⟩
  · rintro ⟨body, after, inside, unmixed, rfl, rfl⟩
    exact ⟨_, readsRow_tied plain inside, follows_nil.mpr ⟨unmixed, rfl⟩⟩

/-! ### Whole patterns -/

/-- A pattern has room for its body. -/
theorem hasRoom_startOf (rules : Rules) (input : List Char) :
    (startOf rules input).HasRoom input := hasRoom_start input

/-- A tied pattern has room for its body. -/
theorem hasRoom_tiedText (rules : Rules) (input : List Char) :
    (startOf rules (tiedText input)).HasRoom (input ++ [')']) :=
  have longer : (tiedText input).length = (input ++ [')']).length + 5 := rfl
  (hasRoom_startOf rules (tiedText input)).of_length_le (by omega)

/-- What is read in a pattern of one size is read in a pattern of another, with the same flags. -/
theorem Reads.moveTo {target : Memory} {lower : Nat} {item : Expression}
    (read : Reads depth memory input (item, after, rest)) (room : target.HasRoom input)
    (lowest : lower ≤ depth) (same : memory.resize target.size = target) :
    Reads lower target input (item, after.resize target.size, rest) := by
  have moved : Reads lower (memory.resize target.size) input (item, after.resize target.size, rest) :=
    read.move lowest (same.symm ▸ room)
  rwa [same] at moved

/-- A body is read with its flags as it is read alone where they are in force. -/
theorem read?_flagText_iff {expression : Expression} {groups : Nat} :
    read? (flagText rules ++ input) = some (expression, groups) ↔
      (flagText rules ≠ [] → Unrepeated (startOf rules input) input) ∧
        ∃ after, Reads 0 (startOf rules input) input (expression, after, []) ∧
          after.opened = groups := by
  have room := hasRoom_start (flagText rules ++ input)
  rw [read?_eq_some_iff]
  constructor
  · rintro ⟨after, read, rfl⟩
    obtain ⟨unrepeated, read⟩ := (reads_flagText room).mp read
    exact ⟨unrepeated, _, read.moveTo (hasRoom_startOf rules input) (Nat.le_refl 0) rfl, rfl⟩
  · rintro ⟨unrepeated, after, read, rfl⟩
    have behind := room.of_length_le (List.suffix_append (flagText rules) input).length_le
    exact ⟨_, (reads_flagText room).mpr ⟨unrepeated, read.moveTo behind (Nat.le_refl 0) rfl⟩, rfl⟩

/-- The parenthesis that closes the group around a body is the one behind the body. -/
def Closes (rules : Rules) (input : List Char) : Prop :=
  ∀ found, Reads 1 (startOf rules (input ++ [')'])) (input ++ [')']) found → found.2.2 = [')']

/-- A tied pattern is read exactly if its body is read up to the closing parenthesis. -/
theorem read?_tied_iff (closes : Closes rules input) {whole : Expression} {groups : Nat} :
    read? (flagText rules ++ tiedText input) = some (whole, groups) ↔
      ∃ body after, Reads 1 (startOf rules (input ++ [')'])) (input ++ [')']) (body, after, [')']) ∧
        ¬after.Mixed ∧ whole = tiedOf body ∧ after.opened = groups := by
  have room := hasRoom_startOf rules (tiedText input)
  have inside := hasRoom_tiedText rules input
  have closed : ∀ found, Reads 1 (startOf rules (tiedText input)) (input ++ [')']) found →
      found.2.2 = [')'] := by
    rintro ⟨body, after, left⟩ read
    have moved : Reads 1 (startOf rules (input ++ [')'])) (input ++ [')']) _ :=
      read.moveTo (hasRoom_startOf rules (input ++ [')'])) (Nat.le_refl 1) rfl
    have ended := closes _ moved
    exact ended
  have unrepeated : Unrepeated (startOf rules (tiedText input)) (tiedText input) :=
    .cons rfl (uncommented_cons (by decide)) (by decide)
  simp only [read?_flagText_iff, reads_tied_iff rfl room closed]
  constructor
  · rintro ⟨-, last, ⟨body, after, read, unmixed, rfl, rfl⟩, rfl⟩
    exact ⟨body, _, read.moveTo (hasRoom_startOf rules (input ++ [')'])) (Nat.le_refl 1) rfl,
      unmixed, rfl, rfl⟩
  · rintro ⟨body, after, read, unmixed, rfl, rfl⟩
    exact ⟨fun _ => unrepeated, _, ⟨body, _, read.moveTo inside (Nat.le_refl 1) rfl, unmixed, rfl, rfl⟩,
      rfl⟩

/-- A body that the backtracking engine reads in the group around a tied body as it does alone. -/
structure Enclosable (rules : Rules) (input : List Char) : Prop where
  /-- In a tied pattern, the group ends with its own parenthesis and with none of the body. -/
  closes : (read? (flagText rules ++ tiedText input)).isSome = true → Closes rules input
  /-- The parenthesis does not end up in a comment. -/
  apart : ∀ body after, Reads 0 (startOf rules input) input (body, after, []) →
    ∀ found, Reads 1 (startOf rules (input ++ [')'])) (input ++ [')']) found → found.2.2 ≠ []
  /-- There may be one more group around the body. -/
  shallow : ∀ found, Reads 0 (startOf rules input) input found →
    ∃ deeper, Reads 1 (startOf rules input) input deeper
  /-- The body does not mix numbers and names of groups. -/
  unmixed : ∀ found, Reads 0 (startOf rules input) input found → ¬found.2.1.Mixed
  /-- The flags, of which there are some, are not followed by bounds for their repetition. -/
  uncounted : flagText rules ≠ [] → ∀ start, skip (startOf rules input) input = some ('{' :: start) →
    bounds (startOf rules input) start = none

namespace Enclosable

variable {body : Expression} {groups : Nat}

/-- A body that the group encloses is read alone if it is read tied. -/
theorem read?_of_tied (enclosable : Enclosable rules input) (closes : Closes rules input)
    {whole : Expression} (tied : read? (flagText rules ++ tiedText input) = some (whole, groups)) :
    ∃ body, read? (flagText rules ++ input) = some (body, groups) ∧ whole = tiedOf body := by
  have room := hasRoom_startOf rules input
  obtain ⟨body, after, read, unmixed, rfl, rfl⟩ := (read?_tied_iff closes).mp tied
  have alone : Reads 0 (startOf rules input) input _ := read.of_close.moveTo room (Nat.zero_le 1) rfl
  obtain ⟨first, row, -⟩ := (reads_iff room).mp alone
  refine ⟨body, read?_flagText_iff.mpr ⟨fun flags => ?_, _, alone, rfl⟩, rfl⟩
  exact row.unrepeated (enclosable.uncounted flags)

/-- A body is read tied if it is read alone. -/
theorem read?_tied (enclosable : Enclosable rules input)
    (plain : read? (flagText rules ++ input) = some (body, groups)) :
    read? (flagText rules ++ tiedText input) = some (tiedOf body, groups) := by
  have room := hasRoom_startOf rules input
  have roomToo := hasRoom_startOf rules (input ++ [')'])
  obtain ⟨-, after, read, rfl⟩ := read?_flagText_iff.mp plain
  obtain ⟨⟨other, middle, left⟩, deeper⟩ := enclosable.shallow _ read
  have same := read.unique room (deeper.moveTo room (Nat.zero_le 1) rfl)
  obtain ⟨rfl, rfl, rfl⟩ := Prod.mk.injEq .. ▸ same
  have moved : Reads 1 (startOf rules (input ++ [')'])) input _ :=
    deeper.moveTo (roomToo.of_length_le (List.prefix_append _ _).length_le) (Nat.le_refl 1) rfl
  obtain closed | commented := moved.close
  · have closes : Closes rules input := by
      intro found there
      rw [there.unique roomToo closed]
    exact (read?_tied_iff closes).mpr ⟨body, _, closed, enclosable.unmixed _ read, rfl, rfl⟩
  · exact absurd rfl (enclosable.apart _ _ read _ commented)

/-- A body after which the parenthesis is left is enclosable, if it does not start with bounds. -/
theorem of_reads {after : Memory}
    (read : Reads 1 (startOf rules (input ++ [')'])) (input ++ [')']) (body, after, [')']))
    (unmixed : ¬after.Mixed)
    (uncounted : flagText rules ≠ [] → ∀ start,
      skip (startOf rules input) input = some ('{' :: start) →
        bounds (startOf rules input) start = none) : Enclosable rules input := by
  have room := hasRoom_startOf rules input
  have closes (found) (there : Reads 1 (startOf rules (input ++ [')'])) (input ++ [')']) found) :
      found.2.2 = [')'] := by
    rw [there.unique (hasRoom_startOf rules (input ++ [')'])) read]
  have deeper : Reads 1 (startOf rules input) input _ := read.of_close.moveTo room (Nat.le_refl 1) rfl
  have alone : Reads 0 (startOf rules input) input _ := read.of_close.moveTo room (Nat.zero_le 1) rfl
  refine ⟨fun _ => closes, fun _ _ _ found there => ?_, fun _ _ => ⟨_, deeper⟩, fun found there => ?_,
    uncounted⟩
  · rw [closes found there]
    exact List.cons_ne_nil _ _
  · rw [there.unique room alone]
    exact unmixed

end Enclosable

/-- If a body is read both ways, then it is the same. -/
theorem read?_tied_eq {body whole : Expression} {groups count : Nat}
    (plain : read? (flagText rules ++ input) = some (body, groups))
    (tied : read? (flagText rules ++ tiedText input) = some (whole, count)) :
    whole = tiedOf body ∧ count = groups := by
  have room := hasRoom_startOf rules (tiedText input)
  have inside := hasRoom_tiedText rules input
  obtain ⟨-, after, read, rfl⟩ := read?_flagText_iff.mp plain
  obtain ⟨-, last, tiedRead, rfl⟩ := read?_flagText_iff.mp tied
  obtain ⟨first, row, follows⟩ := (reads_iff room).mp tiedRead
  obtain ⟨other, middle, left, there, fuel, item⟩ := body_of_readsRow_tied rfl room row
  have here : Reads 0 (startOf rules (tiedText input)) (input ++ [')']) _ :=
    there.moveTo inside (Nat.zero_le 1) rfl
  have alone : Reads 0 (startOf rules (tiedText input)) input _ :=
    read.moveTo (inside.of_length_le (List.prefix_append _ _).length_le) (Nat.le_refl 0) rfl
  obtain closed | commented := alone.close
  · obtain ⟨rfl, same⟩ := Prod.mk.inj (here.unique inside closed)
    obtain ⟨sameMemory, sameRest⟩ := Prod.mk.inj same
    obtain rfl : left = [] := (List.cons.inj sameRest).2
    rw [afterPiece_nil] at item
    obtain rfl := Option.some.inj item
    obtain ⟨-, ended⟩ := follows_nil.mp follows
    obtain ⟨rfl, rfl, -⟩ := Prod.mk.injEq .. ▸ ended
    have opened := congrArg Memory.opened sameMemory
    exact ⟨rfl, opened⟩
  · exact nomatch (Prod.mk.inj (Prod.mk.inj (here.unique inside commented)).2).2

end TypedJson.Backtrack.Reader

namespace TypedJson.Backtrack

open Reader (tiedOf)
open TypedJson.Pattern (Rules flagText tiedText matches_tied)

variable {expression : Expression} {groups : Nat} {text : List Char}

/-! ### Searches -/

/-- Whether a pattern matches at a position, whatever it finds at others. -/
def FindsAt (pattern : Backtrack) (text : List Char) (position : Nat) : Prop :=
  match pattern with
  | plain regex => ∃ last, Regex.Matches text regex position last
  | program code => code.FindsAt text position

/-- What needs no backtracking is small enough for the engine. -/
def Compilable (expression : Expression) : Prop :=
  expression.isHard = false → ∀ regex, expression.plain? = some regex → regex.isCompilable = true

/-- Only the empty expression is empty. -/
theorem eq_empty_of_isEmpty (empty : expression.isEmpty = true) : expression = .empty := by
  cases expression <;> simp_all [Expression.isEmpty]

/-- A search is made for a tied expression if it is made for the expression. -/
theorem isSome_ofExpression?_tiedOf (compilable : Compilable expression)
    (compilableToo : Compilable (tiedOf expression)) :
    (ofExpression? groups (tiedOf expression)).isSome =
      (ofExpression? groups expression).isSome := by
  unfold tiedOf at compilableToo ⊢
  split at compilableToo
  · next empty =>
      obtain rfl := eq_empty_of_isEmpty empty
      have small := compilable rfl .empty rfl
      have smallToo := compilableToo rfl (.look .textStart) rfl
      simp [ofExpression?, Expression.isEmpty, Expression.isHard, Expression.plain?, small, smallToo]
  · next filled =>
      rw [if_neg filled]
      unfold ofExpression?
      rw [Expression.isHard_tied]
      cases hard : expression.isHard with
      | true =>
          rw [if_pos rfl, if_pos rfl, Option.isSome_map, Option.isSome_map,
            Program.isSome_search?_tied hard]
      | false =>
          rw [Expression.plain?_tied]
          cases plain : expression.plain? with
          | none => rfl
          | some regex =>
              have small := compilable hard regex plain
              have smallToo := compilableToo (expression.isHard_tied.trans hard)
                (.seq [.look .textStart, regex]) (by rw [Expression.plain?_tied, plain]; rfl)
              simp [small, smallToo]

/-- What needs no backtracking is made to an ordinary search. -/
theorem eq_of_ofExpression?_easy {search : Backtrack} (easy : expression.isHard = false)
    (made : ofExpression? groups expression = some search) :
    ∃ regex, expression.plain? = some regex ∧ search = plain regex := by
  rw [ofExpression?, easy, if_neg Bool.false_ne_true] at made
  obtain ⟨regex, plain, made⟩ := Option.bind_eq_some_iff.mp made
  split at made
  · exact ⟨regex, plain, (Option.some.inj made).symm⟩
  · cases made

/-- If it is not given up, a tied search finds what the search finds at the start of the text. -/
theorem outcome_tiedOf_iff {search anchored : Backtrack}
    (made : ofExpression? groups expression = some search)
    (madeToo : ofExpression? groups (tiedOf expression) = some anchored) {answer : Bool}
    (settled : anchored.outcome text = some answer) : answer = true ↔ search.FindsAt text 0 := by
  unfold tiedOf at madeToo
  split at madeToo
  · next empty =>
      obtain rfl := eq_empty_of_isEmpty empty
      obtain ⟨regex, plain, rfl⟩ := eq_of_ofExpression?_easy rfl made
      obtain ⟨other, plainToo, rfl⟩ := eq_of_ofExpression?_easy rfl madeToo
      obtain rfl := Option.some.inj plain
      obtain rfl := Option.some.inj plainToo
      obtain rfl : Regex.isMatch (.look .textStart) text = answer := Option.some.inj settled
      have start := (Regex.Look.holdsAt_textStart (Nat.zero_le text.length)).mpr rfl
      have found : Regex.isMatch (.look .textStart) text = true :=
        (Regex.isMatch_iff_matches _ _).mpr ⟨0, 0, Nat.zero_le _, start, rfl⟩
      exact iff_of_true found ⟨0, rfl⟩
  · cases hard : expression.isHard with
    | true =>
        rw [ofExpression?, hard, if_pos rfl] at made
        rw [ofExpression?, Expression.isHard_tied, hard, if_pos rfl] at madeToo
        obtain ⟨program, found, rfl⟩ := Option.map_eq_some_iff.mp made
        obtain ⟨other, foundToo, rfl⟩ := Option.map_eq_some_iff.mp madeToo
        exact Program.outcome_tied hard found foundToo settled
    | false =>
        obtain ⟨regex, plain, rfl⟩ := eq_of_ofExpression?_easy hard made
        obtain ⟨other, plainToo, rfl⟩ :=
          eq_of_ofExpression?_easy (expression.isHard_tied.trans hard) madeToo
        rw [Expression.plain?_tied, plain] at plainToo
        obtain rfl := Option.some.inj plainToo
        obtain rfl : Regex.isMatch (.seq [.look .textStart, regex]) text = answer :=
          Option.some.inj settled
        have nothing (first last : Nat) : Regex.MatchesRow text [] first last ↔ first = last := Iff.rfl
        exact matches_tied nothing

/-- If it is not given up, a search finds what it finds at the start of the text. -/
theorem outcome_of_findsAt {search : Backtrack} (made : ofExpression? groups expression = some search)
    (finds : search.FindsAt text 0) {answer : Bool} (settled : search.outcome text = some answer) :
    answer = true := by
  cases hard : expression.isHard with
  | true =>
      rw [ofExpression?, hard, if_pos rfl] at made
      obtain ⟨program, found, rfl⟩ := Option.map_eq_some_iff.mp made
      exact Program.outcome_of_findsAt found finds settled
  | false =>
      obtain ⟨regex, -, rfl⟩ := eq_of_ofExpression?_easy hard made
      obtain rfl : regex.isMatch text = answer := Option.some.inj settled
      obtain ⟨last, found⟩ := finds
      exact (Regex.isMatch_iff_matches _ _).mpr ⟨0, last, Nat.zero_le _, found⟩

/-- What is read of a text is not too large for the engine where it needs no backtracking. -/
def WithinLimits (input : List Char) : Prop :=
  ∀ expression groups, Reader.read? input = some (expression, groups) → Compilable expression

variable {rules : Rules} {input : List Char}

/-- A tied body is read for the backtracking engine if and only if the body is. -/
theorem isSome_ofText?_tied_iff (enclosable : Reader.Enclosable rules input)
    (within : WithinLimits (flagText rules ++ input))
    (tied : WithinLimits (flagText rules ++ tiedText input)) :
    (ofText? (flagText rules ++ tiedText input)).isSome = true ↔
      (ofText? (flagText rules ++ input)).isSome = true := by
  have searches {groups : Nat} {body : Expression}
      (plain : Reader.read? (flagText rules ++ input) = some (body, groups))
      (anchored : Reader.read? (flagText rules ++ tiedText input) = some (tiedOf body, groups)) :
      (ofText? (flagText rules ++ tiedText input)).isSome =
        (ofText? (flagText rules ++ input)).isSome := by
    simp only [ofText?, plain, anchored, Option.bind_eq_bind, Option.bind_some]
    exact isSome_ofExpression?_tiedOf (within _ _ plain) (tied _ _ anchored)
  constructor
  · intro some
    cases anchored : Reader.read? (flagText rules ++ tiedText input) with
    | none => simp [ofText?, anchored] at some
    | some found =>
        have closes := enclosable.closes (by rw [anchored]; rfl)
        obtain ⟨body, plain, same⟩ := enclosable.read?_of_tied closes anchored
        rwa [← searches plain (same ▸ anchored)]
  · intro some
    cases plain : Reader.read? (flagText rules ++ input) with
    | none => simp [ofText?, plain] at some
    | some found => rwa [searches plain (enclosable.read?_tied plain)]

/-- Of two patterns for the backtracking engine, the tied one finds what the other finds at the start. -/
theorem outcome_ofText?_tied_iff {search anchored : Backtrack}
    (one : ofText? (flagText rules ++ input) = some search)
    (other : ofText? (flagText rules ++ tiedText input) = some anchored) {answer : Bool}
    (settled : anchored.outcome text = some answer) : answer = true ↔ search.FindsAt text 0 := by
  obtain ⟨⟨body, groups⟩, plain, made⟩ := Option.bind_eq_some_iff.mp one
  obtain ⟨⟨whole, count⟩, tied, madeToo⟩ := Option.bind_eq_some_iff.mp other
  obtain ⟨rfl, rfl⟩ := Reader.read?_tied_eq plain tied
  exact outcome_tiedOf_iff made madeToo settled

end TypedJson.Backtrack
