import TypedJson.Proofs.Backtrack.RowClosing

namespace TypedJson.Backtrack.Reader

open HasRest

variable {depth : Nat} {memory after : Memory} {input rest : List Char} {item : Expression}

/-- Alternatives are read with some fuel, and so with any more. -/
def Reads (depth : Nat) (memory : Memory) (input : List Char) (found : Reading) : Prop :=
  ∃ fuel, alternatives fuel depth memory [] input = some found

/-- A row is read with some fuel, and so with any more. -/
def ReadsRow (depth : Nat) (memory : Memory) (done : List Expression) (input : List Char)
    (found : Reading) : Prop :=
  ∃ fuel, sequence fuel depth memory done input = some found

/-- The pattern is large enough for the groups that are opened and for those that may follow. -/
def Memory.HasRoom (memory : Memory) (input : List Char) : Prop :=
  2 * memory.opened + input.length ≤ memory.size

/-- A shorter input has room where a longer one has. -/
theorem Memory.HasRoom.of_length_le {other : List Char} (room : memory.HasRoom input)
    (shorter : other.length ≤ input.length) : memory.HasRoom other :=
  Nat.le_trans (Nat.add_le_add_left shorter _) room

/-- A text has no more characters than bytes. -/
theorem length_le_utf8ByteSize (input : List Char) :
    input.length ≤ (String.ofList input).utf8ByteSize := by
  induction input with
  | nil => exact Nat.zero_le _
  | cons char tail ih =>
      have least := Char.utf8Size_pos char
      have apart : String.ofList (char :: tail) = String.singleton char ++ String.ofList tail := by
        rw [String.singleton_eq_ofList, ← String.ofList_append]
        rfl
      rw [apart, String.utf8ByteSize_append, String.utf8ByteSize_singleton, List.length_cons]
      omega

/-- A pattern has room for itself. -/
theorem hasRoom_start (input : List Char) :
    (Memory.start (String.ofList input).utf8ByteSize).HasRoom input := by
  have long := length_le_utf8ByteSize input
  simpa [Memory.HasRoom, Memory.start] using long

/-- What is read of a row is read with any fuel that is enough. -/
theorem sequence_of_le {fuel more : Nat} {done : List Expression} {found : Reading}
    (room : memory.HasRoom input) (read : sequence fuel depth memory done input = some found)
    (most : 4 * input.length + 1 ≤ more) : sequence more depth memory done input = some found := by
  obtain ⟨item, after, rest⟩ := found
  unfold Memory.HasRoom at room
  obtain ⟨⟨-, -, sized⟩, moves⟩ := (movable fuel).rows done read
  have again : sequence more depth (memory.resize memory.size) done input =
      some (item, after.resize memory.size, rest) :=
    moves (Nat.le_refl depth) (by omega) (by omega)
  rwa [after.resize_self sized] at again

/-- What is read of alternatives is read with any fuel that is enough. -/
theorem alternatives_of_le {fuel more : Nat} {done : List Expression} {found : Reading}
    (room : memory.HasRoom input) (read : alternatives fuel depth memory done input = some found)
    (most : 4 * input.length + 2 ≤ more) : alternatives more depth memory done input = some found := by
  obtain ⟨item, after, rest⟩ := found
  unfold Memory.HasRoom at room
  obtain ⟨⟨-, -, sized⟩, moves⟩ := (movable fuel).choices done read
  have again : alternatives more depth (memory.resize memory.size) done input =
      some (item, after.resize memory.size, rest) :=
    moves (Nat.le_refl depth) (by omega) (by omega)
  rwa [after.resize_self sized] at again

/-- Alternatives are read in one way, whatever the fuel. -/
theorem Reads.unique {found other : Reading} (room : memory.HasRoom input)
    (one : Reads depth memory input found) (two : Reads depth memory input other) :
    found = other := by
  obtain ⟨fuel, one⟩ := one
  obtain ⟨more, two⟩ := two
  exact Option.some.inj ((alternatives_of_le room one (Nat.le_refl _)).symm.trans
    (alternatives_of_le room two (Nat.le_refl _)))

/-- What is read in one place is read in another, with no more groups around and as much room. -/
theorem Reads.move {lower size : Nat} (read : Reads depth memory input (item, after, rest))
    (lowest : lower ≤ depth) (room : (memory.resize size).HasRoom input) :
    Reads lower (memory.resize size) input (item, after.resize size, rest) := by
  obtain ⟨fuel, read⟩ := read
  have spacious : 2 * memory.opened + input.length ≤ size := room
  exact ⟨4 * input.length + 2, ((movable fuel).choices [] read).2 lowest (by omega) (by omega)⟩

/-- What is left has room still. -/
theorem ReadsRow.room {done : List Expression}
    (read : ReadsRow depth memory done input (item, after, rest))
    (room : memory.HasRoom input) : after.HasRoom rest := by
  obtain ⟨fuel, read⟩ := read
  obtain ⟨⟨-, spent, sized⟩, -⟩ := (movable fuel).rows done read
  unfold Memory.HasRoom at room ⊢
  omega

/-- A pattern is read if its alternatives are read to the end. -/
theorem read?_eq_some_iff {expression : Expression} {groups : Nat} :
    read? input = some (expression, groups) ↔
      ∃ after, Reads 0 (.start (String.ofList input).utf8ByteSize) input (expression, after, []) ∧
        after.opened = groups := by
  unfold read?
  constructor
  · intro read
    dsimp only at read
    split at read
    · next found after here =>
        obtain ⟨rfl, rfl⟩ := Prod.mk.inj (Option.some.inj read)
        exact ⟨after, ⟨_, here⟩, rfl⟩
    · cases read
  · rintro ⟨after, ⟨fuel, read⟩, rfl⟩
    dsimp only
    rw [alternatives_of_le (hasRoom_start input) read (by omega)]

/-! ### A parenthesis behind the text -/

/-- What stands before a parenthesis and leaves it is read alone. -/
theorem Reads.of_close (read : Reads depth memory (input ++ [')']) (item, after, [')'])) :
    Reads depth memory input (item, after, []) := by
  obtain ⟨fuel, read⟩ := read
  obtain ⟨⟨body, last, left⟩, here, nothing, same⟩ :=
    Carried.alone ((closable fuel).choices depth memory [] input) read rfl
  obtain rfl : left = [] := nothing
  obtain ⟨rfl, rfl, -⟩ := Prod.mk.injEq .. ▸ same
  exact ⟨fuel, here⟩

/-- What is read alone is read before a parenthesis, which is left or stands in a comment. -/
theorem Reads.close (read : Reads depth memory input (item, after, [])) :
    Reads depth memory (input ++ [')']) (item, after, [')']) ∨
      Reads depth memory (input ++ [')']) (item, after, []) := by
  obtain ⟨fuel, read⟩ := read
  obtain closed | ⟨closed, -⟩ :=
    Carried.whole ((closable fuel).choices depth memory [] input) read
  · exact .inl ⟨fuel, closed⟩
  · exact .inr ⟨fuel, closed⟩

/-! ### Rows -/

/-- What follows the first alternative is read with some fuel, and so with any more. -/
def Follows (depth : Nat) (first found : Reading) : Prop :=
  ∃ fuel, (skip first.2.1 first.2.2).bind (afterMark fuel depth [] first.1 first.2.1) = some found

/-- What follows an alternative is read with any fuel that is enough. -/
theorem afterMark_of_le {fuel more : Nat} {done : List Expression} {found : Reading}
    (room : memory.HasRoom input)
    (read : afterMark fuel depth done item memory input = some found)
    (most : 4 * input.length ≤ more) : afterMark more depth done item memory input = some found := by
  by_cases bar : ∃ tail, input = '|' :: tail
  · obtain ⟨tail, rfl⟩ := bar
    unfold Memory.HasRoom at room
    rw [List.length_cons] at room most
    exact alternatives_of_le (by unfold Memory.HasRoom; omega) read (by omega)
  · rw [not_exists] at bar
    rw [afterMark_last bar] at read ⊢
    exact read

/-- Alternatives are a row and what follows it. -/
theorem reads_iff (room : memory.HasRoom input) {found : Reading} :
    Reads depth memory input found ↔
      ∃ first, ReadsRow depth memory [] input first ∧ Follows depth first found := by
  constructor
  · rintro ⟨_ | fuel, read⟩
    · rw [alternatives] at read
      cases read
    · rw [alternatives_succ] at read
      obtain ⟨first, here, there⟩ := Option.bind_eq_some_iff.mp read
      exact ⟨first, ⟨fuel, here⟩, fuel, there⟩
  · rintro ⟨⟨item, after, left⟩, row, more, there⟩
    have roomToo := row.room room
    obtain ⟨fuel, here⟩ := row
    obtain ⟨start, skipped, follows⟩ := Option.bind_eq_some_iff.mp there
    have shorter := length_skip_le skipped
    have less := ((movable fuel).rows [] here).1.1
    refine ⟨4 * input.length + 2, ?_⟩
    rw [alternatives_succ, sequence_of_le room here (Nat.le_refl _), Option.bind_some]
    dsimp only
    rw [skipped]
    dsimp only at shorter
    unfold Memory.HasRoom at roomToo
    exact afterMark_of_le (by unfold Memory.HasRoom; omega) follows (by omega)

end TypedJson.Backtrack.Reader
