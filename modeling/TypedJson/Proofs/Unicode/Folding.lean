import Mathlib.Data.List.Basic
import TypedJson.Regex.CharSet

namespace TypedJson.Unicode

/-- A code point that no run folds to another, and that none folds to. -/
def Uncased (code : Nat) : Prop :=
  ∀ run ∈ foldRuns, run.covers code = false ∧ run.source? code = none

/-- Folding leads to a code point, never below zero. -/
theorem FoldRun.shift_nonneg {run : FoldRun} (known : run ∈ foldRuns) :
    0 ≤ (run.first : Int) + run.shift := by
  have all : ∀ run ∈ foldRuns, 0 ≤ (run.first : Int) + run.shift := by decide +kernel
  exact all run known

/-- The runs that fold to ASCII: the capital letters, the long s and the sign for Kelvin. -/
def asciiRuns : List FoldRun :=
  [⟨0x41, 0x5A, 1, 32⟩, ⟨0x17F, 0x17F, 1, -268⟩, ⟨0x212A, 0x212A, 1, -8383⟩]

/-- The runs that lead into ASCII are few. -/
theorem filter_foldRuns_target :
    foldRuns.filter (fun run => (run.first : Int) + run.shift < 128) = asciiRuns := rfl

/-- One run starts in ASCII. -/
theorem filter_foldRuns_first :
    foldRuns.filter (fun run => run.first < 128) = [⟨0x41, 0x5A, 1, 32⟩] := rfl

/-- A run covers what lies between its ends. -/
theorem FoldRun.covers_le {run : FoldRun} {code : Nat} (covers : run.covers code = true) :
    run.first ≤ code ∧ code ≤ run.last := by
  simp only [FoldRun.covers, Bool.and_eq_true, decide_eq_true_eq] at covers
  exact covers.1

/-- Of ASCII only the capital letters are folded. -/
theorem FoldRun.eq_capitals {run : FoldRun} {code : Nat} (known : run ∈ foldRuns)
    (covers : run.covers code = true) (ascii : code < 128) : run = ⟨0x41, 0x5A, 1, 32⟩ := by
  have low : run ∈ foldRuns.filter (fun run => run.first < 128) :=
    List.mem_filter.mpr ⟨known, by simpa using Nat.lt_of_le_of_lt (covers_le covers).1 ascii⟩
  rwa [filter_foldRuns_first, List.mem_singleton] at low

/-- A run leads from a covered character to the target. -/
theorem FoldRun.source?_eq_some {run : FoldRun} {target code : Nat} :
    run.source? target = some code ↔ (code : Int) + run.shift = target ∧ run.covers code = true := by
  simp only [source?]
  constructor
  · intro found
    split at found
    · next fits =>
        obtain rfl := Option.some.inj found
        exact ⟨by omega, fits.2⟩
    · exact nomatch found
  · rintro ⟨same, covers⟩
    have back : (target : Int) - run.shift = code := by omega
    simp [back, covers]

/-- Only few runs fold to ASCII. -/
theorem FoldRun.mem_asciiRuns {run : FoldRun} {target code : Nat} (known : run ∈ foldRuns)
    (found : run.source? target = some code) (ascii : target < 128) : run ∈ asciiRuns := by
  obtain ⟨same, covers⟩ := source?_eq_some.mp found
  have above := (covers_le covers).1
  rw [← filter_foldRuns_target]
  exact List.mem_filter.mpr ⟨known, by rw [decide_eq_true_eq]; omega⟩

/-- What a run folds has its place in the orbit that the run leads to. -/
theorem FoldRun.source?_fold {run : FoldRun} {code : Nat} (known : run ∈ foldRuns)
    (covers : run.covers code = true) :
    run.source? ((code : Int) + run.shift).toNat = some code := by
  have nonneg := run.shift_nonneg known
  have above := (covers_le covers).1
  exact source?_eq_some.mpr ⟨by omega, covers⟩

/-- A character without case is folded to itself. -/
theorem fold_uncased {code : Nat} (uncased : Uncased code) : fold code = code := by
  have none : foldRuns.find? (·.covers code) = none := by
    rw [List.find?_eq_none]
    intro run known
    rw [(uncased run known).1]
    decide
  rw [fold, none]

/-- Only the code point itself folds to one without case. -/
theorem fold_eq_uncased {code other : Nat} (uncased : Uncased other) (same : fold code = other) :
    code = other := by
  unfold fold at same
  split at same
  · next run found =>
      have known := List.mem_of_find?_eq_some found
      have covers : run.covers code = true := by simpa using List.find?_some found
      have source := FoldRun.source?_fold known covers
      rw [same, (uncased run known).2] at source
      exact absurd source (by simp)
  · exact same

/-- Only the character itself has a character without case in its orbit. -/
theorem caseOrbit_any_uncased {other : Nat} (uncased : Uncased other) (code : Nat) :
    (caseOrbit code).any (fun member => member == other) = (code == other) := by
  rw [Bool.eq_iff_iff]
  simp only [List.any_eq_true, beq_iff_eq, exists_eq_right]
  constructor
  · intro inside
    rcases List.mem_cons.mp inside with same | source
    · exact fold_eq_uncased uncased same.symm
    · obtain ⟨run, known, found⟩ := List.mem_filterMap.mp source
      have covers := (FoldRun.source?_eq_some.mp found).2
      rw [(uncased run known).1] at covers
      exact absurd covers (by simp)
  · rintro rfl
    apply List.mem_cons.mpr
    exact .inl (fold_uncased uncased).symm

/-- No character of ASCII but the letters has a case. -/
theorem uncased_of_ascii {code : Nat} (ascii : code < 128) (upper : code < 65 ∨ 90 < code)
    (lower : code < 97 ∨ 122 < code) : Uncased code := by
  intro run known
  constructor
  · rw [← Bool.not_eq_true]
    intro covers
    obtain rfl := FoldRun.eq_capitals known covers ascii
    have bounds : 0x41 ≤ code ∧ code ≤ 0x5A := FoldRun.covers_le covers
    omega
  · rw [Option.eq_none_iff_forall_ne_some]
    intro source found
    have few := FoldRun.mem_asciiRuns known found ascii
    obtain ⟨same, covers⟩ := FoldRun.source?_eq_some.mp found
    have bounds := FoldRun.covers_le covers
    simp only [asciiRuns, List.mem_cons, List.not_mem_nil, or_false] at few
    rcases few with rfl | rfl | rfl <;> dsimp only at same bounds <;> omega

/-- Every code point differs from itself in case at most. -/
theorem mem_caseOrbit (code : Nat) : code ∈ caseOrbit code := by
  cases found : foldRuns.find? (·.covers code) with
  | none =>
      have same : fold code = code := by rw [fold, found]
      rw [caseOrbit, same]
      exact List.mem_cons_self
  | some run =>
      have target : fold code = ((code : Int) + run.shift).toNat := by rw [fold, found]
      have known := List.mem_of_find?_eq_some found
      have covers : run.covers code = true := by simpa using List.find?_some found
      have source := FoldRun.source?_fold known covers
      rw [← target] at source
      exact List.mem_cons_of_mem _ (List.mem_filterMap.mpr ⟨run, known, source⟩)

/-! ### Orbits of ASCII -/

/-- A code point of ASCII with those that fold to it. -/
def asciiOrbit (target : Nat) : List Nat := target :: asciiRuns.filterMap (·.source? target)

/-- The orbit of a character of ASCII is itself and what the runs lead from. -/
theorem asciiOrbit_eq {target : Nat} (ascii : target < 128) :
    asciiOrbit target = target :: foldRuns.filterMap (·.source? target) := by
  refine congrArg (target :: ·) ?_
  rw [← filter_foldRuns_target, List.filterMap_filter]
  refine List.filterMap_congr fun run known => ?_
  split
  · rfl
  · next high =>
      rw [eq_comm, Option.eq_none_iff_forall_ne_some]
      intro source found
      have low := FoldRun.mem_asciiRuns known found ascii
      rw [← filter_foldRuns_target] at low
      exact high (List.mem_filter.mp low).2

/-- In ASCII only capital letters are folded. -/
theorem fold_ascii {code : Nat} (ascii : code < 128) :
    fold code = if 65 ≤ code ∧ code ≤ 90 then code + 32 else code := by
  unfold fold
  split
  · next run found =>
      have covers : run.covers code = true := by simpa using List.find?_some found
      obtain rfl := FoldRun.eq_capitals (List.mem_of_find?_eq_some found) covers ascii
      rw [if_pos (FoldRun.covers_le covers)]
      exact Int.toNat_natCast (code + 32)
  · next nothing =>
      rw [if_neg]
      rintro ⟨low, high⟩
      rw [List.find?_eq_none] at nothing
      exact nothing ⟨0x41, 0x5A, 1, 32⟩ List.mem_cons_self (by simp [FoldRun.covers, low, high, Nat.mod_one])

/-- The orbit of a character of ASCII is that of its small letter. -/
theorem caseOrbit_ascii {code : Nat} (ascii : code < 128) :
    caseOrbit code = asciiOrbit (if 65 ≤ code ∧ code ≤ 90 then code + 32 else code) := by
  have low : fold code < 128 := by
    rw [fold_ascii ascii]
    split <;> omega
  rw [← fold_ascii ascii, asciiOrbit_eq low]
  rfl

/-- What differs from a character of ASCII in case only folds to one of ASCII. -/
theorem fold_lt_of_mem_caseOrbit {code other : Nat} (inside : other ∈ caseOrbit code)
    (ascii : other < 128) : fold code < 128 := by
  rcases List.mem_cons.mp inside with same | source
  · exact same ▸ ascii
  · obtain ⟨run, known, found⟩ := List.mem_filterMap.mp source
    obtain ⟨same, covers⟩ := FoldRun.source?_eq_some.mp found
    obtain rfl := FoldRun.eq_capitals known covers ascii
    have bounds : 0x41 ≤ other ∧ other ≤ 0x5A := FoldRun.covers_le covers
    dsimp only at same
    omega

/-- The code points that differ in case at most from one that a list of ASCII has. -/
theorem caseOrbit_any_ascii {test : Nat → Bool} (ascii : ∀ code, test code = true → code < 128)
    {more : List Nat}
    (closed : ∀ target < 128, ∀ code ∈ asciiOrbit target, (asciiOrbit target).any test = true →
      test code = true ∨ code ∈ more)
    (reached : ∀ code ∈ more, (caseOrbit code).any test = true) (code : Nat) :
    (caseOrbit code).any test = true ↔ test code = true ∨ code ∈ more := by
  constructor
  · intro found
    obtain ⟨other, inside, here⟩ := List.any_eq_true.mp found
    have low := fold_lt_of_mem_caseOrbit inside (ascii other here)
    have same : caseOrbit code = asciiOrbit (fold code) := (asciiOrbit_eq low).symm
    exact closed (fold code) low code (same ▸ mem_caseOrbit code) (same ▸ found)
  · rintro (here | extra)
    · exact List.any_eq_true.mpr ⟨code, mem_caseOrbit code, here⟩
    · exact reached code extra

end TypedJson.Unicode
