import TypedJson.Proofs.Unicode.Ranges
import TypedJson.Unicode.ByteRow
import Mathlib.Algebra.Order.BigOperators.Group.List
import Mathlib.Algebra.Order.Ring.Nat
import Mathlib.Tactic.SplitIfs

namespace TypedJson.Unicode

/-- The sizes of the blocks that all values of the last bytes make up. -/
def blockSizes : List Nat := [64, 4096, 262144]

/-- Whether a range starts inside of a block that it leaves. -/
def startsInside (size first last : Nat) : Bool := first / size ≠ last / size ∧ first % size ≠ 0

/-- Whether a range ends inside of a block that it enters. -/
def endsInside (size first last : Nat) : Bool :=
  first / size ≠ last / size ∧ last % size ≠ size - 1

/-- How many of the two ends of a range lie inside of a block. -/
def endsOpen (size first last : Nat) : Nat :=
  (startsInside size first last).toNat + (endsInside size first last).toNat

/-- The same for all sizes of blocks. -/
def openEnds (first last : Nat) : Nat := (blockSizes.map fun size => endsOpen size first last).sum

/-- What is true less often counts less. -/
theorem toNat_le_of_imp {one other : Bool} (weaker : one = true → other = true) :
    one.toNat ≤ other.toNat := by
  cases one with
  | false => exact Nat.zero_le _
  | true => rw [weaker rfl]

/-- A range with fewer open ends has fewer open ends inside of blocks. -/
theorem endsOpen_mono {size first last first' last' : Nat}
    (starts : startsInside size first last = true → startsInside size first' last' = true)
    (ends : endsInside size first last = true → endsInside size first' last' = true) :
    endsOpen size first last ≤ endsOpen size first' last' :=
  Nat.add_le_add (toNat_le_of_imp starts) (toNat_le_of_imp ends)

/-- A range that starts and ends with blocks has no open end. -/
theorem endsOpen_eq_zero {size first last : Nat} (starts : startsInside size first last = false)
    (ends : endsInside size first last = false) : endsOpen size first last = 0 := by
  rw [endsOpen, starts, ends]
  rfl

/-- A range without open ends for any size has none in all. -/
theorem openEnds_eq_zero {first last : Nat}
    (closed : ∀ size ∈ blockSizes, endsOpen size first last = 0) : openEnds first last = 0 := by
  rw [openEnds, List.map_congr_left closed]
  rfl

/-- Fewer open ends for one size are fewer in all. -/
theorem openEnds_lt {first last first' last' : Nat}
    (fewer : ∀ size ∈ blockSizes, endsOpen size first last ≤ endsOpen size first' last')
    {size : Nat} (known : size ∈ blockSizes)
    (strict : endsOpen size first last < endsOpen size first' last') :
    openEnds first last < openEnds first' last' :=
  List.sum_lt_sum _ _ fewer ⟨size, known, strict⟩

/-- There are at most two open ends for each size. -/
theorem openEnds_le (first last : Nat) : openEnds first last ≤ 6 := by
  have one (value : Bool) : value.toNat ≤ 1 := Bool.toNat_le value
  have both (size : Nat) : endsOpen size first last ≤ 2 := Nat.add_le_add (one _) (one _)
  have sizes := Nat.add_le_add (both 64) (Nat.add_le_add (both 4096) (both 262144))
  simpa [openEnds, blockSizes] using sizes

/-- Blocks of a smaller size are not cut by the ends of a range. -/
def AlignedBelow (size first last : Nat) : Prop :=
  ∀ smaller ∈ blockSizes, smaller < size → first % smaller = 0 ∧ last % smaller = smaller - 1

section Blocks

variable {size first last : Nat}

/-- Cutting off the block in which a range starts closes one of its ends. -/
theorem openEnds_startBlock (known : size ∈ blockSizes) (aligned : AlignedBelow size first last)
    (leaves : first / size ≠ last / size) (ordered : first ≤ last) (inside : first % size ≠ 0) :
    openEnds first (first / size * size + size - 1) = 0 ∧
      openEnds (first / size * size + size - 1 + 1) last < openEnds first last := by
  have closed (other : Nat) (among : other ∈ blockSizes) :
      endsOpen other first (first / size * size + size - 1) = 0 := by
    have small := aligned other among
    simp only [blockSizes, List.mem_cons, List.not_mem_nil, or_false] at known among
    apply endsOpen_eq_zero
    · simp only [startsInside, decide_eq_false_iff_not]
      obtain rfl | rfl | rfl := known <;> obtain rfl | rfl | rfl := among <;> omega
    · simp only [endsInside, decide_eq_false_iff_not]
      obtain rfl | rfl | rfl := known <;> obtain rfl | rfl | rfl := among <;> omega
  have starts (other : Nat) (among : other ∈ blockSizes) :
      startsInside other (first / size * size + size - 1 + 1) last = true →
        startsInside other first last = true := by
    have small := aligned other among
    simp only [blockSizes, List.mem_cons, List.not_mem_nil, or_false] at known among
    simp only [startsInside, decide_eq_true_eq]
    obtain rfl | rfl | rfl := known <;> obtain rfl | rfl | rfl := among <;> omega
  have ends (other : Nat) (among : other ∈ blockSizes) :
      endsInside other (first / size * size + size - 1 + 1) last = true →
        endsInside other first last = true := by
    have small := aligned other among
    simp only [blockSizes, List.mem_cons, List.not_mem_nil, or_false] at known among
    simp only [endsInside, decide_eq_true_eq]
    obtain rfl | rfl | rfl := known <;> obtain rfl | rfl | rfl := among <;> omega
  have before : startsInside size first last = true := by
    simp [startsInside, leaves, inside]
  have after : startsInside size (first / size * size + size - 1 + 1) last = false := by
    simp only [startsInside, decide_eq_false_iff_not]
    simp only [blockSizes, List.mem_cons, List.not_mem_nil, or_false] at known
    obtain rfl | rfl | rfl := known <;> omega
  refine ⟨openEnds_eq_zero closed, openEnds_lt
    (fun other among => endsOpen_mono (starts other among) (ends other among)) known ?_⟩
  rw [endsOpen, endsOpen, before, after]
  exact Nat.add_lt_add_of_lt_of_le Nat.zero_lt_one (toNat_le_of_imp (ends size known))

/-- Cutting off the block in which a range ends closes the other end. -/
theorem openEnds_endBlock (known : size ∈ blockSizes) (aligned : AlignedBelow size first last)
    (enters : first / size ≠ last / size) (ordered : first ≤ last) (start : first % size = 0)
    (inside : last % size ≠ size - 1) :
    openEnds first (last / size * size - 1) < openEnds first last ∧
      openEnds (last / size * size - 1 + 1) last = 0 := by
  have closed (other : Nat) (among : other ∈ blockSizes) :
      endsOpen other (last / size * size - 1 + 1) last = 0 := by
    have small := aligned other among
    simp only [blockSizes, List.mem_cons, List.not_mem_nil, or_false] at known among
    apply endsOpen_eq_zero
    · simp only [startsInside, decide_eq_false_iff_not]
      obtain rfl | rfl | rfl := known <;> obtain rfl | rfl | rfl := among <;> omega
    · simp only [endsInside, decide_eq_false_iff_not]
      obtain rfl | rfl | rfl := known <;> obtain rfl | rfl | rfl := among <;> omega
  have starts (other : Nat) (among : other ∈ blockSizes) :
      startsInside other first (last / size * size - 1) = true →
        startsInside other first last = true := by
    have small := aligned other among
    simp only [blockSizes, List.mem_cons, List.not_mem_nil, or_false] at known among
    simp only [startsInside, decide_eq_true_eq]
    obtain rfl | rfl | rfl := known <;> obtain rfl | rfl | rfl := among <;> omega
  have ends (other : Nat) (among : other ∈ blockSizes) :
      endsInside other first (last / size * size - 1) = true →
        endsInside other first last = true := by
    have small := aligned other among
    simp only [blockSizes, List.mem_cons, List.not_mem_nil, or_false] at known among
    simp only [endsInside, decide_eq_true_eq]
    obtain rfl | rfl | rfl := known <;> obtain rfl | rfl | rfl := among <;> omega
  have before : endsInside size first last = true := by
    simp [endsInside, enters, inside]
  have after : endsInside size first (last / size * size - 1) = false := by
    simp only [endsInside, decide_eq_false_iff_not]
    simp only [blockSizes, List.mem_cons, List.not_mem_nil, or_false] at known
    obtain rfl | rfl | rfl := known <;> omega
  refine ⟨openEnds_lt (fun other among => endsOpen_mono (starts other among) (ends other among))
    known ?_, openEnds_eq_zero closed⟩
  rw [endsOpen, endsOpen, before, after]
  exact Nat.add_lt_add_of_le_of_lt (toNat_le_of_imp (starts size known)) Nat.zero_lt_one

end Blocks

/-- The last code points for each number of bytes but the greatest. -/
def lengthLimits : List Nat := [0x7F, 0x7FF, 0xFFFF]

/-- Whether the number of bytes grows in a range after some code point. -/
def growsAt (first last limit : Nat) : Bool := first ≤ limit ∧ limit < last

/-- How often the number of bytes grows in a range. -/
def growths (first last : Nat) : Nat :=
  (lengthLimits.map fun limit => (growsAt first last limit).toNat).sum

/-- A range within one number of bytes never grows. -/
theorem growths_eq_zero {first last : Nat}
    (never : ∀ limit ∈ lengthLimits, growsAt first last limit = false) :
    growths first last = 0 := by
  rw [growths, List.map_congr_left fun limit known => congrArg Bool.toNat (never limit known)]
  rfl

/-- A split where the number of bytes grows. -/
theorem growths_split {first last limit : Nat} (known : limit ∈ lengthLimits)
    (grows : growsAt first last limit = true)
    (earliest : ∀ smaller ∈ lengthLimits, smaller < limit → growsAt first last smaller = false) :
    growths first limit = 0 ∧ growths (limit + 1) last < growths first last := by
  simp only [growsAt, decide_eq_true_eq, decide_eq_false_iff_not] at grows earliest
  constructor
  · apply growths_eq_zero
    intro other among
    have small := earliest other among
    simp only [growsAt, decide_eq_false_iff_not]
    omega
  · have kept (other : Nat) : growsAt (limit + 1) last other = true →
        growsAt first last other = true := by
      simp only [growsAt, decide_eq_true_eq]
      omega
    refine List.sum_lt_sum _ _ (fun other _ => toNat_le_of_imp (kept other)) ⟨limit, known, ?_⟩
    have before : growsAt first last limit = true := by simpa [growsAt] using grows
    have after : growsAt (limit + 1) last limit = false := by simp [growsAt]
    rw [before, after]
    exact Nat.zero_lt_one

/-- A range is split at the first growth, if there is one. -/
theorem byLength_cases (first last : Nat) :
    (splitPoint?.byLength first last [0x7F, 0x7FF, 0xFFFF] = none ∧ growths first last = 0) ∨
      ∃ point ∈ lengthLimits, splitPoint?.byLength first last [0x7F, 0x7FF, 0xFFFF] = some point ∧
        growsAt first last point = true ∧
          ∀ smaller ∈ lengthLimits, smaller < point → growsAt first last smaller = false := by
  simp only [splitPoint?.byLength]
  split_ifs with ascii two three
  · exact .inr ⟨_, by decide, rfl, by simpa [growsAt] using ascii, by simp [lengthLimits]⟩
  · refine .inr ⟨_, by decide, rfl, by simpa [growsAt] using two, ?_⟩
    simp [lengthLimits, growsAt] at ascii ⊢
    exact ascii
  · refine .inr ⟨_, by decide, rfl, by simpa [growsAt] using three, ?_⟩
    simp [lengthLimits, growsAt] at ascii two ⊢
    exact ⟨ascii, two⟩
  · refine .inl ⟨rfl, growths_eq_zero ?_⟩
    simp [lengthLimits, growsAt] at ascii two three ⊢
    exact ⟨ascii, two, three⟩

/-- A point at the end of the first block of a range or before its last block. -/
def CutsBlock (size first last point : Nat) : Prop :=
  first / size ≠ last / size ∧
    (first % size ≠ 0 ∧ point = first / size * size + size - 1 ∨
      first % size = 0 ∧ last % size ≠ size - 1 ∧ point = last / size * size - 1)

/-- Only the first size of blocks that a range does not fill makes a split. -/
theorem byBlock_cases {first last point : Nat} {sizes : List Nat}
    (sorted : sizes.Pairwise (· < ·))
    (found : splitPoint?.byBlock first last sizes = some point) :
    ∃ size ∈ sizes, CutsBlock size first last point ∧ ∀ smaller ∈ sizes, smaller < size →
      first / smaller = last / smaller ∨ first % smaller = 0 ∧ last % smaller = smaller - 1 := by
  induction sizes with
  | nil => exact absurd found (by simp [splitPoint?.byBlock])
  | cons size rest ih =>
      obtain ⟨least, sorted⟩ := List.pairwise_cons.mp sorted
      have here (cuts : CutsBlock size first last point) :
          ∃ size' ∈ size :: rest, CutsBlock size' first last point ∧
            ∀ smaller ∈ size :: rest, smaller < size' →
              first / smaller = last / smaller ∨
                first % smaller = 0 ∧ last % smaller = smaller - 1 := by
        refine ⟨size, List.mem_cons_self, cuts, fun smaller among less => ?_⟩
        obtain rfl | later := List.mem_cons.mp among
        · exact absurd less (Nat.lt_irrefl _)
        · exact absurd (least smaller later) (Nat.lt_asymm less)
      have there (skipped : first / size = last / size ∨
          first % size = 0 ∧ last % size = size - 1)
          (found : splitPoint?.byBlock first last rest = some point) :
          ∃ size' ∈ size :: rest, CutsBlock size' first last point ∧
            ∀ smaller ∈ size :: rest, smaller < size' →
              first / smaller = last / smaller ∨
                first % smaller = 0 ∧ last % smaller = smaller - 1 := by
        obtain ⟨size', among, cuts, below⟩ := ih sorted found
        refine ⟨size', List.mem_cons_of_mem _ among, cuts, fun smaller known less => ?_⟩
        obtain rfl | later := List.mem_cons.mp known
        · exact skipped
        · exact below smaller later less
      rw [splitPoint?.byBlock] at found
      split_ifs at found with same start stop
      · exact there (.inl same) found
      · exact here ⟨same, .inl ⟨start, (Option.some.inj found).symm⟩⟩
      · exact here ⟨same, .inr ⟨not_not.mp start, stop, (Option.some.inj found).symm⟩⟩
      · exact there (.inr ⟨not_not.mp start, not_not.mp stop⟩) found

/-- Ranges of codes with the same number of bytes have few rows. -/
theorem openEnds_split {first last point : Nat} (ordered : first ≤ last)
    (found : splitPoint?.byBlock first last [64, 4096, 262144] = some point) :
    openEnds first point + openEnds (point + 1) last < openEnds first last := by
  obtain ⟨size, known, ⟨apart, cut⟩, below⟩ := byBlock_cases (by decide) found
  have aligned : AlignedBelow size first last := by
    intro smaller among less
    obtain same | aligned := below smaller among less
    · have still : first / size = last / size := by
        simp only [blockSizes, List.mem_cons, List.not_mem_nil, or_false] at known among
        obtain rfl | rfl | rfl := known <;> obtain rfl | rfl | rfl := among <;> omega
      exact absurd still apart
    · exact aligned
  obtain ⟨inside, rfl⟩ | ⟨start, inside, rfl⟩ := cut
  · have := openEnds_startBlock known aligned apart ordered inside
    omega
  · have := openEnds_endBlock known aligned apart ordered start inside
    omega

/-- A split makes the number of bytes grow in fewer places, or else closes ends in blocks. -/
theorem splitPoint?_cases {first last point : Nat} (ordered : first ≤ last)
    (found : splitPoint? first last = some point) :
    growths first point = 0 ∧ growths (point + 1) last < growths first last ∨
      growths first last = 0 ∧
        openEnds first point + openEnds (point + 1) last < openEnds first last := by
  rw [splitPoint?] at found
  obtain ⟨none, never⟩ | ⟨limit, known, here, grows, earliest⟩ :=
    byLength_cases first last
  · rw [none, Option.orElse_none] at found
    split_ifs at found
    exact .inr ⟨never, openEnds_split ordered found⟩
  · rw [here, Option.orElse_some] at found
    obtain rfl := Option.some.inj found
    exact .inl (growths_split known grows earliest)

/-- The number of bytes grows nowhere in a part of a range where it does not grow. -/
theorem growths_eq_zero_of_within {first last first' last' : Nat} (never : growths first last = 0)
    (starts : first ≤ first') (ends : last' ≤ last) : growths first' last' = 0 := by
  apply growths_eq_zero
  intro limit known
  have here : (growsAt first last limit).toNat = 0 :=
    List.sum_eq_zero_iff.mp never _ (List.mem_map_of_mem known)
  simp only [Bool.toNat_eq_zero, growsAt, decide_eq_false_iff_not] at here ⊢
  omega

/-- Ends in blocks make a row each, and each number of bytes makes at most seven rows. -/
theorem length_byteRows_le (first last : Nat) (ordered : first ≤ last) :
    (growths first last = 0 → (byteRows first last).length ≤ openEnds first last + 1) ∧
      (byteRows first last).length ≤ 7 * (growths first last + 1) := by
  induction first, last using byteRows.induct with
  | case1 first last point found inside before after =>
      have rows : byteRows first last = byteRows first point ++ byteRows (point + 1) last := by
        rw [byteRows, found]
        simp [inside]
      rw [rows, List.length_append]
      obtain ⟨still, few⟩ := before inside.1
      obtain ⟨later, others⟩ := after inside.2
      have small := openEnds_le first point
      obtain ⟨never, fewer⟩ | ⟨never, fewer⟩ := splitPoint?_cases ordered found
      · have one := still never
        refine ⟨fun none => absurd fewer (by omega), by omega⟩
      · have one := still (growths_eq_zero_of_within never (Nat.le_refl _) (Nat.le_of_lt inside.2))
        have two := later (growths_eq_zero_of_within never (Nat.le_succ_of_le inside.1)
          (Nat.le_refl _))
        have all := openEnds_le first last
        exact ⟨fun _ => by omega, by omega⟩
  | case2 first last point found outside =>
      rw [byteRows, found]
      simp [outside]
  | case3 first last found =>
      rw [byteRows, found]
      simp only [List.length_singleton]
      omega

/-- How many lengths end at some code point or after it. -/
def limitsFrom (start : Nat) : Nat :=
  (lengthLimits.map fun limit => (decide (start ≤ limit)).toNat).sum

/-- A range grows at the limits between its ends. -/
theorem growths_add_le {first last : Nat} (filled : first ≤ last) :
    growths first last + limitsFrom (last + 1) ≤ limitsFrom first := by
  have each (limit : Nat) : (growsAt first last limit).toNat + (decide (last + 1 ≤ limit)).toNat ≤
      (decide (first ≤ limit)).toNat := by
    by_cases grows : limit < last
    · have here : decide (last + 1 ≤ limit) = false := by simp; omega
      rw [here]
      apply toNat_le_of_imp
      simp only [growsAt, decide_eq_true_eq]
      exact And.left
    · have never : growsAt first last limit = false := by simp [growsAt]; omega
      rw [never, Bool.toNat_false, Nat.zero_add]
      apply toNat_le_of_imp
      simp only [decide_eq_true_eq]
      omega
  have ascii := each 0x7F
  have two := each 0x7FF
  have three := each 0xFFFF
  simp only [growths, limitsFrom, lengthLimits, List.map_cons, List.map_nil, List.sum_cons,
    List.sum_nil]
  omega

/-- In ranges in order, the number of bytes grows at most as often as it does at all. -/
theorem sum_growths_le {ranges : Ranges} (normal : Normal ranges) {start : Nat}
    (starts : ∀ range ∈ ranges, start ≤ range.1) :
    (ranges.map fun range => growths range.1 range.2).sum ≤ limitsFrom start := by
  induction ranges generalizing start with
  | nil => exact Nat.zero_le _
  | cons range rest ih =>
      have filled : range.1 ≤ range.2 := normal.filled range List.mem_cons_self
      have others := ih normal.tail fun other inside =>
        Nat.le_of_lt ((List.pairwise_cons.mp normal.apart).1 other inside)
      have here := growths_add_le filled
      have less : limitsFrom range.1 ≤ limitsFrom start := by
        have before := starts range List.mem_cons_self
        refine List.sum_le_sum fun limit _ => toNat_le_of_imp ?_
        simp only [decide_eq_true_eq]
        exact Nat.le_trans before
      rw [List.map_cons, List.sum_cons]
      omega

/-- Ranges in normal form have few rows. -/
theorem length_rowsOf_le {ranges : Ranges} (normal : Normal ranges) :
    (rowsOf ranges).length ≤ 7 * ranges.length + 21 := by
  have rows : (rowsOf ranges).length ≤
      7 * (ranges.map fun range => growths range.1 range.2).sum + 7 * ranges.length := by
    have filled := normal.filled
    rw [rowsOf]
    clear normal
    induction ranges with
    | nil => exact Nat.zero_le _
    | cons range rest ih =>
        have here := (length_byteRows_le range.1 range.2 (filled range List.mem_cons_self)).2
        have others := ih fun other later => filled other (List.mem_cons_of_mem _ later)
        rw [List.flatMap_cons, List.length_append, List.length_cons, List.map_cons, List.sum_cons]
        omega
  have few : _ ≤ limitsFrom 0 := sum_growths_le normal fun range _ => Nat.zero_le range.1
  have limits : limitsFrom 0 = 3 := rfl
  omega

/-- A code point takes at most four bytes. -/
theorem length_bytesOf_le (code : Nat) : (bytesOf code).length ≤ 4 := by
  unfold bytesOf
  split_ifs <;> simp

/-- A row has a byte range for each byte. -/
theorem length_of_mem_byteRows {first last : Nat} {row : Ranges}
    (inside : row ∈ byteRows first last) : row.length ≤ 4 := by
  induction first, last using byteRows.induct with
  | case1 first last point found within before after =>
      rw [byteRows, found] at inside
      simp only [within, and_self, dite_true, List.mem_append] at inside
      exact inside.elim before after
  | case2 first last point found outside =>
      rw [byteRows, found] at inside
      simp [outside] at inside
  | case3 first last found =>
      rw [byteRows, found] at inside
      obtain rfl := List.mem_singleton.mp inside
      rw [List.length_zip]
      exact Nat.le_trans (Nat.min_le_left _ _) (length_bytesOf_le first)

/-- A row has at most four bytes. -/
theorem length_of_mem_rowsOf {ranges : Ranges} {row : Ranges} (inside : row ∈ rowsOf ranges) :
    row.length ≤ 4 := by
  obtain ⟨range, -, here⟩ := List.mem_flatMap.mp inside
  exact length_of_mem_byteRows here

end TypedJson.Unicode
