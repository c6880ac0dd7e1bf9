import TypedJson.Unicode.Folding
import Mathlib.Data.List.Basic

namespace TypedJson.Unicode

/-! ### Sizes -/

/-- Inserting adds one range. -/
theorem length_insertRange (range : Nat × Nat) (ranges : Ranges) :
    (insertRange range ranges).length = ranges.length + 1 := by
  induction ranges with
  | nil => rfl
  | cons next rest ih =>
      rw [insertRange]
      split
      · rfl
      · rw [List.length_cons, ih, List.length_cons]

/-- Joining adds at most one range. -/
theorem length_joinFrom_le (first last : Nat) (ranges : Ranges) :
    (joinFrom first last ranges).length ≤ ranges.length + 1 := by
  induction ranges generalizing first last with
  | nil => exact Nat.le_refl _
  | cons next rest ih =>
      obtain ⟨start, stop⟩ := next
      rw [joinFrom]
      split
      · exact Nat.le_succ_of_le (ih first (max last stop))
      · exact Nat.succ_le_succ (ih start stop)

/-- The normal form has no more ranges. -/
theorem length_normalize_le (ranges : Ranges) : (normalize ranges).length ≤ ranges.length := by
  have sorted : (ranges.foldr insertRange []).length = ranges.length := by
    induction ranges with
    | nil => rfl
    | cons range rest ih => rw [List.foldr_cons, length_insertRange, ih, List.length_cons]
  rw [normalize, ← sorted]
  split
  · exact Nat.zero_le _
  · next first last rest same =>
      rw [same, List.length_cons]
      exact length_joinFrom_le first last rest

/-- There is at most one gap more than ranges. -/
theorem length_gapsFrom_le (start : Nat) (ranges : Ranges) :
    (gapsFrom start ranges).length ≤ ranges.length + 1 := by
  induction ranges generalizing start with
  | nil =>
      rw [gapsFrom]
      split
      · exact Nat.le_refl _
      · exact Nat.zero_le _
  | cons next rest ih =>
      obtain ⟨first, last⟩ := next
      rw [gapsFrom]
      split
      · exact Nat.succ_le_succ (ih (last + 1))
      · exact Nat.le_succ_of_le (ih (last + 1))

/-- A complement has at most one range more. -/
theorem length_complement_le (ranges : Ranges) :
    (complement ranges).length ≤ ranges.length + 1 :=
  Nat.le_trans (length_gapsFrom_le 0 (normalize ranges))
    (Nat.succ_le_succ (length_normalize_le ranges))

/-- A union has no more ranges than both together. -/
theorem length_union_le (left right : Ranges) :
    (union left right).length ≤ left.length + right.length := by
  rw [← List.length_append]
  exact length_normalize_le (left ++ right)

/-- A difference has at most two ranges more than both together. -/
theorem length_difference_le (left right : Ranges) :
    (difference left right).length ≤ left.length + right.length + 2 := by
  have outer := length_complement_le (complement left ++ right)
  have inner := length_complement_le left
  rw [List.length_append] at outer
  rw [difference]
  omega

/-! ### Normal forms -/

/-- Ranges have the members of the first and of the others. -/
theorem inRanges_cons (range : Nat × Nat) (rest : Ranges) (code : Nat) :
    inRanges (range :: rest) code =
      (decide (range.1 ≤ code) && decide (code ≤ range.2) || inRanges rest code) := rfl

/-- Two lists of ranges have the members of both. -/
theorem inRanges_append (left right : Ranges) (code : Nat) :
    inRanges (left ++ right) code = (inRanges left code || inRanges right code) :=
  List.any_append

/-- Ranges that are not empty. -/
def Filled (ranges : Ranges) : Prop := ∀ range ∈ ranges, range.1 ≤ range.2

/-- Ranges in order with a gap between each two. -/
structure Normal (ranges : Ranges) : Prop where
  filled : Filled ranges
  apart : ranges.Pairwise fun left right => left.2 + 1 < right.1

/-- Where a range is inserted makes no difference to the members. -/
theorem inRanges_insertRange (range : Nat × Nat) (ranges : Ranges) (code : Nat) :
    inRanges (insertRange range ranges) code = inRanges (range :: ranges) code := by
  induction ranges with
  | nil => rfl
  | cons next rest ih =>
      rw [insertRange]
      split
      · rfl
      · rw [inRanges_cons, ih, inRanges_cons, inRanges_cons, inRanges_cons]
        exact Bool.or_left_comm _ _ _

/-- Only the one range is inserted. -/
theorem mem_insertRange {range other : Nat × Nat} {ranges : Ranges} :
    other ∈ insertRange range ranges ↔ other = range ∨ other ∈ ranges := by
  induction ranges with
  | nil => simp [insertRange]
  | cons next rest ih =>
      rw [insertRange]
      split
      · simp
      · simp only [List.mem_cons, ih]
        exact or_left_comm

/-- Inserting keeps the order. -/
theorem sorted_insertRange (range : Nat × Nat) {ranges : Ranges}
    (sorted : ranges.Pairwise fun left right => left.1 ≤ right.1) :
    (insertRange range ranges).Pairwise fun left right => left.1 ≤ right.1 := by
  induction ranges with
  | nil => exact List.pairwise_singleton _ _
  | cons next rest ih =>
      obtain ⟨least, others⟩ := List.pairwise_cons.mp sorted
      rw [insertRange]
      split
      · next before =>
          refine List.pairwise_cons.mpr ⟨fun other inside => ?_, sorted⟩
          obtain rfl | later := List.mem_cons.mp inside
          · exact before
          · exact Nat.le_trans before (least other later)
      · next after =>
          refine List.pairwise_cons.mpr ⟨fun other inside => ?_, ih others⟩
          obtain rfl | later := mem_insertRange.mp inside
          · exact Nat.le_of_not_le after
          · exact least other later

/-- The ranges in order of their starts. -/
theorem foldr_insertRange (ranges : Ranges) :
    (∀ code, inRanges (ranges.foldr insertRange []) code = inRanges ranges code) ∧
      (∀ range, range ∈ ranges.foldr insertRange [] ↔ range ∈ ranges) ∧
      (ranges.foldr insertRange []).Pairwise fun left right => left.1 ≤ right.1 := by
  induction ranges with
  | nil => exact ⟨fun _ => rfl, fun _ => Iff.rfl, List.Pairwise.nil⟩
  | cons range rest ih =>
      obtain ⟨same, members, sorted⟩ := ih
      rw [List.foldr_cons]
      refine ⟨fun code => ?_, fun other => ?_, sorted_insertRange range sorted⟩
      · rw [inRanges_insertRange, inRanges_cons, same, inRanges_cons]
      · rw [mem_insertRange, members, List.mem_cons]

section Join

variable {first last : Nat} {ranges : Ranges}

/-- Joining keeps the members. -/
theorem inRanges_joinFrom (filled : first ≤ last) (others : Filled ranges)
    (sorted : ((first, last) :: ranges).Pairwise fun left right => left.1 ≤ right.1) (code : Nat) :
    inRanges (joinFrom first last ranges) code = inRanges ((first, last) :: ranges) code := by
  induction ranges generalizing first last with
  | nil => rfl
  | cons next rest ih =>
      obtain ⟨start, stop⟩ := next
      obtain ⟨least, later⟩ := List.pairwise_cons.mp sorted
      have ordered : first ≤ start := least _ List.mem_cons_self
      have full : start ≤ stop := others _ List.mem_cons_self
      have remaining : Filled rest := fun range inside => others range (List.mem_cons_of_mem _ inside)
      rw [joinFrom]
      split
      · next touches =>
          have joined : ((first, max last stop) :: rest).Pairwise
              fun left right => left.1 ≤ right.1 :=
            List.pairwise_cons.mpr ⟨fun range inside => least range (List.mem_cons_of_mem _ inside),
              (List.pairwise_cons.mp later).2⟩
          rw [ih (Nat.le_trans filled (Nat.le_max_left _ _)) remaining joined, inRanges_cons,
            inRanges_cons, inRanges_cons, ← Bool.or_assoc]
          congr 1
          rw [Bool.eq_iff_iff]
          simp only [Bool.or_eq_true, Bool.and_eq_true, decide_eq_true_eq]
          omega
      · rw [inRanges_cons, ih full remaining later]
        rfl

/-- Joined ranges in order are in normal form. -/
theorem normal_joinFrom (filled : first ≤ last) (others : Filled ranges)
    (sorted : ((first, last) :: ranges).Pairwise fun left right => left.1 ≤ right.1) :
    Normal (joinFrom first last ranges) ∧ ∀ range ∈ joinFrom first last ranges, first ≤ range.1 := by
  induction ranges generalizing first last with
  | nil =>
      rw [joinFrom]
      refine ⟨⟨fun range inside => ?_, List.pairwise_singleton _ _⟩, fun range inside => ?_⟩
      · obtain rfl := List.mem_singleton.mp inside
        exact filled
      · obtain rfl := List.mem_singleton.mp inside
        exact Nat.le_refl _
  | cons next rest ih =>
      obtain ⟨start, stop⟩ := next
      obtain ⟨least, later⟩ := List.pairwise_cons.mp sorted
      have ordered : first ≤ start := least _ List.mem_cons_self
      have full : start ≤ stop := others _ List.mem_cons_self
      have remaining : Filled rest := fun range inside => others range (List.mem_cons_of_mem _ inside)
      rw [joinFrom]
      split
      · exact ih (Nat.le_trans filled (Nat.le_max_left _ _)) remaining
          (List.pairwise_cons.mpr ⟨fun range inside => least range (List.mem_cons_of_mem _ inside),
            (List.pairwise_cons.mp later).2⟩)
      · next gap =>
          obtain ⟨normal, above⟩ := ih full remaining later
          refine ⟨⟨fun range inside => ?_, List.pairwise_cons.mpr ⟨fun range inside => ?_,
            normal.apart⟩⟩, fun range inside => ?_⟩
          · obtain rfl | here := List.mem_cons.mp inside
            · exact filled
            · exact normal.filled range here
          · have bound := above range inside
            show last + 1 < range.1
            omega
          · obtain rfl | here := List.mem_cons.mp inside
            · exact Nat.le_refl _
            · exact Nat.le_trans ordered (above range here)

end Join

/-- The normal form is normal and keeps the members. -/
theorem normalize_spec {ranges : Ranges} (filled : Filled ranges) :
    Normal (normalize ranges) ∧ ∀ code, inRanges (normalize ranges) code = inRanges ranges code := by
  obtain ⟨same, members, sorted⟩ := foldr_insertRange ranges
  have all : Filled (ranges.foldr insertRange []) :=
    fun range inside => filled range ((members range).mp inside)
  rw [normalize]
  generalize ranges.foldr insertRange [] = found at same sorted all
  match found with
  | [] => exact ⟨⟨fun range inside => absurd inside List.not_mem_nil, List.Pairwise.nil⟩, same⟩
  | (first, last) :: rest =>
      have full : first ≤ last := all _ List.mem_cons_self
      have remaining : Filled rest := fun range inside => all range (List.mem_cons_of_mem _ inside)
      exact ⟨(normal_joinFrom full remaining sorted).1,
        fun code => (inRanges_joinFrom full remaining sorted code).trans (same code)⟩

/-- A normal form is normal behind its first range. -/
theorem Normal.tail {range : Nat × Nat} {rest : Ranges} (normal : Normal (range :: rest)) :
    Normal rest :=
  ⟨fun other inside => normal.filled other (List.mem_cons_of_mem _ inside),
    (List.pairwise_cons.mp normal.apart).2⟩

/-- After the first range of a normal form there is a gap. -/
theorem Normal.lt_of_inRanges {range : Nat × Nat} {rest : Ranges} (normal : Normal (range :: rest))
    {code : Nat} (inside : inRanges rest code = true) : range.2 + 1 < code := by
  obtain ⟨other, known, here⟩ := List.any_eq_true.mp inside
  have apart := (List.pairwise_cons.mp normal.apart).1 other known
  simp only [Bool.and_eq_true, decide_eq_true_eq] at here
  omega

/-- Normal forms with the same members are the same. -/
theorem Normal.ext {left right : Ranges} (normal : Normal left) (other : Normal right)
    (same : ∀ code, inRanges left code = inRanges right code) : left = right := by
  induction left generalizing right with
  | nil =>
      cases right with
      | nil => rfl
      | cons range rest =>
          have full : range.1 ≤ range.2 := other.filled _ List.mem_cons_self
          have here := same range.1
          rw [inRanges_cons] at here
          simp [inRanges, full] at here
  | cons range rest ih =>
      cases right with
      | nil =>
          have full : range.1 ≤ range.2 := normal.filled _ List.mem_cons_self
          have here := same range.1
          rw [inRanges_cons] at here
          simp [inRanges, full] at here
      | cons range' rest' =>
          obtain ⟨first, last⟩ := range
          obtain ⟨first', last'⟩ := range'
          have full : first ≤ last := normal.filled _ List.mem_cons_self
          have full' : first' ≤ last' := other.filled _ List.mem_cons_self
          have members (code : Nat) : (first ≤ code ∧ code ≤ last) ∨ inRanges rest code = true ↔
              (first' ≤ code ∧ code ≤ last') ∨ inRanges rest' code = true := by
            simpa [inRanges_cons] using Bool.eq_iff_iff.mp (same code)
          have later {code : Nat} (inside : inRanges rest code = true) : last + 1 < code :=
            normal.lt_of_inRanges inside
          have later' {code : Nat} (inside : inRanges rest' code = true) : last' + 1 < code :=
            other.lt_of_inRanges inside
          -- Both start at the least member and end before the least gap.
          have starts : first = first' := by
            apply Nat.le_antisymm
            · obtain here | rest := (members first').mpr (.inl ⟨Nat.le_refl _, full'⟩)
              · exact here.1
              · exact Nat.le_trans full (Nat.le_of_lt (Nat.lt_of_succ_lt (later rest)))
            · obtain here | rest := (members first).mp (.inl ⟨Nat.le_refl _, full⟩)
              · exact here.1
              · exact Nat.le_trans full' (Nat.le_of_lt (Nat.lt_of_succ_lt (later' rest)))
          have ends : last = last' := by
            rcases Nat.lt_trichotomy last last' with less | same | more
            · obtain here | rest := (members (last + 1)).mpr (.inl ⟨by omega, less⟩)
              · exact absurd here.2 (Nat.not_succ_le_self _)
              · exact absurd (later rest) (Nat.lt_irrefl _)
            · exact same
            · obtain here | rest := (members (last' + 1)).mp (.inl ⟨by omega, more⟩)
              · exact absurd here.2 (Nat.not_succ_le_self _)
              · exact absurd (later' rest) (Nat.lt_irrefl _)
          subst starts ends
          have rests : rest = rest' := ih normal.tail other.tail fun code => by
            rw [Bool.eq_iff_iff]
            constructor
            · intro inside
              have beyond := later inside
              exact ((members code).mp (.inr inside)).resolve_left fun here => by omega
            · intro inside
              have beyond := later' inside
              exact ((members code).mpr (.inr inside)).resolve_left fun here => by omega
          rw [rests]

/-- Gaps are never empty. -/
theorem filled_gapsFrom (start : Nat) (ranges : Ranges) : Filled (gapsFrom start ranges) := by
  intro range inside
  induction ranges generalizing start with
  | nil =>
      rw [gapsFrom] at inside
      split at inside
      · next small =>
          obtain rfl := List.mem_singleton.mp inside
          exact small
      · exact absurd inside List.not_mem_nil
  | cons next rest ih =>
      obtain ⟨first, last⟩ := next
      rw [gapsFrom] at inside
      split at inside
      · next before =>
          obtain rfl | later := List.mem_cons.mp inside
          · exact Nat.le_sub_one_of_lt before
          · exact ih (last + 1) later
      · exact ih (last + 1) inside

/-- Between the gaps of a normal form are its ranges. -/
theorem apart_gapsFrom {start : Nat} {ranges : Ranges} (normal : Normal ranges)
    (starts : ∀ range ∈ ranges, start ≤ range.1) :
    ((gapsFrom start ranges).Pairwise fun left right => left.2 + 1 < right.1) ∧
      ∀ range ∈ gapsFrom start ranges, start ≤ range.1 := by
  induction ranges generalizing start with
  | nil =>
      rw [gapsFrom]
      split
      · refine ⟨List.pairwise_singleton _ _, fun range inside => ?_⟩
        obtain rfl := List.mem_singleton.mp inside
        exact Nat.le_refl _
      · exact ⟨List.Pairwise.nil, fun range inside => absurd inside List.not_mem_nil⟩
  | cons next rest ih =>
      obtain ⟨first, last⟩ := next
      have full : first ≤ last := normal.filled _ List.mem_cons_self
      have above : start ≤ first := starts _ List.mem_cons_self
      obtain ⟨others, later⟩ := ih normal.tail fun range inside =>
        Nat.le_of_lt ((List.pairwise_cons.mp normal.apart).1 range inside)
      rw [gapsFrom]
      split
      · refine ⟨List.pairwise_cons.mpr ⟨fun range inside => ?_, others⟩, fun range inside => ?_⟩
        · have bound := later range inside
          show first - 1 + 1 < range.1
          omega
        · obtain rfl | here := List.mem_cons.mp inside
          · exact Nat.le_refl _
          · have bound := later range here
            omega
      · refine ⟨others, fun range inside => ?_⟩
        have bound := later range inside
        omega

/-- A complement is in normal form. -/
theorem normal_complement {ranges : Ranges} (filled : Filled ranges) :
    Normal (complement ranges) :=
  ⟨filled_gapsFrom 0 (normalize ranges),
    (apart_gapsFrom (normalize_spec filled).1 fun _ _ => Nat.zero_le _).1⟩

/-- A difference is in normal form. -/
theorem normal_difference (left : Ranges) {right : Ranges} (filled : Filled right) :
    Normal (difference left right) :=
  normal_complement fun range inside => (List.mem_append.mp inside).elim
    (filled_gapsFrom 0 (normalize left) range) (filled range)

/-- A normal form stays as it is when members of it are added. -/
theorem normalize_append_of_subset {ranges more : Ranges} (normal : Normal ranges)
    (filled : Filled more)
    (inside : ∀ code, inRanges more code = true → inRanges ranges code = true) :
    normalize (ranges ++ more) = ranges := by
  have all : Filled (ranges ++ more) := fun range known =>
    (List.mem_append.mp known).elim (normal.filled range) (filled range)
  obtain ⟨made, members⟩ := normalize_spec all
  apply made.ext normal
  intro code
  rw [members, inRanges_append, Bool.or_eq_left_iff_imp]
  exact inside code

/-- The code points that some pairs select, each as a range of its own. -/
theorem singles_spec (pairs : List (Nat × Nat)) (test : Nat × Nat → Bool)
    (code : Nat × Nat → Nat) :
    Filled (pairs.filterMap fun pair => if test pair then some (code pair, code pair) else none) ∧
      ∀ member, inRanges
          (pairs.filterMap fun pair => if test pair then some (code pair, code pair) else none)
          member = true →
        ∃ pair ∈ pairs, test pair = true ∧ code pair = member := by
  have known {range : Nat × Nat} (inside : range ∈ pairs.filterMap fun pair =>
      if test pair then some (code pair, code pair) else none) :
      ∃ pair ∈ pairs, test pair = true ∧ (code pair, code pair) = range := by
    obtain ⟨pair, among, found⟩ := List.mem_filterMap.mp inside
    split at found
    · next holds => exact ⟨pair, among, holds, Option.some.inj found⟩
    · exact absurd found (by simp)
  constructor
  · intro range inside
    obtain ⟨pair, -, -, rfl⟩ := known inside
    exact Nat.le_refl _
  · intro member inside
    obtain ⟨range, among, here⟩ := List.any_eq_true.mp inside
    obtain ⟨pair, there, holds, rfl⟩ := known among
    simp only [Bool.and_eq_true, decide_eq_true_eq] at here
    exact ⟨pair, there, holds, Nat.le_antisymm here.1 here.2⟩

/-- A set that has none or both of each two that differ in case stays as it is. -/
theorem closeUnderCase_of_closed {ranges : Ranges} (normal : Normal ranges)
    (closed : ∀ pair ∈ foldPairs, inRanges ranges pair.1 = inRanges ranges pair.2) :
    closeUnderCase ranges = ranges := by
  obtain ⟨filledTargets, targets⟩ := singles_spec foldPairs
    (fun pair => inRanges ranges pair.1 || inRanges ranges pair.2) Prod.snd
  obtain ⟨normalTargets, membersTargets⟩ := normalize_spec filledTargets
  obtain ⟨filledSources, sources⟩ := singles_spec foldPairs (fun pair =>
    inRanges (normalize (foldPairs.filterMap fun pair =>
      if inRanges ranges pair.1 || inRanges ranges pair.2 then
        some (pair.2, pair.2) else none)) pair.2) Prod.fst
  have target (code : Nat) (inside : inRanges (normalize
      (foldPairs.filterMap fun pair => if inRanges ranges pair.1 || inRanges ranges pair.2 then
        some (pair.2, pair.2) else none)) code = true) : inRanges ranges code = true := by
    obtain ⟨pair, known, holds, rfl⟩ := targets code (membersTargets code ▸ inside)
    rwa [closed pair known, Bool.or_self] at holds
  rw [closeUnderCase, List.append_assoc]
  apply normalize_append_of_subset normal
  · exact fun range inside =>
      (List.mem_append.mp inside).elim (normalTargets.filled range) (filledSources range)
  · intro code inside
    rw [inRanges_append, Bool.or_eq_true] at inside
    obtain one | other := inside
    · exact target code one
    · obtain ⟨pair, known, holds, rfl⟩ := sources code other
      rw [closed pair known]
      exact target pair.2 holds

end TypedJson.Unicode
