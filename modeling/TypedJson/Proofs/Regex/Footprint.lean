import TypedJson.Proofs.Unicode.ByteRow
import TypedJson.Regex.Footprint
import Mathlib.Data.List.SplitBy
import Mathlib.Tactic.Ring

namespace TypedJson.Regex

open Unicode (rowsOf)

namespace Footprint

/-- A growth that adds at most some number of bytes, and succeeds if they stay below the limit. -/
def Adds (growth : Growth) (cost : Nat) : Prop :=
  ∀ footprint, footprint.bytes + cost ≤ limit →
    ∃ grown, growth footprint = some grown ∧ grown.bytes ≤ footprint.bytes + cost

namespace Adds

variable {growth other : Growth} {cost more : Nat}

theorem mono (adds : Adds growth cost) (least : cost ≤ more) : Adds growth more := by
  intro footprint small
  obtain ⟨grown, made, size⟩ := adds footprint (by omega)
  exact ⟨grown, made, by omega⟩

theorem nothing : Adds some 0 := fun footprint _ => ⟨footprint, rfl, Nat.le_refl _⟩

/-- One growth after the other. -/
theorem andThen (adds : Adds growth cost) (addsOther : Adds other more) :
    Adds (fun footprint => (growth footprint).bind other) (cost + more) := by
  intro footprint small
  obtain ⟨middle, made, size⟩ := adds footprint (by omega)
  obtain ⟨grown, madeOther, sizeOther⟩ := addsOther middle (by omega)
  refine ⟨grown, ?_, by omega⟩
  show (growth footprint).bind other = some grown
  rw [made, Option.bind_some, madeOther]

/-- A state adds its own size and what it holds. -/
theorem state (extra : Nat) : Adds (Footprint.state extra) (32 + extra) := by
  intro footprint small
  have size : (⟨footprint.states + 1, footprint.extra + extra⟩ : Footprint).bytes =
      footprint.bytes + (32 + extra) := by
    simp only [bytes]
    omega
  refine ⟨_, ?_, Nat.le_of_eq size⟩
  rw [Footprint.state, bounded, if_pos (size ▸ small)]

/-- A branch adds a state and eight bytes for each of its ways. -/
theorem branches (count : Nat) : Adds (Footprint.branches count) (32 + 8 * count) := state _

/-- Each link between states adds four bytes. -/
theorem links (count : Nat) : Adds (Footprint.links count) (4 * count) := by
  intro footprint small
  have size : ({ footprint with extra := footprint.extra + 4 * count } : Footprint).bytes =
      footprint.bytes + 4 * count := by
    simp only [bytes]
    omega
  refine ⟨_, ?_, Nat.le_of_eq size⟩
  rw [Footprint.links, bounded, if_pos (size ▸ small)]

/-- Growing several times adds as many times the cost. -/
theorem times (adds : Adds growth cost) (count : Nat) :
    Adds (Footprint.times growth count) (count * cost) := by
  induction count with
  | zero => exact nothing.mono (Nat.zero_le _)
  | succ count ih =>
      have first : Footprint.times growth (count + 1) = fun footprint =>
          (growth footprint).bind (Footprint.times growth count) := by
        funext footprint
        rw [Footprint.times]
        cases growth footprint <;> rfl
      rw [first, Nat.succ_mul, Nat.add_comm]
      exact adds.andThen ih

end Adds

/-! ### Sets -/

/-- A step that keeps a cache and adds at most some number of bytes. -/
def Shares {state : Type} (step : Cache → Footprint → Option (state × Cache × Footprint))
    (cost : Nat) : Prop :=
  ∀ cache footprint, footprint.bytes + cost ≤ limit →
    ∃ next kept grown, step cache footprint = some (next, kept, grown) ∧
      grown.bytes ≤ footprint.bytes + cost

/-- A row of ranges that is shared adds a state when it is new. -/
theorem shares_shared (size extra : Nat) (values : List Nat) :
    Shares (shared size extra values) (32 + extra) := by
  intro cache footprint small
  rw [shared]
  split
  · next entry index found => exact ⟨index, cache, footprint, rfl, Nat.le_add_right _ _⟩
  · obtain ⟨grown, made, size⟩ := Adds.state extra footprint small
    exact ⟨_, _, grown, by rw [made]; rfl, size⟩

/-- All rows are in the parts of a split, and no part is empty. -/
theorem splitByHead_sum (rows : List Unicode.Ranges) :
    ((splitByHead rows).map fun part => part.2.length).sum ≤ rows.length := by
  have whole : ((rows.splitBy fun left right => left.head? == right.head?).map
      List.length).sum = rows.length := by
    rw [← List.length_flatten, List.flatten_splitBy]
  rw [← whole, splitByHead]
  generalize rows.splitBy (fun left right => left.head? == right.head?) = groups
  induction groups with
  | nil => exact Nat.le_refl _
  | cons group rest ih =>
      rw [List.filterMap_cons, List.map_cons, List.sum_cons]
      cases group.head?.bind List.head? with
      | none => exact Nat.le_trans ih (Nat.le_add_left _ _)
      | some head => simpa using ih

/-- Splitting rows by their heads makes no more groups than there are rows. -/
theorem length_splitByHead_le (rows : List Unicode.Ranges) :
    (splitByHead rows).length ≤ rows.length := by
  have filled := List.nil_notMem_splitBy (fun left right => left.head? == right.head?) rows
  have whole : ((rows.splitBy fun left right => left.head? == right.head?).map
      List.length).sum = rows.length := by
    rw [← List.length_flatten, List.flatten_splitBy]
  rw [← whole, splitByHead]
  refine Nat.le_trans (List.length_filterMap_le _ _) ?_
  generalize rows.splitBy (fun left right => left.head? == right.head?) = groups at filled
  induction groups with
  | nil => exact Nat.le_refl _
  | cons group rest ih =>
      rw [List.mem_cons, not_or] at filled
      have some : 0 < group.length := List.length_pos_iff.mpr fun same => filled.1 same.symm
      have others := ih filled.2
      rw [List.length_cons, List.map_cons, List.sum_cons]
      omega

/-- The parts of a split one after the other. -/
theorem shares_parts {last fuel : Nat}
    (each : ∀ rows, Shares (forwardRows last fuel rows) (40 * fuel * rows.length))
    (parts : List ((Nat × Nat) × List Unicode.Ranges)) (ways : List ((Nat × Nat) × Nat)) :
    ∀ cache footprint,
      footprint.bytes + 40 * fuel * (parts.map fun part => part.2.length).sum ≤ limit →
        ∃ found kept grown,
          parts.foldlM (fun (state : List ((Nat × Nat) × Nat) × Cache × Footprint) part =>
            match state, part with
            | (ways, cache, footprint), (head, tails) => do
              let (next, cache, footprint) ← forwardRows last fuel tails cache footprint
              return ((head, next) :: ways, cache, footprint)) (ways, cache, footprint) =
            some (found, kept, grown) ∧ found.length = ways.length + parts.length ∧
          grown.bytes ≤ footprint.bytes + 40 * fuel * (parts.map fun part => part.2.length).sum := by
  induction parts generalizing ways with
  | nil => exact fun cache footprint _ => ⟨ways, cache, footprint, rfl, rfl, Nat.le_add_right _ _⟩
  | cons part rest ih =>
      obtain ⟨head, tails⟩ := part
      intro cache footprint small
      simp only [List.map_cons, List.sum_cons, Nat.mul_add] at small ⊢
      obtain ⟨next, kept, middle, made, size⟩ := each tails cache footprint (by omega)
      obtain ⟨found, kept, grown, others, count, sizes⟩ :=
        ih ((head, next) :: ways) kept middle (by omega)
      refine ⟨found, kept, grown, ?_, ?_, by omega⟩
      · rw [List.foldlM_cons]
        simpa [made] using others
      · rw [count, List.length_cons, List.length_cons]
        omega

/-- Rows that are read forwards add a bounded number of bytes for each of them and each unit of
fuel. -/
theorem shares_forwardRows (last fuel : Nat) (rows : List Unicode.Ranges) :
    Shares (forwardRows last fuel rows) (40 * fuel * rows.length) := by
  induction fuel generalizing rows with
  | zero => exact fun cache footprint _ => ⟨last, cache, footprint, rfl, Nat.le_add_right _ _⟩
  | succ fuel ih =>
      intro cache footprint small
      rw [forwardRows]
      split
      · exact ⟨last, cache, footprint, rfl, Nat.le_add_right _ _⟩
      · next some =>
          have filled : 0 < rows.length := by
            cases rows with
            | nil => exact absurd rfl some
            | cons row rest => exact Nat.succ_pos _
          have inside := Nat.mul_le_mul_left (40 * fuel) (splitByHead_sum rows)
          have few := length_splitByHead_le rows
          have whole : 40 * (fuel + 1) * rows.length =
              40 * fuel * rows.length + 40 * rows.length := by ring
          obtain ⟨ways, kept, middle, made, count, size⟩ :=
            shares_parts ih (splitByHead rows) [] cache footprint (by omega)
          obtain ⟨next, kept, grown, shared, growth⟩ := shares_shared 10000 (8 * ways.length)
            (branchValues ways.reverse) kept middle (by
              rw [List.length_nil] at count
              omega)
          refine ⟨next, kept, grown, ?_, ?_⟩
          · exact Option.bind_eq_some_iff.mpr ⟨_, made, shared⟩
          · rw [List.length_nil] at count
            omega

/-- The states of one row that is read from its end. -/
theorem adds_backwardRow (last : Nat) (row : Unicode.Ranges) (cache : Cache) (footprint : Footprint)
    (small : footprint.bytes + (32 * row.length + 4) ≤ limit) :
    ∃ kept grown, backwardRow last cache footprint row = some (kept, grown) ∧
      grown.bytes ≤ footprint.bytes + (32 * row.length + 4) := by
  have states : ∀ (next : Nat) (cache : Cache) (footprint : Footprint),
      footprint.bytes + 32 * row.length ≤ limit →
        ∃ found kept grown,
          row.foldlM (fun (state : Nat × Cache × Footprint) range =>
            match state with
            | (next, cache, footprint) => shared 1000 0 [next, range.1, range.2] cache footprint)
            (next, cache, footprint) = some (found, kept, grown) ∧
          grown.bytes ≤ footprint.bytes + 32 * row.length := by
    clear small
    induction row with
    | nil => exact fun next cache footprint _ => ⟨next, cache, footprint, rfl, Nat.le_refl _⟩
    | cons range rest ih =>
        intro next cache footprint small
        rw [List.length_cons] at small ⊢
        obtain ⟨middle, kept, grown, made, size⟩ :=
          shares_shared 1000 0 [next, range.1, range.2] cache footprint (by omega)
        obtain ⟨found, kept, last, others, sizes⟩ := ih middle kept grown (by omega)
        refine ⟨found, kept, last, ?_, by omega⟩
        rw [List.foldlM_cons]
        exact Option.bind_eq_some_iff.mpr ⟨_, made, others⟩
  obtain ⟨found, kept, middle, made, size⟩ := states last cache footprint (by omega)
  obtain ⟨grown, linked, sizes⟩ := Adds.links 1 middle (by omega)
  refine ⟨kept, grown, ?_, by omega⟩
  exact Option.bind_eq_some_iff.mpr ⟨_, made, Option.bind_eq_some_iff.mpr ⟨_, linked, rfl⟩⟩

/-- Short rows read backwards stay within the limit, and each adds a bounded number of bytes. -/
theorem adds_backwardRows (last : Nat) {rows : List Unicode.Ranges}
    (short : ∀ row ∈ rows, row.length ≤ 4) (cache : Cache) (footprint : Footprint)
    (small : footprint.bytes + 132 * rows.length ≤ limit) :
    ∃ kept grown,
      rows.foldlM (fun (state : Cache × Footprint) row =>
        match state with
        | (cache, footprint) => backwardRow last cache footprint row) (cache, footprint) =
          some (kept, grown) ∧
      grown.bytes ≤ footprint.bytes + 132 * rows.length := by
  induction rows generalizing cache footprint with
  | nil => exact ⟨cache, footprint, rfl, Nat.le_refl _⟩
  | cons row rest ih =>
      have here := short row List.mem_cons_self
      rw [List.length_cons] at small ⊢
      obtain ⟨kept, middle, made, size⟩ := adds_backwardRow last row cache footprint (by omega)
      obtain ⟨kept, grown, others, sizes⟩ :=
        ih (fun other later => short other (List.mem_cons_of_mem _ later)) kept middle (by omega)
      refine ⟨kept, grown, ?_, by omega⟩
      rw [List.foldlM_cons]
      exact Option.bind_eq_some_iff.mpr ⟨_, made, others⟩

/-- A bound for the bytes of a set in either direction. -/
def setCost (ranges : Unicode.Ranges) : Nat :=
  64 + 8 * ranges.length + 160 * (rowsOf ranges).length

/-- A set of characters adds no more than its cost, in either direction. -/
theorem adds_set (backward : Bool) (ranges : Unicode.Ranges) :
    Adds (set backward ranges) (setCost ranges) := by
  intro footprint small
  rw [set]
  rw [setCost] at small ⊢
  split
  · obtain ⟨middle, made, size⟩ := Adds.state 0 footprint (by omega)
    obtain ⟨grown, others, sizes⟩ := Adds.branches ranges.length middle (by omega)
    exact ⟨grown, Option.bind_eq_some_iff.mpr ⟨_, made, others⟩, by omega⟩
  · split
    · obtain ⟨first, made, size⟩ := Adds.state 0 footprint (by omega)
      obtain ⟨second, madeOther, sizeOther⟩ := Adds.state 0 first (by omega)
      obtain ⟨kept, grown, others, sizes⟩ := adds_backwardRows first.states
        (fun row (inside : row ∈ rowsOf ranges) => Unicode.length_of_mem_rowsOf inside) ∅ second
        (by omega)
      refine ⟨grown, ?_, by omega⟩
      exact Option.bind_eq_some_iff.mpr ⟨_, made, Option.bind_eq_some_iff.mpr
        ⟨_, madeOther, Option.bind_eq_some_iff.mpr ⟨_, others, rfl⟩⟩⟩
    · obtain ⟨first, made, size⟩ := Adds.state 0 footprint (by omega)
      obtain ⟨next, kept, grown, others, sizes⟩ :=
        shares_forwardRows footprint.states 4 (rowsOf ranges) ∅ first (by omega)
      refine ⟨grown, ?_, by omega⟩
      exact Option.bind_eq_some_iff.mpr ⟨_, made, Option.bind_eq_some_iff.mpr ⟨_, others, rfl⟩⟩

end Footprint

namespace Shape

open Footprint (Adds setCost)

/-- Texts, sets and conditions, which hold no other shapes. -/
def isLeaf : Shape → Bool
  | text _ => true
  | set _ => true
  | look _ => true
  | _ => false

/-- A bound for the bytes of a leaf in either direction. -/
def leafCost : Shape → Nat
  | text chars => 32 * (String.ofList chars).utf8ByteSize
  | set ranges => setCost ranges
  | look _ => 32
  | _ => 0

/-- A leaf adds no more than its cost. -/
theorem adds_leaf (backward : Bool) {item : Shape} (leaf : item.isLeaf = true) :
    Adds (item.grow backward) item.leafCost := by
  cases item with
  | text chars =>
      have grows := (Adds.state 0).times (String.ofList chars).utf8ByteSize
      intro footprint small
      obtain ⟨grown, made, size⟩ := grows footprint (by rw [leafCost] at small; omega)
      exact ⟨grown, by rw [grow, made], by rw [leafCost]; omega⟩
  | set ranges =>
      intro footprint small
      rw [grow]
      exact Footprint.adds_set backward ranges footprint small
  | look condition =>
      intro footprint small
      rw [grow]
      exact Adds.state 0 footprint small
  | _ => exact absurd leaf (by simp [isLeaf])

/-- A row of leaves adds no more than the sum of their costs. -/
theorem adds_row (backward : Bool) {items : List Shape}
    (leaves : ∀ item ∈ items, item.isLeaf = true) :
    Adds (growRow backward items) (items.map leafCost).sum := by
  induction items with
  | nil =>
      intro footprint _
      exact ⟨footprint, by rw [growRow], Nat.le_refl _⟩
  | cons item rest ih =>
      have here := adds_leaf backward (leaves item List.mem_cons_self)
      have others := ih fun other later => leaves other (List.mem_cons_of_mem _ later)
      intro footprint small
      rw [List.map_cons, List.sum_cons] at small ⊢
      rw [growRow]
      cases backward with
      | false => exact here.andThen others footprint small
      | true =>
          obtain ⟨grown, made, size⟩ := others.andThen here footprint (by omega)
          exact ⟨grown, made, by omega⟩

/-- Texts side by side cost as much as the text that they become. -/
theorem leafCost_consItem {item : Shape} {rest : List Shape} (leaf : item.isLeaf = true)
    (leaves : ∀ other ∈ rest, other.isLeaf = true) :
    ((consItem item rest).map leafCost).sum = item.leafCost + (rest.map leafCost).sum ∧
      ∀ other ∈ consItem item rest, other.isLeaf = true := by
  unfold consItem
  split
  · next left right others =>
      constructor
      · simp only [List.map_cons, List.sum_cons, leafCost, String.ofList_append,
          String.utf8ByteSize_append]
        omega
      · intro other inside
        obtain rfl | later := List.mem_cons.mp inside
        · rfl
        · exact leaves other (List.mem_cons_of_mem _ later)
  · constructor
    · rw [List.map_cons, List.sum_cons]
    · intro other inside
      obtain rfl | later := List.mem_cons.mp inside
      · exact leaf
      · exact leaves other later

/-- Joining neighbours of a row keeps its cost and leaves only leaves. -/
theorem leafCost_foldr_consItem {items : List Shape} (leaves : ∀ item ∈ items, item.isLeaf = true) :
    ((items.foldr consItem []).map leafCost).sum = (items.map leafCost).sum ∧
      ∀ other ∈ items.foldr consItem [], other.isLeaf = true := by
  induction items with
  | nil => exact ⟨rfl, fun other inside => absurd inside List.not_mem_nil⟩
  | cons item rest ih =>
      obtain ⟨sums, leaf⟩ := ih fun other later => leaves other (List.mem_cons_of_mem _ later)
      obtain ⟨sum, all⟩ := leafCost_consItem (leaves item List.mem_cons_self) leaf
      rw [List.foldr_cons]
      exact ⟨by rw [sum, sums, List.map_cons, List.sum_cons], all⟩

/-- A shape that stands for a row of leaves. -/
def IsRow (item : Shape) : Prop := ∀ leaf ∈ item.rowItems, leaf.isLeaf = true

/-- A bound for the bytes of such a row in either direction. -/
def rowCost (item : Shape) : Nat := (item.rowItems.map leafCost).sum

/-- A leaf is a row of itself. -/
theorem rowItems_leaf {item : Shape} (leaf : item.isLeaf = true) : item.rowItems = [item] := by
  cases item <;> first | rfl | exact absurd leaf (by simp [isLeaf])

/-- A leaf counts as a row. -/
theorem isRow_leaf {item : Shape} (leaf : item.isLeaf = true) : item.IsRow := by
  rw [IsRow, rowItems_leaf leaf]
  simpa using leaf

/-- As a row a leaf costs what it costs alone. -/
theorem rowCost_leaf {item : Shape} (leaf : item.isLeaf = true) : item.rowCost = item.leafCost := by
  rw [rowCost, rowItems_leaf leaf]
  simp

section Rows

variable {items : List Shape} (rows : ∀ item ∈ items, item.IsRow)

include rows

/-- What rows are made of are leaves. -/
theorem isLeaf_of_mem_rowItems : ∀ leaf ∈ items.flatMap rowItems, leaf.isLeaf = true := by
  intro leaf inside
  obtain ⟨item, known, here⟩ := List.mem_flatMap.mp inside
  exact rows item known leaf here

omit rows in
/-- The leaves of several rows cost what the rows cost together. -/
theorem rowCost_flatMap :
    ((items.flatMap rowItems).map leafCost).sum = (items.map rowCost).sum := by
  induction items with
  | nil => rfl
  | cons item rest ih =>
      rw [List.flatMap_cons, List.map_append, List.sum_append, ih, List.map_cons, List.sum_cons,
        rowCost]

/-- A row of rows is the row of all their leaves, with texts side by side put together. -/
theorem rowItems_ofRow : (ofRow items).rowItems = (items.flatMap rowItems).foldr consItem [] := by
  have leaves := (leafCost_foldr_consItem (isLeaf_of_mem_rowItems rows)).2
  rw [ofRow]
  generalize (items.flatMap rowItems).foldr consItem [] = found at leaves
  match found with
  | [] => rfl
  | [item] => exact rowItems_leaf (leaves item List.mem_cons_self)
  | item :: next :: rest => rfl

/-- A row of rows is a row again. -/
theorem isRow_ofRow : (ofRow items).IsRow := by
  rw [IsRow, rowItems_ofRow rows]
  exact (leafCost_foldr_consItem (isLeaf_of_mem_rowItems rows)).2

/-- A row of rows costs what they cost together. -/
theorem rowCost_ofRow : (ofRow items).rowCost = (items.map rowCost).sum := by
  rw [rowCost, rowItems_ofRow rows,
    (leafCost_foldr_consItem (isLeaf_of_mem_rowItems rows)).1, rowCost_flatMap]

/-- A row of rows adds one state and what the rows cost. -/
theorem adds_ofRow (backward : Bool) :
    Adds ((ofRow items).grow backward) (32 + (items.map rowCost).sum) := by
  obtain ⟨sum, leaves⟩ := leafCost_foldr_consItem (isLeaf_of_mem_rowItems rows)
  rw [ofRow, ← rowCost_flatMap, ← sum]
  generalize (items.flatMap rowItems).foldr consItem [] = found at leaves
  match found with
  | [] =>
      intro footprint small
      rw [grow]
      exact Adds.state 0 footprint small
  | [item] =>
      exact (adds_leaf backward (leaves item List.mem_cons_self)).mono (by simp)
  | item :: next :: rest =>
      intro footprint small
      obtain ⟨grown, made, size⟩ := adds_row backward leaves footprint (by omega)
      refine ⟨grown, ?_, by omega⟩
      show (seq (item :: next :: rest)).grow backward footprint = some grown
      rw [grow, made]

end Rows

/-- The whole search for a shape costs little more than the shape. -/
theorem footprint?_isSome {backward : Bool} {shape : Shape} {cost : Nat}
    (adds : Adds (shape.grow backward) cost) (small : cost + 208 ≤ Footprint.limit) :
    (shape.footprint? backward).isSome = true := by
  have start : (⟨0, 0⟩ : Footprint).bytes = 0 := rfl
  obtain ⟨first, made, size⟩ := Adds.state 0 ⟨0, 0⟩ (by omega)
  have anywhere : ∀ tied : Bool, ∃ second, (if tied then some first
      else do
        let footprint ← Footprint.state 0 first
        let footprint ← Footprint.branches 1 footprint
        Footprint.links 2 footprint) = some second ∧ second.bytes ≤ first.bytes + 80 := by
    intro tied
    cases tied with
    | true => exact ⟨first, rfl, Nat.le_add_right _ _⟩
    | false =>
        exact ((Adds.state 0).andThen ((Adds.branches 1).andThen (Adds.links 2))) first (by omega)
  obtain ⟨second, started, sizes⟩ :=
    anywhere (if backward then shape.endsAtEnd else shape.startsAtStart)
  have whole : Adds (grow backward (.group 0 shape)) (cost + 64) := by
    intro footprint enough
    rw [grow]
    cases backward with
    | true =>
        obtain ⟨grown, here, less⟩ := adds footprint (by omega)
        exact ⟨grown, here, by omega⟩
    | false =>
        obtain ⟨grown, here, less⟩ :=
          (Adds.state 0).andThen (adds.andThen (Adds.state 0)) footprint (by omega)
        exact ⟨grown, here, by omega⟩
  obtain ⟨third, grows, sizesThird⟩ := whole second (by omega)
  obtain ⟨last, finishes, -⟩ := Adds.state 0 third (by omega)
  have found : shape.footprint? backward = some last := by
    have grown : (grow backward (.group 0 shape) second).bind (Footprint.state 0) = some last :=
      Option.bind_eq_some_iff.mpr ⟨third, grows, finishes⟩
    have steps := (congrArg (Option.bind · fun footprint =>
      (grow backward (.group 0 shape) footprint).bind (Footprint.state 0)) started).trans grown
    rw [footprint?, made]
    generalize (if backward then shape.endsAtEnd else shape.startsAtStart) = tied at steps ⊢
    cases tied with
    | true => exact steps
    | false => simpa [Option.bind_assoc] using steps
  rw [found]
  rfl

/-- What a set of ranges is compiled to is a leaf. -/
theorem isLeaf_ofRanges (ranges : Unicode.Ranges) : (ofRanges ranges).isLeaf = true := by
  unfold ofRanges
  split
  · split <;> rfl
  · rfl

/-- The leaf of a set costs at most 64 bytes more than the set. -/
theorem leafCost_ofRanges_le (ranges : Unicode.Ranges) :
    (ofRanges ranges).leafCost ≤ 64 + setCost ranges := by
  have char (char : Char) : (text [char]).leafCost ≤ 128 := by
    have size : (String.ofList [char]).utf8ByteSize ≤ 4 := by
      simpa using char.utf8Size_le_four
    rw [leafCost]
    omega
  unfold ofRanges
  split
  · split
    · refine Nat.le_trans (char _) ?_
      rw [setCost]
      omega
    · exact Nat.le_add_left _ _
  · exact Nat.le_add_left _ _

end Shape

/-- A row of texts, sets and conditions is compiled if their costs stay below the limit. -/
theorem isCompilable_seq {items : List Regex} (rows : ∀ item ∈ items, item.shape.IsRow)
    (small : (items.map fun item => item.shape.rowCost).sum + 240 ≤ Footprint.limit) :
    (Regex.seq items).isCompilable = true := by
  have same : shapes items = items.map shape := by
    induction items with
    | nil => rfl
    | cons item rest ih =>
        have others : shapes rest = rest.map shape :=
          ih (fun other later => rows other (List.mem_cons_of_mem _ later)) (by
            rw [List.map_cons, List.sum_cons] at small
            omega)
        rw [shapes, List.map_cons, others]
  have all : ∀ item ∈ shapes items, item.IsRow := by
    rw [same]
    simpa using rows
  have sum : ((shapes items).map Shape.rowCost).sum =
      (items.map fun item => item.shape.rowCost).sum := by
    rw [same, List.map_map]
    rfl
  have found (backward : Bool) : ((Shape.ofRow (shapes items)).footprint? backward).isSome = true :=
    Shape.footprint?_isSome (Shape.adds_ofRow all backward) (by omega)
  rw [isCompilable, shape, found false, found true]
  rfl

namespace CharSet

/-- A bound for the number of ranges of a set. -/
def spans : CharSet → Nat
  | ranges list => list.length
  | union left right => left.spans + right.spans
  | intersection left right => left.spans + right.spans + 3
  | difference left right => left.spans + right.spans + 2
  | symmetricDifference left right => 2 * (left.spans + right.spans + 2)
  | complement set => set.spans + 1
  | caseClosure set => (Unicode.closeUnderCase set.codeRanges).length
  | asciiCaseClosure set => (closeUnderAsciiCase set.codeRanges).length

/-- A set is written with no more ranges than it was made of. -/
theorem length_codeRanges_le (set : CharSet) : set.codeRanges.length ≤ set.spans := by
  induction set with
  | ranges list => exact Unicode.length_normalize_le list
  | union left right leftIh rightIh =>
      exact Nat.le_trans (Unicode.length_union_le _ _) (Nat.add_le_add leftIh rightIh)
  | intersection left right leftIh rightIh =>
      have outer := Unicode.length_complement_le
        (Unicode.complement left.codeRanges ++ Unicode.complement right.codeRanges)
      have first := Unicode.length_complement_le left.codeRanges
      have second := Unicode.length_complement_le right.codeRanges
      rw [List.length_append] at outer
      rw [codeRanges, Unicode.intersection, spans]
      omega
  | difference left right leftIh rightIh =>
      have here := Unicode.length_difference_le left.codeRanges right.codeRanges
      rw [codeRanges, spans]
      omega
  | symmetricDifference left right leftIh rightIh =>
      have whole := Unicode.length_union_le
        (Unicode.difference left.codeRanges right.codeRanges)
        (Unicode.difference right.codeRanges left.codeRanges)
      have first := Unicode.length_difference_le left.codeRanges right.codeRanges
      have second := Unicode.length_difference_le right.codeRanges left.codeRanges
      rw [codeRanges, Unicode.symmetricDifference, spans]
      omega
  | complement set ih =>
      exact Nat.le_trans (Unicode.length_complement_le _) (Nat.succ_le_succ ih)
  | caseClosure set ih => exact Nat.le_refl _
  | asciiCaseClosure set ih => exact Nat.le_refl _

/-- The ranges of a set are sorted and stand apart. -/
theorem normal_charRanges (set : CharSet) : Unicode.Normal set.charRanges :=
  Unicode.normal_difference set.codeRanges fun range inside => by
    obtain rfl := List.mem_singleton.mp inside
    decide

/-- A bound for the bytes of a set by the number of its ranges. -/
theorem leafCost_le (set : CharSet) :
    (Shape.ofRanges set.charRanges).leafCost ≤ 1128 * set.codeRanges.length + 6872 := by
  have ranges : set.charRanges.length ≤ set.codeRanges.length + 1 + 2 :=
    Unicode.length_difference_le _ _
  have rows := Unicode.length_rowsOf_le set.normal_charRanges
  have cost := Shape.leafCost_ofRanges_le set.charRanges
  rw [Footprint.setCost] at cost
  omega

end CharSet

end TypedJson.Regex
