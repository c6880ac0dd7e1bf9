import Mathlib.Data.List.Forall2

namespace TypedJson

section

variable {Failure First Second : Type} {first : Except Failure First} {result : Second}
  {work : First → Except Failure Second} {items : List First}

/-- Two pieces have a result if the first has one and the second, on it. -/
theorem bind_eq_ok :
    (first >>= work) = .ok result ↔ ∃ value, first = .ok value ∧ work value = .ok result := by
  cases first with
  | error failure => simp [bind, Except.bind]
  | ok value => simp [bind, Except.bind]

/-- A changed result is there if the result is. -/
theorem map_eq_ok {change : First → Second} :
    first.map change = .ok result ↔ ∃ value, first = .ok value ∧ change value = result := by
  cases first <;> simp [Except.map]

/-- Work on a list has results that stand beside the items. -/
theorem mapM_eq_ok {results : List Second} :
    items.mapM work = .ok results ↔
      List.Forall₂ (fun item result => work item = .ok result) items results := by
  induction items generalizing results with
  | nil => cases results <;> simp [pure, Except.pure]
  | cons item rest ih =>
      rw [List.mapM_cons, bind_eq_ok, List.forall₂_cons_left_iff]
      simp only [bind_eq_ok, ih, pure, Except.pure, Except.ok.injEq]
      constructor
      · rintro ⟨first, done, others, doneAll, rfl⟩
        exact ⟨first, others, done, doneAll, rfl⟩
      · rintro ⟨first, others, done, doneAll, rfl⟩
        exact ⟨first, done, others, doneAll, rfl⟩

/-- Work in two steps succeeds exactly if the first step does and, on its result, the second. -/
theorem bind_succeeds_iff :
    (∃ result, (first >>= work) = .ok result) ↔
      ∃ value, first = .ok value ∧ ∃ result, work value = .ok result := by
  cases first <;> simp [bind, Except.bind]

/-- A value is a result. -/
theorem pure_succeeds (value : First) :
    ∃ result, (pure value : Except Failure First) = .ok result := ⟨value, rfl⟩

/-- A change makes no failure. -/
theorem map_succeeds_iff {change : First → Second} :
    (∃ result, first.map change = .ok result) ↔ ∃ value, first = .ok value := by
  cases first <;> simp [Except.map]

/-- Work on a list succeeds exactly if it succeeds on each item. -/
theorem mapM_succeeds_iff :
    (∃ results, items.mapM work = .ok results) ↔
      ∀ item ∈ items, ∃ result, work item = .ok result := by
  induction items with
  | nil => simp [pure, Except.pure]
  | cons item rest ih =>
      rw [List.forall_mem_cons, ← ih, List.mapM_cons]
      simp only [bind_succeeds_iff, pure_succeeds, and_true, exists_and_right]

theorem mapM_congr {other : First → Except Failure Second}
    (each : ∀ item ∈ items, work item = other item) : items.mapM work = items.mapM other := by
  induction items with
  | nil => rfl
  | cons item rest ih =>
      rw [List.forall_mem_cons] at each
      rw [List.mapM_cons, List.mapM_cons, each.1, ih each.2]

variable {failure : Failure}

/-- Work on a list fails as it does on the first item on which it fails. -/
theorem mapM_of_first_error {before after : List First} {item : First}
    (fine : ∀ earlier ∈ before, ∃ result, work earlier = .ok result)
    (failed : work item = .error failure) :
    (before ++ item :: after).mapM work = .error failure := by
  induction before with
  | nil =>
      rw [List.nil_append, List.mapM_cons, failed]
      rfl
  | cons first rest ih =>
      obtain ⟨⟨result, done⟩, others⟩ := List.forall_mem_cons.mp fine
      rw [List.cons_append, List.mapM_cons, done]
      change ((rest ++ item :: after).mapM work >>= _) = _
      rw [ih others]
      rfl

/-- Work on a list stops at the first item that fails. -/
theorem mapM_eq_error :
    items.mapM work = .error failure ↔
      ∃ before item after, items = before ++ item :: after ∧
        (∀ earlier ∈ before, ∃ result, work earlier = .ok result) ∧
        work item = .error failure := by
  constructor
  · intro failed
    induction items with
    | nil => simp [pure, Except.pure] at failed
    | cons first rest ih =>
        rw [List.mapM_cons] at failed
        cases done : work first with
        | error found =>
            rw [done] at failed
            obtain rfl : found = failure := Except.error.inj failed
            exact ⟨[], first, rest, rfl, by simp, done⟩
        | ok result =>
            have later : rest.mapM work = .error failure := by
              rw [done] at failed
              cases others : rest.mapM work with
              | error found =>
                  rw [others] at failed
                  exact failed
              | ok results =>
                  rw [others] at failed
                  simp [bind, Except.bind, pure, Except.pure] at failed
            obtain ⟨before, item, after, rfl, fine, itemFailed⟩ := ih later
            exact ⟨first :: before, item, after, rfl,
              List.forall_mem_cons.mpr ⟨⟨result, done⟩, fine⟩, itemFailed⟩
  · rintro ⟨before, item, after, rfl, fine, failed⟩
    exact mapM_of_first_error fine failed

end

/-! ### Lists side by side -/

section

variable {First Second Third Result : Type} {related : First → Second → Prop} {firsts : List First}
  {seconds : List Second}

/-- Beside each item of the first list stands one of the second. -/
theorem exists_right_of_forall₂ (all : List.Forall₂ related firsts seconds)
    {first : First} (inside : first ∈ firsts) : ∃ second ∈ seconds, related first second := by
  induction all with
  | nil => simp at inside
  | cons head rest ih =>
      rcases List.mem_cons.mp inside with rfl | inside
      · exact ⟨_, List.mem_cons_self, head⟩
      · obtain ⟨second, insideToo, here⟩ := ih inside
        exact ⟨second, List.mem_cons_of_mem _ insideToo, here⟩

/-- Beside each item of the second list stands one of the first. -/
theorem exists_left_of_forall₂ (all : List.Forall₂ related firsts seconds)
    {second : Second} (inside : second ∈ seconds) : ∃ first ∈ firsts, related first second :=
  exists_right_of_forall₂ all.flip inside

/-- Items stand beside each other at the same positions. -/
theorem exists_of_forall₂ (all : List.Forall₂ related firsts seconds)
    {index : Nat} {second : Second} (given : seconds[index]? = some second) :
    ∃ first, firsts[index]? = some first ∧ related first second := by
  induction all generalizing index with
  | nil => simp at given
  | cons head rest ih =>
      cases index with
      | zero =>
          obtain rfl := Option.some.inj given
          exact ⟨_, rfl, head⟩
      | succ index => exact ih given

/-- Items beside images stand beside what these are images of. -/
theorem exists_of_forall₂_image {image : Second → Third} {thirds : List Third}
    (all : List.Forall₂ (fun first third => ∃ second, related first second ∧ third = image second)
      firsts thirds) :
    ∃ seconds, List.Forall₂ related firsts seconds ∧ thirds = seconds.map image := by
  induction all with
  | nil => exact ⟨[], .nil, rfl⟩
  | cons head rest ih =>
      obtain ⟨second, isRelated, rfl⟩ := head
      obtain ⟨seconds, areRelated, rfl⟩ := ih
      exact ⟨second :: seconds, .cons isRelated areRelated, rfl⟩

/-- What holds alike beside each other holds of all in both lists or in none. -/
theorem forall_mem_iff_of_forall₂ {holds : First → Prop} {holds' : Second → Prop}
    (all : List.Forall₂ related firsts seconds)
    (same : ∀ first ∈ firsts, ∀ second, related first second → (holds first ↔ holds' second)) :
    (∀ first ∈ firsts, holds first) ↔ ∀ second ∈ seconds, holds' second := by
  induction all with
  | nil => simp
  | cons here rest ih =>
      simp only [List.forall_mem_cons] at same ⊢
      rw [same.1 _ here, ih same.2]

/-- What is made alike beside each other makes the same list. -/
theorem map_eq_of_forall₂ {make : First → Result} {make' : Second → Result}
    (all : List.Forall₂ related firsts seconds)
    (same : ∀ first second, related first second → make first = make' second) :
    firsts.map make = seconds.map make' := by
  have results : List.Forall₂ (· = ·) (firsts.map make) (seconds.map make') :=
    List.rel_map (fun _ _ here => same _ _ here) all
  rwa [List.forall₂_eq_eq_eq] at results

/-- What makes the same list is made alike item by item. -/
theorem forall₂_of_map_eq {others : List First} {make : First → Result}
    (same : firsts.map make = others.map make) :
    List.Forall₂ (fun first other => make first = make other) firsts others := by
  have all : List.Forall₂ (· = ·) (firsts.map make) (others.map make) :=
    List.forall₂_eq_eq_eq ▸ same
  exact List.forall₂_map_right_iff.mp (List.forall₂_map_left_iff.mp all)

/-- Items that stand beside each other may be related otherwise. -/
theorem forall₂_of_mem {wanted : First → Second → Prop}
    (all : List.Forall₂ related firsts seconds)
    (each : ∀ first ∈ firsts, ∀ second ∈ seconds, related first second → wanted first second) :
    List.Forall₂ wanted firsts seconds := by
  rw [List.forall₂_iff_zip]
  constructor
  · exact all.length_eq
  · intro first second inside
    obtain ⟨among, amongToo⟩ := List.of_mem_zip inside
    exact each first among second amongToo (List.forall₂_zip all inside)

end

end TypedJson
