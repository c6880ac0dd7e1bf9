namespace TypedJson

/-! ### Leading characters -/

/-- What is not taken is dropped to. -/
theorem drop_length_takeWhile (test : Char → Bool) (input : List Char) :
    input.drop (input.takeWhile test).length = input.dropWhile test := by
  induction input with
  | nil => rfl
  | cons char rest ih =>
      rw [List.takeWhile_cons, List.dropWhile_cons]
      split
      · exact ih
      · rfl

/-- If nothing is left, all is taken. -/
theorem takeWhile_eq_self {test : Char → Bool} {input : List Char}
    (all : input.dropWhile test = []) : input.takeWhile test = input := by
  have whole := List.takeWhile_append_dropWhile (p := test) (l := input)
  rwa [all, List.append_nil] at whole

/-- If something is left, less is taken. -/
theorem length_takeWhile_lt {test : Char → Bool} {input tail : List Char} {mark : Char}
    (found : input.dropWhile test = mark :: tail) :
    (input.takeWhile test).length < input.length := by
  have same := congrArg List.length (List.takeWhile_append_dropWhile (p := test) (l := input))
  rw [List.length_append, found, List.length_cons] at same
  omega

/-- What is taken before a mark is taken with the parenthesis behind. -/
theorem takeWhile_close {test : Char → Bool} {input tail : List Char} {mark : Char}
    (found : input.dropWhile test = mark :: tail) :
    (input ++ [')']).takeWhile test = input.takeWhile test := by
  rw [List.takeWhile_append, if_neg (Nat.ne_of_lt (length_takeWhile_lt found))]

/-- If all is taken, the parenthesis is taken as well where it may be. -/
theorem takeWhile_close_of_nil {test : Char → Bool} {input : List Char}
    (all : input.dropWhile test = []) (goesOn : test ')' = true) :
    (input ++ [')']).takeWhile test = input ++ [')'] := by
  rw [List.takeWhile_append, takeWhile_eq_self all, if_pos rfl]
  simp [goesOn]

/-- What is left from a mark is left with the parenthesis behind. -/
theorem dropWhile_close_of_cons {test : Char → Bool} {input tail : List Char} {mark : Char}
    (found : input.dropWhile test = mark :: tail) :
    (input ++ [')']).dropWhile test = mark :: (tail ++ [')']) := by
  rw [List.dropWhile_append, found]
  rfl

/-- A parenthesis that stops is left. -/
theorem dropWhile_close {test : Char → Bool} (stops : test ')' = false) (input : List Char) :
    (input ++ [')']).dropWhile test = input.dropWhile test ++ [')'] := by
  rw [List.dropWhile_append]
  split
  · next empty => simp [List.isEmpty_iff.mp empty, stops]
  · rfl

/-- A text without parentheses starts an input if it starts the longer input. -/
theorem isPrefixOf_close {side : List Char} (plain : ')' ∉ side) (input : List Char) :
    side.isPrefixOf (input ++ [')']) = side.isPrefixOf input := by
  induction side generalizing input with
  | nil => rw [List.isPrefixOf, List.isPrefixOf]
  | cons char others ih =>
      have other : (char == ')') = false := beq_false_of_ne (Ne.symm (List.ne_of_not_mem_cons plain))
      cases input with
      | nil => simp [List.isPrefixOf, other]
      | cons first tail =>
          simp only [List.cons_append, List.isPrefixOf, ih (List.not_mem_of_not_mem_cons plain)]

/-- A parenthesis that stops is not taken. -/
theorem takeWhile_close_of_stops {test : Char → Bool} (stops : test ')' = false)
    (input : List Char) : (input ++ [')']).takeWhile test = input.takeWhile test := by
  rw [List.takeWhile_append]
  split
  · next whole =>
      rw [List.takeWhile_cons, if_neg (by simp [stops]), List.append_nil]
      exact ((List.takeWhile_prefix test).eq_of_length whole).symm
  · rfl

/-! ### Readings -/

/-- A result of a reader, which holds what is left of the input. -/
class HasRest (result : Type) where
  rest : result → List Char
  /-- The result with a closing parenthesis behind what is left. -/
  close : result → result
  rest_close : ∀ found, rest (close found) = rest found ++ [')']

instance : HasRest (List Char) := ⟨id, (· ++ [')']), fun _ => rfl⟩

instance {value result : Type} [HasRest result] : HasRest (value × result) :=
  ⟨fun found => HasRest.rest found.2, fun found => (found.1, HasRest.close found.2),
    fun found => HasRest.rest_close found.2⟩

open HasRest

/-- The same result with the parenthesis left, or taken along where nothing was left before. -/
def Kept {result : Type} [HasRest result] (before after : result) : Prop :=
  after = close before ∨ rest before = [] ∧ after = before

/--
A reading before and after a closing parenthesis is put behind the input: both give the same, with
or without the parenthesis left, or the parenthesis is needed and nothing remains after it.
-/
def Carried {result : Type} [HasRest result] (before after : Option result) : Prop :=
  (∃ found, before = some found ∧ after = some (close found)) ∨
    (∃ found, before = some found ∧ after = some found ∧ rest found = []) ∨
    (before = none ∧ ∀ found, after = some found → rest found = [])

namespace Carried

variable {result next : Type} [HasRest result] [HasRest next]

/-- A reading of all that comes first leaves the parenthesis. -/
theorem some (found : result) : Carried (some found) (some (close found)) := .inl ⟨found, rfl, rfl⟩

theorem none : Carried (none : Option result) none := .inr (.inr ⟨rfl, fun _ same => nomatch same⟩)

/-- A reading that only takes what it needs leaves the parenthesis. -/
theorem of_map {before after : Option result} (same : after = before.map close) :
    Carried before after := by
  subst same
  cases before with
  | none => exact none
  | some found => exact some found

/-- A reading that had nothing left gives the same, unless it was not there. -/
theorem of_eq {before : Option result} (ends : ∀ found, before = Option.some found → rest found = []) :
    Carried before before := by
  cases before with
  | none => exact none
  | some found => exact .inr (.inl ⟨found, rfl, rfl, ends found rfl⟩)

/-- A reading that leaves the parenthesis alone had nothing left without it. -/
theorem alone {before after : Option result} {found : result} (carried : Carried before after)
    (same : after = Option.some found) (left : rest found = [')']) :
    ∃ plain, before = Option.some plain ∧ rest plain = [] ∧ found = close plain := by
  obtain ⟨plain, rfl, rfl⟩ | ⟨plain, rfl, rfl, nothing⟩ | ⟨rfl, ends⟩ := carried
  · obtain rfl := Option.some.inj same
    rw [rest_close] at left
    exact ⟨plain, rfl, by simpa using left, rfl⟩
  · obtain rfl := Option.some.inj same
    exact nomatch nothing.symm.trans left
  · exact nomatch (ends found same).symm.trans left

/-- A reading to the end leaves the parenthesis, or takes it along. -/
theorem whole {before after : Option result} {found : result} (carried : Carried before after)
    (same : before = Option.some found) :
    after = Option.some (close found) ∨ after = Option.some found ∧ rest found = [] := by
  obtain ⟨plain, rfl, rfl⟩ | ⟨plain, rfl, rfl, nothing⟩ | ⟨rfl, -⟩ := carried
  · obtain rfl := Option.some.inj same
    exact .inl rfl
  · obtain rfl := Option.some.inj same
    exact .inr ⟨rfl, nothing⟩
  · exact nomatch same

theorem bind {before after : Option result} {read : result → Option next}
    (first : Carried before after) (goesOn : ∀ found, Carried (read found) (read (close found)))
    (ends : ∀ found made, rest found = [] → read found = Option.some made → rest made = []) :
    Carried (before.bind read) (after.bind read) := by
  obtain ⟨found, rfl, rfl⟩ | ⟨found, rfl, rfl, nothing⟩ | ⟨rfl, nothing⟩ := first
  · exact goesOn found
  · exact of_eq fun made same => ends found made nothing same
  · refine .inr (.inr ⟨rfl, fun made same => ?_⟩)
    obtain ⟨found, here, there⟩ := Option.bind_eq_some_iff.mp same
    exact ends found made (nothing found here) there

/-- What is made of the value that was read changes nothing in what is left. -/
theorem values {value made : Type} {before after : Option (value × List Char)}
    {read : value × List Char → Option (made × List Char)} (first : Carried before after)
    (gives : ∀ found, (∀ left, read (found, left) = Option.none) ∨
      ∃ result, ∀ left, read (found, left) = Option.some (result, left)) :
    Carried (before.bind read) (after.bind read) := by
  refine first.bind (fun (found, left) => ?_) ?_
  · obtain nothing | ⟨result, same⟩ := gives found
    · rw [nothing, show close (found, left) = (found, left ++ [')']) from rfl, nothing]
      exact none
    · rw [same, show close (found, left) = (found, left ++ [')']) from rfl, same]
      exact some (result, left)
  · rintro ⟨found, left⟩ result rfl there
    obtain nothing | ⟨other, same⟩ := gives found
    · rw [nothing] at there
      exact nomatch there
    · rw [same] at there
      exact congrArg Prod.snd (Option.some.inj there).symm

theorem map {before after : Option result} {make : result → next} (first : Carried before after)
    (closes : ∀ found, make (close found) = close (make found))
    (leaves : ∀ found, rest (make found) = rest found) :
    Carried (before.map make) (after.map make) := by
  obtain ⟨found, rfl, rfl⟩ | ⟨found, rfl, rfl, nothing⟩ | ⟨rfl, nothing⟩ := first
  · rw [Option.map_some, Option.map_some, closes]
    exact some (make found)
  · exact .inr (.inl ⟨make found, rfl, rfl, (leaves found).trans nothing⟩)
  · refine .inr (.inr ⟨rfl, fun made same => ?_⟩)
    obtain ⟨found, here, rfl⟩ := Option.map_eq_some_iff.mp same
    exact (leaves found).trans (nothing found here)

/-- A reading that takes more after the first one leaves the parenthesis. -/
theorem bind_close {before after : Option result} {read : result → Option next}
    (first : Carried before after) (goesOn : ∀ found, read (close found) = (read found).map close)
    (ends : ∀ found, rest found = [] → read found = Option.none) :
    after.bind read = (before.bind read).map close := by
  obtain ⟨found, rfl, rfl⟩ | ⟨found, rfl, rfl, nothing⟩ | ⟨rfl, nothing⟩ := first
  · exact goesOn found
  · rw [Option.bind_some, ends found nothing]
    rfl
  · cases after with
    | none => rfl
    | some found => exact ends found (nothing found rfl)

end Carried

end TypedJson
