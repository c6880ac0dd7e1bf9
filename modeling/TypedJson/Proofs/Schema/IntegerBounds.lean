import TypedJson.Proofs.Binary64.Nearest
import TypedJson.Proofs.Schema.Satisfies
import TypedJson.Proofs.Schema.WellFormed

namespace TypedJson.Schema

open Json (Value)
open Binary64 (Indistinct ofInt)

/-- The integer in a keyword. -/
def Node.integer? (node : Node) (keyword : String) : Option Int :=
  match node.get? keyword with
  | some (.number (.integer value _)) => some value
  | _ => none

/-- Every number in a keyword of bounds is an integer of 64 bits. -/
structure HasIntegerBounds (node : Node) : Prop where
  bound : ∀ keyword ∈ ["minimum", "maximum"], ∀ value, node.get? keyword = some value →
    ∃ bound inRange, value = .number (.integer bound inRange)
  exclusive : ∀ keyword ∈ ["exclusiveMinimum", "exclusiveMaximum"], ∀ number,
    node.get? keyword = some (.number number) → ∃ bound inRange, number = .integer bound inRange

/--
A bound is strict if its exclusive keyword is no number and truthy. A numeric exclusive keyword is
a further strict bound.
-/
structure IntegerBoundFits (node : Node) (keyword exclusive : String)
    (weak strict : Int → Prop) : Prop where
  weakly : ∀ bound, node.integer? keyword = some bound →
    ¬(node.integer? exclusive = none ∧ node.flag exclusive = true) → weak bound
  strictly : ∀ bound, node.integer? keyword = some bound →
    node.integer? exclusive = none → node.flag exclusive = true → strict bound
  further : ∀ bound, node.integer? exclusive = some bound → strict bound

/-- An integer is within the bounds of a node, for some meaning of `at most` and `below`. -/
structure IntegerFits (node : Node) (atMost below : Int → Int → Prop) (value : Int) : Prop where
  least : IntegerBoundFits node "minimum" "exclusiveMinimum" (atMost · value) (below · value)
  greatest : IntegerBoundFits node "maximum" "exclusiveMaximum" (atMost value) (below value)

/-- At most, or merged by rounding. -/
def RoundsAtMost (left right : Int) : Prop := left ≤ right ∨ Indistinct left right

/-- Below, and kept apart by rounding. -/
def RoundsBelow (left right : Int) : Prop := left < right ∧ ¬Indistinct left right

/-- Rounding changes no comparison of integers that it does not merge. -/
theorem rounds_iff {left right : Int} (apart : Indistinct left right → left = right) :
    (RoundsAtMost left right ↔ left ≤ right) ∧ (RoundsBelow left right ↔ left < right) := by
  constructor
  · exact ⟨fun rounds => rounds.elim id fun merged => (apart merged).le, Or.inl⟩
  · exact ⟨And.left, fun less => ⟨less, fun merged => less.ne (apart merged)⟩⟩

/-- The integers of a schema have no more than 64 bits. -/
theorem natAbs_lt_of_integer? {node : Node} {keyword : String} {bound : Int}
    (given : node.integer? keyword = some bound) : bound.natAbs < 2 ^ 64 := by
  unfold Node.integer? at given
  split at given
  · rename_i value inRange _
    obtain rfl := Option.some.inj given
    omega
  · simp at given

/-- Where all numbers in a keyword are integers, its number is the rounded integer. -/
theorem number?_eq_integer? {node : Node} {keyword : String}
    (whole : ∀ number, node.get? keyword = some (.number number) →
      ∃ bound inRange, number = .integer bound inRange) :
    node.number? keyword = (node.integer? keyword).map ofInt := by
  unfold Node.number? Node.integer?
  cases given : node.get? keyword with
  | none => rfl
  | some value =>
      cases value with
      | number number =>
          obtain ⟨bound, inRange, rfl⟩ := whole number given
          rfl
      | _ => rfl

/-- If a bound is an integer, what holds of the bound holds of the integer after rounding. -/
theorem forall_number?_iff {node : Node} {keyword : String}
    (whole : node.number? keyword = (node.integer? keyword).map ofInt)
    (meaning : Binary64 → Prop) :
    (∀ bound, node.number? keyword = some bound → meaning bound) ↔
      ∀ bound, node.integer? keyword = some bound → meaning (ofInt bound) := by
  rw [whole]
  cases node.integer? keyword <;> simp

/-- If a pair of bounds are integers, they fit as the integers do after rounding. -/
theorem boundFits_iff {node : Node} {keyword exclusive : String} (weak strict : Binary64 → Prop)
    (whole : node.number? keyword = (node.integer? keyword).map ofInt)
    (wholeExclusive : node.number? exclusive = (node.integer? exclusive).map ofInt) :
    BoundFits node keyword exclusive weak strict ↔
      IntegerBoundFits node keyword exclusive (weak ∘ ofInt) (strict ∘ ofInt) := by
  have absent : node.number? exclusive = none ↔ node.integer? exclusive = none := by
    rw [wholeExclusive, Option.map_eq_none_iff]
  have weakly := forall_number?_iff whole fun bound =>
    ¬(node.integer? exclusive = none ∧ node.flag exclusive = true) → weak bound
  have strictly := forall_number?_iff whole fun bound =>
    node.integer? exclusive = none → node.flag exclusive = true → strict bound
  have further := forall_number?_iff wholeExclusive strict
  constructor
  · rintro ⟨fitsWeakly, fitsStrictly, fitsFurther⟩
    rw [absent] at fitsWeakly fitsStrictly
    exact ⟨weakly.mp fitsWeakly, strictly.mp fitsStrictly, further.mp fitsFurther⟩
  · rintro ⟨fitsWeakly, fitsStrictly, fitsFurther⟩
    refine ⟨?_, ?_, further.mpr fitsFurther⟩
    · rw [absent]
      exact weakly.mpr fitsWeakly
    · rw [absent]
      exact strictly.mpr fitsStrictly

/-- Only what bounds mean at the integers that the keywords hold counts. -/
theorem IntegerBoundFits.imp {node : Node} {keyword exclusive : String}
    {weak strict weak' strict' : Int → Prop}
    (implied : ∀ bound, node.integer? keyword = some bound ∨ node.integer? exclusive = some bound →
      (weak bound → weak' bound) ∧ (strict bound → strict' bound))
    (fits : IntegerBoundFits node keyword exclusive weak strict) :
    IntegerBoundFits node keyword exclusive weak' strict' where
  weakly bound given notStrict := (implied bound (.inl given)).1 (fits.weakly bound given notStrict)
  strictly bound given absent flag :=
    (implied bound (.inl given)).2 (fits.strictly bound given absent flag)
  further bound given := (implied bound (.inr given)).2 (fits.further bound given)

/-- The integers in the keywords of bounds. -/
def Node.integerBounds (node : Node) : List Int :=
  ["minimum", "exclusiveMinimum", "maximum", "exclusiveMaximum"].filterMap node.integer?

/-- The integer bounds of a node are those of its four keywords. -/
theorem mem_integerBounds {node : Node} {bound : Int} :
    bound ∈ node.integerBounds ↔
      (node.integer? "minimum" = some bound ∨ node.integer? "exclusiveMinimum" = some bound) ∨
        (node.integer? "maximum" = some bound ∨ node.integer? "exclusiveMaximum" = some bound) := by
  simp [Node.integerBounds, or_assoc]

/-- The integer bounds of a node have no more than 64 bits. -/
theorem natAbs_lt_of_mem {node : Node} {bound : Int} (given : bound ∈ node.integerBounds) :
    bound.natAbs < 2 ^ 64 := by
  rcases mem_integerBounds.mp given with (given | given) | (given | given) <;>
    exact natAbs_lt_of_integer? given

theorem IntegerFits.imp {node : Node} {atMost below atMost' below' : Int → Int → Prop} {value : Int}
    (implied : ∀ bound ∈ node.integerBounds,
      ((atMost bound value → atMost' bound value) ∧ (below bound value → below' bound value)) ∧
        ((atMost value bound → atMost' value bound) ∧ (below value bound → below' value bound)))
    (fits : IntegerFits node atMost below value) : IntegerFits node atMost' below' value where
  least := fits.least.imp fun bound given => (implied bound (mem_integerBounds.mpr (.inl given))).1
  greatest := fits.greatest.imp fun bound given =>
    (implied bound (mem_integerBounds.mpr (.inr given))).2

/-- Bounds and integers are compared after rounding. -/
theorem numberFits_iff {node : Node} (bounded : HasIntegerBounds node) {value : Int}
    (inRange : value.natAbs < 2 ^ 64) :
    NumberFits node (ofInt value) ↔ IntegerFits node RoundsAtMost RoundsBelow value := by
  have whole {keyword : String} (inside : keyword ∈ ["minimum", "maximum"]) :
      node.number? keyword = (node.integer? keyword).map ofInt :=
    number?_eq_integer? fun number given => by
      obtain ⟨bound, inRange, same⟩ := bounded.bound keyword inside _ given
      exact ⟨bound, inRange, Value.number.inj same⟩
  have wholeExclusive {keyword : String} (inside : keyword ∈ ["exclusiveMinimum", "exclusiveMaximum"]) :
      node.number? keyword = (node.integer? keyword).map ofInt :=
    number?_eq_integer? (bounded.exclusive keyword inside)
  have rounds (bound : Int) (given : bound ∈ node.integerBounds) :
      ((ofInt bound ≤ ofInt value ↔ RoundsAtMost bound value) ∧
        (ofInt bound < ofInt value ↔ RoundsBelow bound value)) ∧
      ((ofInt value ≤ ofInt bound ↔ RoundsAtMost value bound) ∧
        (ofInt value < ofInt bound ↔ RoundsBelow value bound)) := by
    have bound := natAbs_lt_of_mem given
    exact ⟨⟨Binary64.ofInt_le_iff bound inRange, Binary64.ofInt_lt_iff bound inRange⟩,
      ⟨Binary64.ofInt_le_iff inRange bound, Binary64.ofInt_lt_iff inRange bound⟩⟩
  have split : NumberFits node (ofInt value) ↔
      IntegerFits node (fun left right => ofInt left ≤ ofInt right)
        (fun left right => ofInt left < ofInt right) value := by
    constructor
    · rintro ⟨least, greatest⟩
      exact ⟨(boundFits_iff _ _ (whole (by simp)) (wholeExclusive (by simp))).mp least,
        (boundFits_iff _ _ (whole (by simp)) (wholeExclusive (by simp))).mp greatest⟩
    · rintro ⟨least, greatest⟩
      exact ⟨(boundFits_iff _ _ (whole (by simp)) (wholeExclusive (by simp))).mpr least,
        (boundFits_iff _ _ (whole (by simp)) (wholeExclusive (by simp))).mpr greatest⟩
  rw [split]
  constructor
  · exact IntegerFits.imp fun bound given =>
      ⟨⟨(rounds bound given).1.1.mp, (rounds bound given).1.2.mp⟩,
        (rounds bound given).2.1.mp, (rounds bound given).2.2.mp⟩
  · exact IntegerFits.imp fun bound given =>
      ⟨⟨(rounds bound given).1.1.mpr, (rounds bound given).1.2.mpr⟩,
        (rounds bound given).2.1.mpr, (rounds bound given).2.2.mpr⟩

/-- A node with integer bounds has only bounds that are numbers. -/
theorem boundKeywords_of_integers {node : Node} (bounded : HasIntegerBounds node) :
    BoundKeywords node := by
  have number {keyword : String} (inside : keyword ∈ ["minimum", "maximum"]) :
      Optionally node keyword IsNumber := by
    intro value given
    obtain ⟨bound, inRange, rfl⟩ := bounded.bound keyword inside value given
    exact ⟨_, rfl⟩
  exact ⟨number (by simp), number (by simp)⟩

/-- A number type with integer bounds is made, and integers have to fit its bounds only. -/
theorem compile_of_integerBounds {registry : Registry} {members : List (String × Value)}
    {kind : Kind} (numeric : kind = .number ∨ kind = .integer)
    (typed : members.lookup "type" = some (.string kind.name))
    (bounded : HasIntegerBounds ⟨members⟩) :
    ∃ type, compile registry (.object members) = .ok type ∧ ∀ value inRange,
      type.accepts (.number (.integer value inRange)) = true ↔
        NumberFits ⟨members⟩ (ofInt value) := by
  have keywords := boundKeywords_of_integers bounded
  have name := ofText_eq_kind.mpr (rfl : kind.name = kind.name)
  rcases numeric with rfl | rfl
  · obtain ⟨type, made⟩ := numberType_succeeds_iff.mpr keywords
    refine ⟨type, compile_object_eq_ok.mpr (.inr (.inl ⟨_, typed, ?_⟩)), fun value inRange => ?_⟩
    · rw [typeFor, name, namedType, made]
    · rw [accepts_numberType made]
      simp [Json.Number.toBinary64, Json.Number.isWhole]
  · obtain ⟨type, made⟩ := integerType_succeeds_iff.mpr keywords
    refine ⟨type, compile_object_eq_ok.mpr (.inr (.inl ⟨_, typed, ?_⟩)), fun value inRange => ?_⟩
    · rw [typeFor, name, namedType, made]
    · rw [accepts_integerType made]
      simp [Json.Number.toBinary64, Json.Number.isWhole]

/--
A number type with integer bounds accepts the integers that are within the bounds, where a bound that
rounding merges with an integer counts as equal to it. If the integer or all bounds are below 2^53,
rounding changes nothing.
-/
theorem accepts_integer_iff {registry : Registry} {members : List (String × Value)}
    {kind : Kind} (numeric : kind = .number ∨ kind = .integer)
    (typed : members.lookup "type" = some (.string kind.name))
    (bounded : HasIntegerBounds ⟨members⟩) :
    ∃ type, compile registry (.object members) = .ok type ∧ ∀ value inRange,
      (type.accepts (.number (.integer value inRange)) = true ↔
        IntegerFits ⟨members⟩ RoundsAtMost RoundsBelow value) ∧
      (value.natAbs < 2 ^ 53 ∨ (∀ bound ∈ Node.integerBounds ⟨members⟩, bound.natAbs < 2 ^ 53) →
        (type.accepts (.number (.integer value inRange)) = true ↔
          IntegerFits ⟨members⟩ (· ≤ ·) (· < ·) value)) := by
  obtain ⟨type, compiled, accepts⟩ := compile_of_integerBounds numeric typed bounded
  refine ⟨type, compiled, fun value inRange => ?_⟩
  have small : value.natAbs < 2 ^ 64 := by omega
  have rounded := numberFits_iff bounded small
  rw [accepts value inRange, rounded]
  refine ⟨Iff.rfl, fun near => ?_⟩
  have apart (bound : Int) (given : bound ∈ Node.integerBounds ⟨members⟩)
      (merged : Indistinct bound value) : bound = value := by
    rcases near with near | near
    · exact (merged.symm.eq_of_lt near (natAbs_lt_of_mem given)).symm
    · exact merged.eq_of_lt (near bound given) small
  have before (bound : Int) (given : bound ∈ Node.integerBounds ⟨members⟩) :=
    rounds_iff (apart bound given)
  have after (bound : Int) (given : bound ∈ Node.integerBounds ⟨members⟩) :=
    rounds_iff fun merged : Indistinct value bound => (apart bound given merged.symm).symm
  constructor
  · exact IntegerFits.imp fun bound given =>
      ⟨⟨(before bound given).1.mp, (before bound given).2.mp⟩,
        (after bound given).1.mp, (after bound given).2.mp⟩
  · exact IntegerFits.imp fun bound given =>
      ⟨⟨(before bound given).1.mpr, (before bound given).2.mpr⟩,
        (after bound given).1.mpr, (after bound given).2.mpr⟩

/-- A type for integers from 2^53 + 1 on. -/
def longIdentifier : List (String × Value) :=
  [("type", .string "integer"), ("minimum", .number (.integer 9007199254740993 (by decide)))]

/-- The bounds of the example are integers. -/
theorem hasIntegerBounds_longIdentifier : HasIntegerBounds ⟨longIdentifier⟩ where
  bound keyword inside value given := by
    simp only [List.mem_cons, List.not_mem_nil, or_false] at inside
    rcases inside with rfl | rfl
    · obtain rfl := Option.some.inj given
      exact ⟨_, _, rfl⟩
    · exact nomatch given
  exclusive keyword inside number given := by
    simp only [List.mem_cons, List.not_mem_nil, or_false] at inside
    rcases inside with rfl | rfl <;> exact nomatch given

/-- The least identifier is merged with the integer before it, which is accepted; the next one is not. -/
theorem accepts_integer_iff_longIdentifier :
    longIdentifier.lookup "type" = some (.string Kind.integer.name) ∧
    HasIntegerBounds ⟨longIdentifier⟩ ∧
    ∃ type, compile .empty (.object longIdentifier) = .ok type ∧
      type.accepts (.number (.integer 9007199254740992 (by decide))) = true ∧
      type.accepts (.number (.integer 9007199254740991 (by decide))) = false := by
  obtain ⟨type, compiled, accepts⟩ :=
    accepts_integer_iff (.inr rfl) rfl hasIntegerBounds_longIdentifier
  refine ⟨rfl, hasIntegerBounds_longIdentifier, type, compiled, ?_, ?_⟩
  · have absent {keyword : String} (missing : Node.integer? ⟨longIdentifier⟩ keyword = none)
        (meaning : Int → Prop) (bound : Int)
        (given : Node.integer? ⟨longIdentifier⟩ keyword = some bound) : meaning bound :=
      nomatch missing.symm.trans given
    refine (accepts _ _).1.mpr ⟨⟨fun bound given _ => ?_, fun _ _ _ flag => (nomatch flag),
      absent rfl _⟩, ⟨absent rfl _, absent rfl _, absent rfl _⟩⟩
    obtain rfl := Option.some.inj given
    exact .inr (by decide +kernel)
  · rw [Bool.eq_false_iff, ne_eq, (accepts _ _).2 (.inl (by decide))]
    rintro ⟨⟨weakly, -, -⟩, -⟩
    have := weakly 9007199254740993 rfl (by decide)
    omega

/-- Rounding lets an integer pass that is below the least one. -/
theorem longIdentifier_accepts_less :
    ∃ type, compile .empty (.object longIdentifier) = .ok type ∧
      type.accepts (.number (.integer 9007199254740992 (by decide))) = true ∧
      ¬IntegerFits ⟨longIdentifier⟩ (· ≤ ·) (· < ·) 9007199254740992 := by
  refine ⟨_, rfl, by decide +kernel, ?_⟩
  rintro ⟨⟨weakly, -, -⟩, -⟩
  have := weakly 9007199254740993 rfl (by decide)
  omega

end TypedJson.Schema
