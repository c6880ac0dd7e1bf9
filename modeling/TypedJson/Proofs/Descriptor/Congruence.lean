import Mathlib.Data.List.Forall2
import TypedJson.Proofs.Descriptor.Report

/-
This file compares the reports of two values. What a comparison has to keep is said once: how
arrays, objects and closed sets see related values. Then a type reports alike of them, violation by
violation, whatever its parts are.
-/

namespace TypedJson

open Json (Value Pointer)

namespace Descriptor

/-- One type stands anywhere in another, be it in an alternative or behind a name. -/
inductive Inside : Descriptor → Descriptor → Prop
  | whole (type : Descriptor) : Inside type type
  | base {part base : Descriptor} {constraints : Constraints} (inside : Inside part base) :
      Inside part (refinement base constraints)
  | field {part : Descriptor} {label : Option String} {fields : List (Field Descriptor)}
      {field : Field Descriptor} (given : field ∈ fields) (inside : Inside part field.type) :
      Inside part (struct label fields)
  | element {part element : Descriptor} (inside : Inside part element) : Inside part (list element)
  | position {part element : Descriptor} {elements : List Descriptor} (given : element ∈ elements)
      (inside : Inside part element) : Inside part (tuple elements)
  | alternative {part alternative : Descriptor} {alternatives : List Descriptor}
      (given : alternative ∈ alternatives) (inside : Inside part alternative) :
      Inside part (union alternatives)
  | target {part target : Descriptor} {name : String} (inside : Inside part target) :
      Inside part (custom name target)

theorem Inside.trans {part middle type : Descriptor} (inner : part.Inside middle)
    (outer : middle.Inside type) : part.Inside type := by
  induction outer with
  | whole => exact inner
  | base _ ih => exact .base ih
  | field given _ ih => exact .field given ih
  | element _ ih => exact .element ih
  | position given _ ih => exact .position given ih
  | alternative given _ ih => exact .alternative given ih
  | target _ ih => exact .target ih

/--
Values that are related, and violations that are alike. The known keys are those under which
related objects have related members, and the settled sets have both of two related values or none.
-/
structure Comparison where
  related : Value → Value → Prop
  like : Violation → Violation → Prop
  known : String → Prop
  settled : List Choice → Prop
  rejection (type : Descriptor) {value other : Value} :
    related value other → like (type.rejection value) (type.rejection other)
  below (pointer : Pointer) {one other : Violation} :
    like one other → like (one.below pointer) (other.below pointer)
  isNull {value other : Value} : related value other → value.isNull = other.isNull
  primitive (kind : Primitive) {value other : Value} :
    related value other → kind.accepts value = kind.accepts other
  constraints (constraints : Constraints) {value other : Value} :
    related value other → constraints.hold value = constraints.hold other
  contains {choices : List Choice} {value other : Value} : settled choices →
    related value other → Choice.contains choices value = Choice.contains choices other
  items? {value other : Value} : related value other →
    (∃ items others, value.items? = some items ∧ other.items? = some others ∧
      List.Forall₂ related items others) ∨ value.items? = none ∧ other.items? = none
  members? {value other : Value} : related value other →
    (∃ members others, value.members? = some members ∧ other.members? = some others ∧
      ∀ key, known key → related (memberOrNull members key) (memberOrNull others key)) ∨
        value.members? = none ∧ other.members? = none

namespace Comparison

variable {comparison : Comparison} {value other : Value}

/-- All keys of the type are known, and all its closed sets are settled. -/
structure Covers (comparison : Comparison) (type : Descriptor) : Prop where
  keys : ∀ label fields, (struct label fields).Inside type →
    ∀ field ∈ fields, comparison.known field.key
  sets : ∀ choices, (enumeration choices).Inside type → comparison.settled choices

/-- A comparison that covers a type covers its parts. -/
theorem Covers.part {part type : Descriptor} (covers : comparison.Covers type)
    (inside : part.Inside type) : comparison.Covers part where
  keys label fields within := covers.keys label fields (within.trans inside)
  sets choices within := covers.sets choices (within.trans inside)

/-- Related values have violations that are alike, one by one. -/
def Agrees (comparison : Comparison) (type : Descriptor) : Prop :=
  ∀ ⦃value other : Value⦄, comparison.related value other →
    List.Forall₂ comparison.like (type.report value) (type.report other)

/-- Related values are accepted alike. -/
theorem Agrees.accepts {type : Descriptor} (agrees : comparison.Agrees type)
    (related : comparison.related value other) : type.accepts value = type.accepts other := by
  have reports := agrees related
  rw [Bool.eq_iff_iff, ← report_eq_nil_iff, ← report_eq_nil_iff]
  constructor
  · intro empty
    rwa [empty, List.forall₂_nil_left_iff] at reports
  · intro empty
    rwa [empty, List.forall₂_nil_right_iff] at reports

/-- Related values are refused alike. -/
theorem rejections_like (type : Descriptor) (related : comparison.related value other) :
    List.Forall₂ comparison.like [type.rejection value] [type.rejection other] :=
  .cons (comparison.rejection type related) .nil

/-- A test of the whole value with one answer for both values. -/
theorem test_like (type : Descriptor) (related : comparison.related value other)
    {accepted accepted' : Bool} (answer : accepted = accepted') :
    List.Forall₂ comparison.like (if accepted then [] else [type.rejection value])
      (if accepted' then [] else [type.rejection other]) := by
  subst answer
  cases accepted with
  | true => exact .nil
  | false => exact rejections_like type related

/-- Reports on related items are alike. -/
theorem Agrees.itemReport {type : Descriptor} (agrees : comparison.Agrees type)
    (related : comparison.related value other) (index : Nat) :
    List.Forall₂ comparison.like (itemReport type value index)
      (Descriptor.itemReport type other index) :=
  List.rel_map (fun _ _ like => comparison.below _ like) (agrees related)

/-- A refinement agrees if its base does. -/
theorem Agrees.refinement {base : Descriptor} (part : comparison.Agrees base)
    (constraints : Constraints) : comparison.Agrees (refinement base constraints) := by
  intro value other related
  rw [report_refinement, report_refinement, refinementReport, refinementReport,
    part.accepts related, comparison.constraints constraints related]
  split
  · exact part related
  · split
    · exact rejections_like _ related
    · exact .nil

/-- Reports on the fields of related objects are alike. -/
theorem fieldReports_like {fields : List (Field Descriptor)}
    (parts : ∀ field ∈ fields, comparison.Agrees field.type) {members others : List (String × Value)}
    (related : ∀ field ∈ fields,
      comparison.related (memberOrNull members field.key) (memberOrNull others field.key)) :
    List.Forall₂ comparison.like (fields.flatMap (fieldReport members))
      (fields.flatMap (fieldReport others)) := by
  induction fields with
  | nil => exact .nil
  | cons field rest ih =>
      rw [List.forall_mem_cons] at parts related
      have first : List.Forall₂ comparison.like (fieldReport members field)
          (fieldReport others field) := by
        rw [fieldReport, fieldReport, comparison.isNull related.1]
        split
        · exact .nil
        · exact List.rel_map (fun _ _ like => comparison.below _ like) (parts.1 related.1)
      exact List.rel_append first (ih parts.2 related.2)

/-- A structure agrees if its fields do and its keys are known. -/
theorem Agrees.struct {label : Option String} {fields : List (Field Descriptor)}
    (parts : ∀ field ∈ fields, comparison.Agrees field.type)
    (keys : ∀ field ∈ fields, comparison.known field.key) :
    comparison.Agrees (struct label fields) := by
  intro value other related
  rw [report_struct, report_struct, structReport, structReport]
  obtain ⟨members, others, here, there, member⟩ | ⟨here, there⟩ := comparison.members? related
  · rw [here, there]
    exact fieldReports_like parts fun field inside => member field.key (keys field inside)
  · rw [here, there]
    exact rejections_like _ related

/-- Reports on related items of a list are alike. -/
theorem itemReports_like {element : Descriptor} (part : comparison.Agrees element)
    {items others : List Value} (all : List.Forall₂ comparison.related items others) (index : Nat) :
    List.Forall₂ comparison.like
      ((items.zipIdx index).flatMap fun item => itemReport element item.1 item.2)
      ((others.zipIdx index).flatMap fun item => itemReport element item.1 item.2) := by
  induction all generalizing index with
  | nil => exact .nil
  | cons here rest ih =>
      rw [List.zipIdx_cons, List.zipIdx_cons]
      exact List.rel_append (part.itemReport here index) (ih (index + 1))

/-- A list agrees if its element does. -/
theorem Agrees.list {element : Descriptor} (part : comparison.Agrees element) :
    comparison.Agrees (list element) := by
  intro value other related
  rw [report_list, report_list, listReport, listReport]
  obtain ⟨items, others, here, there, all⟩ | ⟨here, there⟩ := comparison.items? related
  · rw [here, there]
    exact itemReports_like part all 0
  · rw [here, there]
    exact rejections_like _ related

/-- Reports on related items of a tuple are alike. -/
theorem elementReports_like {elements : List Descriptor}
    (parts : ∀ element ∈ elements, comparison.Agrees element) {items others : List Value}
    (all : List.Forall₂ comparison.related items others) (index : Nat) :
    List.Forall₂ comparison.like
      (((elements.zip items).zipIdx index).flatMap fun pair => itemReport pair.1.1 pair.1.2 pair.2)
      (((elements.zip others).zipIdx index).flatMap fun pair =>
        itemReport pair.1.1 pair.1.2 pair.2) := by
  induction elements generalizing items others index with
  | nil => exact .nil
  | cons element rest ih =>
      rw [List.forall_mem_cons] at parts
      cases all with
      | nil => exact .nil
      | cons here restAll =>
          rw [List.zip_cons_cons, List.zip_cons_cons, List.zipIdx_cons, List.zipIdx_cons]
          exact List.rel_append (parts.1.itemReport here index) (ih parts.2 restAll (index + 1))

/-- A tuple agrees if its elements do. -/
theorem Agrees.tuple {elements : List Descriptor}
    (parts : ∀ element ∈ elements, comparison.Agrees element) :
    comparison.Agrees (tuple elements) := by
  intro value other related
  rw [report_tuple, report_tuple, tupleReport, tupleReport]
  obtain ⟨items, others, here, there, all⟩ | ⟨here, there⟩ := comparison.items? related
  · rw [here, there]
    simp only [all.length_eq]
    split
    · exact elementReports_like parts all 0
    · exact rejections_like _ related
  · rw [here, there]
    exact rejections_like _ related

/-- A union agrees if its alternatives do. -/
theorem Agrees.union {alternatives : List Descriptor}
    (parts : ∀ alternative ∈ alternatives, comparison.Agrees alternative) :
    comparison.Agrees (union alternatives) := by
  intro value other related
  rw [report_union, report_union]
  apply test_like _ related
  rw [acceptsAny_eq_any, acceptsAny_eq_any, Bool.eq_iff_iff, List.any_eq_true, List.any_eq_true]
  exact exists_congr fun alternative => and_congr_right fun inside => by
    rw [(parts alternative inside).accepts related]

/-- A type reports alike of related values if the comparison covers it. -/
theorem agrees {type : Descriptor} (covers : comparison.Covers type) : comparison.Agrees type := by
  induction type using Descriptor.induction with
  | primitive kind =>
      intro value other related
      rw [report_primitive, report_primitive]
      exact test_like _ related (comparison.primitive kind related)
  | enumeration choices =>
      intro value other related
      rw [report_enumeration, report_enumeration]
      exact test_like _ related (comparison.contains (covers.sets choices (.whole _)) related)
  | refinement base constraints part =>
      exact (part (covers.part (.base (.whole base)))).refinement constraints
  | struct label fields parts =>
      exact .struct (fun field given => parts field given (covers.part (.field given (.whole _))))
        (covers.keys label fields (.whole _))
  | list element part => exact (part (covers.part (.element (.whole element)))).list
  | tuple elements parts =>
      exact .tuple fun element given => parts element given (covers.part (.position given (.whole _)))
  | union alternatives parts =>
      exact .union fun alternative given =>
        parts alternative given (covers.part (.alternative given (.whole _)))
  | custom name target part =>
      intro value other related
      rw [report_custom, report_custom]
      exact part (covers.part (.target (.whole target))) related

end Comparison

end Descriptor

end TypedJson
