import TypedJson.Proofs.Descriptor.Report
import TypedJson.Proofs.Schema.Replacement
import TypedJson.Proofs.Result

namespace TypedJson

open Json (Value)

namespace Constraint

/-- Constraints that are written alike and hold of the same values. -/
structure Alike (first second : Constraint) : Prop where
  text : first.text = second.text
  holds : ∀ value, first.holds value = second.holds value

end Constraint

namespace Constraints

variable {first second : Constraints}

/-- Constraints that are alike one by one have one text. -/
theorem text_eq_of_alike (alike : List.Forall₂ Constraint.Alike first.list second.list) :
    first.text = second.text := by
  have texts : first.list.map Constraint.text = second.list.map Constraint.text :=
    map_eq_of_forall₂ alike fun _ _ same => same.text
  rw [text, text, texts]

/-- Constraints that are alike one by one hold of the same values. -/
theorem hold_eq_of_alike (alike : List.Forall₂ Constraint.Alike first.list second.list)
    (value : Value) : first.hold value = second.hold value := by
  have holds : first.list.map (fun constraint => constraint.holds value) =
      second.list.map fun constraint => constraint.holds value :=
    map_eq_of_forall₂ alike fun _ _ same => same.holds value
  have counted (constraints : Constraints) : constraints.hold value =
      (constraints.list.map fun constraint => constraint.holds value).all id := by
    rw [List.all_map]
    rfl
  rw [counted first, counted second, holds]

end Constraints

namespace Descriptor

/-- Types under one name that accept the same values and report the same violations. -/
structure Alike (first second : Descriptor) : Prop extends Interchangeable first second where
  name : first.name = second.name
  report : ∀ value, first.report value = second.report value

namespace Alike

variable {first second : Descriptor}

theorem refl (descriptor : Descriptor) : descriptor.Alike descriptor :=
  ⟨.refl descriptor, rfl, fun _ => rfl⟩

/-- Types of one name refuse a value in the same words. -/
theorem rejection (alike : first.name = second.name) (value : Value) :
    first.rejection value = second.rejection value := by
  rw [Descriptor.rejection, Descriptor.rejection, alike]

/-- Types that are alike report alike of an item. -/
theorem itemReport (alike : first.Alike second) (item : Value) (index : Nat) :
    first.itemReport item index = second.itemReport item index := by
  rw [Descriptor.itemReport, Descriptor.itemReport, alike.report]

/-- Refinements are alike if their bases and their constraints are. -/
theorem refinement {constraints others : Constraints} (base : first.Alike second)
    (alike : List.Forall₂ Constraint.Alike constraints.list others.list) :
    (Descriptor.refinement first constraints).Alike (.refinement second others) := by
  have named : (Descriptor.refinement first constraints).name =
      (Descriptor.refinement second others).name := by
    rw [Descriptor.name, Descriptor.name, base.name, Constraints.text_eq_of_alike alike]
  constructor
  · refine ⟨rfl, fun value => ?_⟩
    rw [Descriptor.accepts, Descriptor.accepts, base.accepts, Constraints.hold_eq_of_alike alike]
  · exact named
  · intro value
    rw [report_refinement, report_refinement, refinementReport, refinementReport, base.accepts,
      base.report, Constraints.hold_eq_of_alike alike, rejection named]

/-- Lists are alike if their elements are. -/
theorem list (element : first.Alike second) :
    (Descriptor.list first).Alike (.list second) := by
  have named : (Descriptor.list first).name = (Descriptor.list second).name := by
    rw [Descriptor.name, Descriptor.name, element.name]
  refine ⟨element.toInterchangeable.list, named, fun value => ?_⟩
  rw [report_list, report_list, listReport, listReport, rejection named]
  simp only [element.itemReport]

/-- Named types are alike if their targets are and the name is the same. -/
theorem custom (label : String) (target : first.Alike second) :
    (Descriptor.custom label first).Alike (.custom label second) := by
  constructor
  · refine ⟨rfl, fun value => ?_⟩
    rw [Descriptor.accepts, Descriptor.accepts, target.accepts]
  · rfl
  · intro value
    rw [report_custom, report_custom, target.report]

section

variable {firsts seconds : List Descriptor} (all : List.Forall₂ Alike firsts seconds)

include all

/-- Types that are alike one by one may stand for each other. -/
theorem interchangeable : List.Forall₂ Interchangeable firsts seconds :=
  all.imp fun _ _ alike => alike.toInterchangeable

/-- Types that are alike one by one have the same names. -/
theorem names_eq : names firsts = names seconds := by
  induction all with
  | nil => rfl
  | cons head rest ih => rw [names, names, head.name, ih]

/-- Types that are alike one by one report alike of items. -/
theorem itemReports_eq (items : List Value) (index : Nat) :
    ((firsts.zip items).zipIdx index).flatMap
        (fun pair => Descriptor.itemReport pair.1.1 pair.1.2 pair.2) =
      ((seconds.zip items).zipIdx index).flatMap
        fun pair => Descriptor.itemReport pair.1.1 pair.1.2 pair.2 := by
  induction all generalizing items index with
  | nil => rfl
  | cons head rest ih =>
      cases items with
      | nil => rfl
      | cons item others =>
          rw [List.zip_cons_cons, List.zip_cons_cons, List.zipIdx_cons, List.zipIdx_cons,
            List.flatMap_cons, List.flatMap_cons, head.itemReport, ih]

/-- Tuples are alike if their elements are. -/
theorem tuple : (Descriptor.tuple firsts).Alike (.tuple seconds) := by
  have named : (Descriptor.tuple firsts).name = (Descriptor.tuple seconds).name := by
    rw [Descriptor.name, Descriptor.name, names_eq all]
  refine ⟨Interchangeable.tuple (interchangeable all), named, fun value => ?_⟩
  rw [report_tuple, report_tuple, tupleReport, tupleReport, all.length_eq, rejection named]
  simp only [itemReports_eq all]

/-- Unions are alike if their alternatives are. -/
theorem union : (Descriptor.union firsts).Alike (.union seconds) := by
  have named : (Descriptor.union firsts).name = (Descriptor.union seconds).name := by
    rw [Descriptor.name, Descriptor.name, names_eq all]
  have same := Interchangeable.union (interchangeable all)
  refine ⟨same, named, fun value => ?_⟩
  have accepted := same.accepts value
  rw [Descriptor.accepts, Descriptor.accepts] at accepted
  rw [report_union, report_union, accepted, rejection named]

end

/-- Fields of one key that are both optional or both not, of types that are alike. -/
structure Fields (first second : Field Descriptor) : Prop where
  key : first.key = second.key
  optional : first.optional = second.optional
  type : first.type.Alike second.type

/-- Fields that are alike report alike. -/
theorem Fields.report {first second : Field Descriptor} (alike : Fields first second)
    (members : List (String × Value)) :
    fieldReport members first = fieldReport members second := by
  rw [fieldReport, fieldReport, alike.key, alike.optional, alike.type.report]

/-- Structures are alike if their fields are. -/
theorem struct {firsts seconds : List (Field Descriptor)} (label : Option String)
    (all : List.Forall₂ Fields firsts seconds) :
    (Descriptor.struct label firsts).Alike (.struct label seconds) := by
  have fieldNames : fieldNames firsts = fieldNames seconds := by
    induction all with
    | nil => rfl
    | cons head rest ih =>
        rw [Descriptor.fieldNames, Descriptor.fieldNames, head.key, head.optional, head.type.name,
          ih]
  have named : (Descriptor.struct label firsts).name = (Descriptor.struct label seconds).name := by
    cases label with
    | none => rw [Descriptor.name, Descriptor.name, fieldNames]
    | some label => rfl
  have reports (members : List (String × Value)) :
      firsts.flatMap (fieldReport members) = seconds.flatMap (fieldReport members) := by
    rw [List.flatMap_def, List.flatMap_def, map_eq_of_forall₂ all fun _ _ alike =>
      alike.report members]
  have same : List.Forall₂ Interchangeable.Fields firsts seconds :=
    all.imp fun _ _ alike => ⟨alike.key, alike.optional, alike.type.toInterchangeable⟩
  refine ⟨Interchangeable.struct same label label, named, fun value => ?_⟩
  rw [report_struct, report_struct, structReport, structReport, rejection named]
  simp only [reports]

end Alike

end Descriptor

end TypedJson
