import Mathlib.Logic.Basic
import TypedJson.Descriptor.Report
import TypedJson.Proofs.Descriptor.Accepts
import TypedJson.Proofs.Json.Pointer

namespace TypedJson

open Json (Value Pointer)

namespace Violation

/-- The violation as it is seen from above the place that the pointer leads to. -/
def below (pointer : Pointer) (violation : Violation) : Violation :=
  { violation with path := pointer.append violation.path }

@[simp] theorem below_root : below .root = id := by
  funext violation
  simp [below]

@[simp] theorem below_below (outer inner : Pointer) (violation : Violation) :
    (violation.below inner).below outer = violation.below (outer.append inner) := by
  simp [below]

/-- The violations that a validation gives. -/
def given : Except (List Violation) Unit → List Violation
  | .ok _ => []
  | .error found => found

end Violation

namespace Descriptor

/-- The one violation that the whole value departs from the type. -/
def rejection (descriptor : Descriptor) (value : Value) : Violation :=
  ⟨.root, descriptor.name, value⟩

/-- A refusal is put behind what was found, below the path. -/
theorem toList_reject (descriptor : Descriptor) (value : Value) (path : Pointer)
    (found : Array Violation) :
    (descriptor.reject value path found).toList =
      found.toList ++ [(descriptor.rejection value).below path] := by
  simp [reject, rejection, Violation.below]

/-- A collector adds to what was found before, at places below the given one. -/
def Adds (collect : Pointer → Array Violation → Array Violation) (found : List Violation) :
    Prop :=
  ∀ path before, (collect path before).toList = before.toList ++ found.map (.below path)

theorem Adds.nothing : Adds (fun _ found => found) [] := by
  intro path before
  simp

/-- A refusal adds one violation. -/
theorem Adds.rejected (descriptor : Descriptor) (value : Value) :
    Adds (descriptor.reject value) [descriptor.rejection value] := by
  intro path before
  simp [toList_reject]

/-- What is collected at a child stands below the segment that leads to it. -/
theorem Adds.child {collect : Pointer → Array Violation → Array Violation}
    {found : List Violation} (adds : Adds collect found) (segment : String) :
    Adds (fun path before => collect (path.child segment) before)
      (found.map (.below (.child .root segment))) := by
  intro path before
  rw [adds, Pointer.child_eq_append path]
  simp [Function.comp_def]

/-- One after the other adds both. -/
theorem Adds.andThen {first second : Pointer → Array Violation → Array Violation}
    {one other : List Violation} (adds : Adds first one) (addsMore : Adds second other) :
    Adds (fun path before => second path (first path before)) (one ++ other) := by
  intro path before
  rw [addsMore, adds]
  simp

/-- The violations of one member of an object. -/
def fieldReport (members : List (String × Value)) (field : Field Descriptor) : List Violation :=
  if field.optional && (memberOrNull members field.key).isNull then []
  else (field.type.report (memberOrNull members field.key)).map
    (.below (.child .root field.key))

/-- The violations of one item, by the type for its position. -/
def itemReport (descriptor : Descriptor) (item : Value) (index : Nat) : List Violation :=
  (descriptor.report item).map (.below (.child .root (toString index)))

/-- A type that adds some violations of a value adds the ones that it reports from the root. -/
theorem Adds.report_eq {descriptor : Descriptor} {value : Value} {found : List Violation}
    (adds : Adds (descriptor.collect value) found) : descriptor.report value = found := by
  rw [report, adds .root #[]]
  simp

/-- What a type collects of a value is its report of the value. -/
def CollectsReport (descriptor : Descriptor) : Prop :=
  ∀ value, Adds (descriptor.collect value) (descriptor.report value)

/-- What is added to any list at any path is the report. -/
theorem CollectsReport.of_adds {descriptor : Descriptor} (parts : Value → List Violation)
    (adds : ∀ value, Adds (descriptor.collect value) (parts value)) :
    descriptor.CollectsReport := by
  intro value
  rw [(adds value).report_eq]
  exact adds value

/-- A test of the whole value that adds one violation if it fails. -/
theorem Adds.test (descriptor : Descriptor) (value : Value) (accepted : Bool) :
    Adds (fun path found => if accepted then found else descriptor.reject value path found)
      (if accepted then [] else [descriptor.rejection value]) := by
  cases accepted with
  | true => exact Adds.nothing
  | false => exact Adds.rejected descriptor value

/-- Fields add their reports, each below its key. -/
theorem collectFields_adds (fields : List (Field Descriptor)) (members : List (String × Value))
    (parts : ∀ field ∈ fields, field.type.CollectsReport) :
    Adds (fun path found => collectFields fields members path found)
      (fields.flatMap (fieldReport members)) := by
  induction fields with
  | nil => exact Adds.nothing
  | cons field rest ih =>
      have first : Adds (fun path found =>
          if field.optional && (memberOrNull members field.key).isNull then found
          else field.type.collect (memberOrNull members field.key) (path.child field.key) found)
          (fieldReport members field) := by
        unfold fieldReport
        split
        · exact Adds.nothing
        · exact (parts field (by simp) _).child field.key
      exact first.andThen (ih fun other inside => parts other (by simp [inside]))

/-- Items of a list add their reports, each below its index. -/
theorem collectItems_adds (element : Descriptor) (items : List Value) (index : Nat)
    (part : element.CollectsReport) :
    Adds (fun path found => collectItems element.collect path index items found)
      ((items.zipIdx index).flatMap fun item => itemReport element item.1 item.2) := by
  induction items generalizing index with
  | nil => exact Adds.nothing
  | cons item rest ih =>
      rw [List.zipIdx_cons, List.flatMap_cons]
      exact ((part item).child (toString index)).andThen (ih (index + 1))

/-- Items of a tuple add their reports, each below its index. -/
theorem collectElements_adds (elements : List Descriptor) (items : List Value) (index : Nat)
    (parts : ∀ element ∈ elements, element.CollectsReport) :
    Adds (fun path found => collectElements elements items path index found)
      (((elements.zip items).zipIdx index).flatMap fun pair =>
        itemReport pair.1.1 pair.1.2 pair.2) := by
  induction elements generalizing items index with
  | nil => exact Adds.nothing
  | cons element rest ih =>
      cases items with
      | nil => exact Adds.nothing
      | cons item others =>
          rw [List.zip_cons_cons, List.zipIdx_cons, List.flatMap_cons]
          have first := (parts element (by simp) item).child (toString index)
          exact first.andThen (ih others (index + 1) fun other inside =>
            parts other (by simp [inside]))

/-- The violations of a refined type: those of its base, or else one for its constraints. -/
def refinementReport (base : Descriptor) (constraints : Constraints) (value : Value) :
    List Violation :=
  if !base.accepts value then base.report value
  else if !constraints.hold value then [(refinement base constraints).rejection value]
  else []

def structReport (label : Option String) (fields : List (Field Descriptor)) (value : Value) :
    List Violation :=
  match value.members? with
  | some members => fields.flatMap (fieldReport members)
  | none => [(struct label fields).rejection value]

def listReport (element : Descriptor) (value : Value) : List Violation :=
  match value.items? with
  | some items => items.zipIdx.flatMap fun item => itemReport element item.1 item.2
  | none => [(list element).rejection value]

def tupleReport (elements : List Descriptor) (value : Value) : List Violation :=
  match value.items? with
  | some items =>
    if items.length = elements.length then
      (elements.zip items).zipIdx.flatMap fun pair => itemReport pair.1.1 pair.1.2 pair.2
    else [(tuple elements).rejection value]
  | none => [(tuple elements).rejection value]

/-- A refinement adds the report of its base, or one violation of its constraints. -/
theorem refinement_adds (base : Descriptor) (constraints : Constraints) (value : Value)
    (part : base.CollectsReport) :
    Adds ((refinement base constraints).collect value)
      (refinementReport base constraints value) := by
  intro path before
  unfold collect refinementReport
  by_cases ofBase : base.accepts value
  · by_cases held : constraints.hold value
    · simp [ofBase, held]
    · simpa [ofBase, held] using Adds.rejected (refinement base constraints) value path before
  · simpa [ofBase] using part value path before

/-- A structure adds the reports of its fields. -/
theorem struct_adds (label : Option String) (fields : List (Field Descriptor)) (value : Value)
    (parts : ∀ field ∈ fields, field.type.CollectsReport) :
    Adds ((struct label fields).collect value) (structReport label fields value) := by
  intro path before
  unfold collect structReport
  cases value.members? with
  | some members => exact collectFields_adds fields members parts path before
  | none => exact Adds.rejected (struct label fields) value path before

/-- A list adds the reports of its items. -/
theorem list_adds (element : Descriptor) (value : Value) (part : element.CollectsReport) :
    Adds ((list element).collect value) (listReport element value) := by
  intro path before
  unfold collect listReport
  cases value.items? with
  | some items => exact collectItems_adds element items 0 part path before
  | none => exact Adds.rejected (list element) value path before

/-- A tuple adds the reports of its items. -/
theorem tuple_adds (elements : List Descriptor) (value : Value)
    (parts : ∀ element ∈ elements, element.CollectsReport) :
    Adds ((tuple elements).collect value) (tupleReport elements value) := by
  intro path before
  unfold collect tupleReport
  cases value.items? with
  | some items =>
      by_cases fits : items.length = elements.length
      · simpa [fits] using collectElements_adds elements items 0 parts path before
      · simpa [fits] using Adds.rejected (tuple elements) value path before
  | none => exact Adds.rejected (tuple elements) value path before

/-- A primitive type adds a violation if it refuses. -/
theorem primitive_adds (kind : Primitive) (value : Value) :
    Adds ((primitive kind).collect value)
      (if kind.accepts value then [] else [(primitive kind).rejection value]) := by
  intro path before
  unfold collect
  exact Adds.test (primitive kind) value _ path before

/-- A closed set adds a violation if it refuses. -/
theorem enumeration_adds (choices : List Choice) (value : Value) :
    Adds ((enumeration choices).collect value)
      (if Choice.contains choices value then [] else [(enumeration choices).rejection value]) := by
  intro path before
  unfold collect
  exact Adds.test (enumeration choices) value _ path before

/-- A union adds a violation if all alternatives refuse. -/
theorem union_adds (alternatives : List Descriptor) (value : Value) :
    Adds ((union alternatives).collect value)
      (if acceptsAny alternatives value then [] else [(union alternatives).rejection value]) := by
  intro path before
  unfold collect
  exact Adds.test (union alternatives) value _ path before

/-- A named type adds what its target reports. -/
theorem custom_adds (name : String) (target : Descriptor) (value : Value)
    (part : target.CollectsReport) :
    Adds ((custom name target).collect value) (target.report value) := by
  intro path before
  unfold collect
  exact part value path before

/-- Collecting is writing: what was found before stays, and the report follows it. -/
theorem collectsReport (descriptor : Descriptor) : descriptor.CollectsReport := by
  induction descriptor using Descriptor.induction with
  | primitive kind => exact .of_adds _ (primitive_adds kind)
  | enumeration choices => exact .of_adds _ (enumeration_adds choices)
  | refinement base constraints part =>
      exact .of_adds _ fun value => refinement_adds base constraints value part
  | struct label fields parts =>
      exact .of_adds _ fun value => struct_adds label fields value parts
  | list element part => exact .of_adds _ fun value => list_adds element value part
  | tuple elements parts => exact .of_adds _ fun value => tuple_adds elements value parts
  | union alternatives parts => exact .of_adds _ (union_adds alternatives)
  | custom name target part => exact .of_adds _ fun value => custom_adds name target value part

/-- A primitive type reports the value that it refuses. -/
theorem report_primitive (kind : Primitive) (value : Value) :
    (primitive kind).report value =
      if kind.accepts value then [] else [(primitive kind).rejection value] :=
  (primitive_adds kind value).report_eq

/-- A closed set reports the value that it lacks. -/
theorem report_enumeration (choices : List Choice) (value : Value) :
    (enumeration choices).report value =
      if Choice.contains choices value then [] else [(enumeration choices).rejection value] :=
  (enumeration_adds choices value).report_eq

/-- A union reports the value that all alternatives refuse. -/
theorem report_union (alternatives : List Descriptor) (value : Value) :
    (union alternatives).report value =
      if acceptsAny alternatives value then [] else [(union alternatives).rejection value] :=
  (union_adds alternatives value).report_eq

/-- A refinement reports as its base, and its constraints where the base accepts. -/
theorem report_refinement (base : Descriptor) (constraints : Constraints) (value : Value) :
    (refinement base constraints).report value = refinementReport base constraints value :=
  (refinement_adds base constraints value base.collectsReport).report_eq

/-- A structure reports field by field. -/
theorem report_struct (label : Option String) (fields : List (Field Descriptor))
    (value : Value) : (struct label fields).report value = structReport label fields value :=
  (struct_adds label fields value fun field _ => field.type.collectsReport).report_eq

/-- A list reports item by item. -/
theorem report_list (element : Descriptor) (value : Value) :
    (list element).report value = listReport element value :=
  (list_adds element value element.collectsReport).report_eq

/-- A tuple reports item by item. -/
theorem report_tuple (elements : List Descriptor) (value : Value) :
    (tuple elements).report value = tupleReport elements value :=
  (tuple_adds elements value fun element _ => element.collectsReport).report_eq

/-- A named type reports as its target. -/
theorem report_custom (name : String) (target : Descriptor) (value : Value) :
    (custom name target).report value = target.report value :=
  (custom_adds name target value target.collectsReport).report_eq

/-- A field reports nothing just if it holds. -/
theorem fieldReport_eq_nil_iff (members : List (String × Value)) (field : Field Descriptor)
    (part : ∀ value, field.type.report value = [] ↔ field.type.accepts value = true) :
    fieldReport members field = [] ↔ fieldHolds members field = true := by
  unfold fieldReport fieldHolds
  by_cases missed : (field.optional && (memberOrNull members field.key).isNull) = true
  · simp [missed]
  · simp [missed, part]

/-- Moving a report below an index keeps it empty. -/
theorem itemReport_eq_nil_iff (descriptor : Descriptor) (item : Value) (index : Nat) :
    itemReport descriptor item index = [] ↔ descriptor.report item = [] := by
  simp [itemReport]

/-- Something is produced for no item of a list, whatever its index. -/
theorem flatMap_zipIdx_eq_nil_iff {Item Result : Type} (items : List Item) (start : Nat)
    (produce : Item × Nat → List Result) (holds : Item → Prop)
    (each : ∀ item index, produce (item, index) = [] ↔ holds item) :
    (items.zipIdx start).flatMap produce = [] ↔ ∀ item ∈ items, holds item := by
  induction items generalizing start with
  | nil => simp
  | cons item rest ih => simp [List.zipIdx_cons, each, ih]

/-- Nothing is reported exactly for the values of a type. -/
theorem report_eq_nil_iff (descriptor : Descriptor) (value : Value) :
    descriptor.report value = [] ↔ descriptor.accepts value = true := by
  induction descriptor using Descriptor.induction generalizing value with
  | primitive kind => simp [report_primitive, accepts]
  | enumeration choices => simp [report_enumeration, accepts]
  | refinement base constraints part =>
      rw [report_refinement, refinementReport, accepts]
      by_cases ofBase : base.accepts value = true
      · simp [ofBase]
      · simp [ofBase, part]
  | struct label fields parts =>
      rw [report_struct, structReport, accepts]
      cases value.members? with
      | none => simp
      | some members =>
          dsimp only
          rw [List.flatMap_eq_nil_iff, acceptsFields_eq_all, List.all_eq_true]
          exact forall₂_congr fun field inside =>
            fieldReport_eq_nil_iff members field (parts field inside)
  | list element part =>
      rw [report_list, listReport, accepts]
      cases value.items? with
      | none => simp
      | some items =>
          dsimp only
          rw [flatMap_zipIdx_eq_nil_iff items 0 _ (fun item => element.accepts item = true),
            List.all_eq_true]
          intro item index
          rw [itemReport_eq_nil_iff, part]
  | tuple elements parts =>
      rw [report_tuple, tupleReport, accepts]
      cases value.items? with
      | none => simp
      | some items =>
          by_cases fits : items.length = elements.length
          · have pairs : ∀ pair ∈ elements.zip items,
                pair.1.report pair.2 = [] ↔ pair.1.accepts pair.2 = true := fun pair inside =>
              parts pair.1 (List.of_mem_zip inside).1 pair.2
            simp only [fits, if_true, beq_self_eq_true, Bool.true_and, acceptsItems_eq_all]
            rw [flatMap_zipIdx_eq_nil_iff _ 0 _ (fun pair => pair.1.report pair.2 = []),
              List.all_eq_true]
            · exact forall₂_congr pairs
            · intro pair index
              exact itemReport_eq_nil_iff pair.1 pair.2 index
          · simp [fits]
  | union alternatives => simp [report_union, accepts]
  | custom name target part => rw [report_custom, part, accepts]

/-- Validation succeeds exactly for the values of a type, and fails with at least one violation. -/
theorem validate_ok_iff_accepts (descriptor : Descriptor) (value : Value) :
    (descriptor.validate value = .ok () ↔ descriptor.accepts value = true) ∧
      (descriptor.accepts value = false ↔
        ∃ violation rest, descriptor.validate value = .error (violation :: rest)) := by
  have empty := report_eq_nil_iff descriptor value
  unfold validate
  cases reported : descriptor.report value with
  | nil => simp [empty.mp reported]
  | cons violation rest =>
      have refused : descriptor.accepts value = false := by
        simpa [reported] using empty.not
      simp [refused]

/-- A validation gives the report. -/
theorem given_validate (descriptor : Descriptor) (value : Value) :
    Violation.given (descriptor.validate value) = descriptor.report value := by
  rw [validate]
  split
  · next none => rw [none, Violation.given]
  · rfl

/-- A validation that fails gives the report. -/
theorem report_eq_of_validate {type : Descriptor} {value : Value} {found : List Violation}
    (failed : type.validate value = .error found) : type.report value = found := by
  rw [← given_validate, failed, Violation.given]

/--
Collecting at a place leaves what was found before as it is and goes on with the violations of the
validation in their order, each below that place. The text of the place comes before that of a path.
-/
theorem collect_eq_append (descriptor : Descriptor) (value : Value) (path : Pointer)
    (found : Array Violation) :
    (descriptor.collect value path found).toList =
        found.toList ++ (Violation.given (descriptor.validate value)).map (fun violation =>
          ⟨path.append violation.path, violation.expected, violation.actual⟩) ∧
      ∀ inner : Pointer, (path.append inner).text = path.text ++ inner.text := by
  constructor
  · rw [given_validate]
    exact collectsReport descriptor value path found
  · exact Pointer.text_append path

end Descriptor

end TypedJson
