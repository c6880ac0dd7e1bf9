import TypedJson.Proofs.Descriptor.Place
import TypedJson.Proofs.Json.Edit

/-
This file repairs a value by its report: at each reported place it puts a value of the type that
governs the place. The repaired value belongs to the type exactly if the report overlooked nothing,
and what a report can overlook is a constraint on a value whose parts are at fault.
-/

namespace TypedJson

open Json (Value Pointer)
open Json.Value (Alike Place)

namespace Descriptor

/--
The type of a member or an item. Refinements and named types are passed, and no segment leads into
a union.
-/
def part? : Descriptor → String → Option Descriptor
  | refinement base _, segment => base.part? segment
  | custom _ target, segment => target.part? segment
  | struct _ fields, segment => (fields.find? fun field => field.key == segment).map Field.type
  | list element, segment => (Pointer.position? segment).map fun _ => element
  | tuple elements, segment => (Pointer.position? segment).bind (elements[·]?)
  | _, _ => none

/-- The whole type of what stands at a place, with its refinements and its name. -/
def governing? (type : Descriptor) (pointer : Pointer) : Option Descriptor :=
  pointer.segments.foldlM part? type

@[simp] theorem governing?_root (type : Descriptor) : type.governing? .root = some type := rfl

/-- A part governs what is below its segment. -/
theorem governing?_child (type : Descriptor) (segment : String) (pointer : Pointer) :
    type.governing? ((Pointer.root.child segment).append pointer) =
      (type.part? segment).bind fun part => part.governing? pointer := rfl

/-- The value with another one at each reported place. -/
def repair (fixed : Pointer → Value) (found : List Violation) (value : Value) : Value :=
  found.foldl (fun value violation => value.put violation.path (fixed violation.path)) value

/-- What is put at a reported place belongs to the type that governs the place. -/
def Fits (type : Descriptor) (found : List Violation) (fixed : Pointer → Value) : Prop :=
  ∀ violation ∈ found, ∀ part, type.governing? violation.path = some part →
    part.accepts (fixed violation.path) = true

/-- Constraints fail at a place, but of this place only what is below it is reported. -/
inductive Overlooks (type : Descriptor) (value : Value) : Prop
  | above (pointer : Pointer) {base : Descriptor} {constraints : Constraints} {part : Value}
      {violation : Violation} {segment : String} {segments : List String}
      (leads : type.Leads pointer.segments (refinement base constraints))
      (stands : pointer.resolve value = some part) (fail : constraints.hold part = false)
      (reported : violation ∈ type.report value)
      (deeper : violation.path.segments = pointer.segments ++ segment :: segments)

/-- The repairs of one part, by the places inside of it. -/
def fixedBelow (segment : String) (fixed : Pointer → Value) (pointer : Pointer) : Value :=
  fixed ((Pointer.root.child segment).append pointer)

/-- Violations are repaired one after the other. -/
theorem repair_append (fixed : Pointer → Value) (first second : List Violation) (value : Value) :
    repair fixed (first ++ second) value = repair fixed second (repair fixed first value) := by
  simp [repair]

/-- The repairs of one part together are one change of the part. -/
theorem repair_below (fixed : Pointer → Value) (segment : String) (found : List Violation)
    (value : Value) :
    repair fixed (found.map (.below (.child .root segment))) value =
      if found.isEmpty then value
      else value.changeAt segment (repair (fixedBelow segment fixed) found) := by
  induction found generalizing value with
  | nil => rfl
  | cons violation rest ih =>
      have first : repair fixed ((violation :: rest).map (.below (.child .root segment))) value =
          repair fixed (rest.map (.below (.child .root segment)))
            (value.changeAt segment fun part =>
              part.put violation.path (fixedBelow segment fixed violation.path)) := rfl
      rw [first, ih]
      cases rest with
      | nil => rfl
      | cons next others =>
          simp only [List.isEmpty_cons, Bool.false_eq_true, if_false]
          rw [Value.changeAt_changeAt]
          rfl

/-- A repair below a segment keeps the frame of the value. -/
theorem alike_repair_below (fixed : Pointer → Value) (segment : String) (found : List Violation)
    (value : Value) :
    Alike value (repair fixed (found.map (.below (.child .root segment))) value) := by
  rw [repair_below]
  split
  · exact .same value
  · exact Value.alike_changeAt value segment _

/-- At the segment stands the repaired part. -/
theorem read_repair_below {value : Value} {segment : String} (place : Place value segment)
    (fixed : Pointer → Value) (found : List Violation) :
    (repair fixed (found.map (.below (.child .root segment))) value).read segment =
      repair (fixedBelow segment fixed) found (value.read segment) := by
  rw [repair_below]
  cases found with
  | nil => rfl
  | cons violation rest => exact Value.read_changeAt place _

/-- Elsewhere stands what stood there. -/
theorem read_repair_below_of_ne {value : Value} {segment other : String}
    (place : Place value segment) (otherPlace : Place value other) (different : other ≠ segment)
    (fixed : Pointer → Value) (found : List Violation) :
    (repair fixed (found.map (.below (.child .root segment))) value).read other =
      value.read other := by
  rw [repair_below]
  split
  · rfl
  · exact Value.read_changeAt_of_ne place otherPlace different _

/-- A part of a composite value: its segment, its type, and what stands there. -/
structure Part where
  segment : String
  type : Descriptor
  value : Value

def Part.report (part : Part) : List Violation :=
  (part.type.report part.value).map (.below (.child .root part.segment))

/-- A value whose parts were repaired one by one. -/
structure RepairedParts (fixed : Pointer → Value) (parts : List Part) (value after : Value) :
    Prop where
  alike : Alike value after
  inside : ∀ part ∈ parts, after.read part.segment =
    repair (fixedBelow part.segment fixed) (part.type.report part.value) (value.read part.segment)
  outside : ∀ segment, Place value segment → segment ∉ parts.map Part.segment →
    after.read segment = value.read segment

/-- A repair of several parts repairs each of them. -/
theorem repairedParts (fixed : Pointer → Value) {parts : List Part} {value : Value}
    (distinct : (parts.map Part.segment).Nodup)
    (places : ∀ part ∈ parts, Place value part.segment) :
    RepairedParts fixed parts value (repair fixed (parts.flatMap Part.report) value) := by
  induction parts generalizing value with
  | nil =>
      exact ⟨.same value, fun part inside => absurd inside List.not_mem_nil, fun _ _ _ => rfl⟩
  | cons part rest ih =>
      rw [List.map_cons, List.nodup_cons] at distinct
      rw [List.forall_mem_cons] at places
      have place := places.1
      let middle := repair fixed part.report value
      have alike : Alike value middle :=
        alike_repair_below fixed part.segment (part.type.report part.value) value
      have others : RepairedParts fixed rest middle
          (repair fixed (rest.flatMap Part.report) middle) :=
        ih distinct.2 fun other inside => alike.place (places.2 other inside)
      rw [List.flatMap_cons, repair_append]
      refine ⟨alike.trans others.alike, ?_, ?_⟩
      · rw [List.forall_mem_cons]
        constructor
        · rw [others.outside part.segment (alike.place place) distinct.1]
          exact read_repair_below place fixed _
        · intro other inside
          have different : other.segment ≠ part.segment := by
            intro same
            exact distinct.1 (same ▸ List.mem_map_of_mem inside)
          rw [others.inside other inside]
          congr 1
          exact read_repair_below_of_ne place (places.2 other inside) different fixed _
      · intro segment free absent
        rw [List.map_cons, List.mem_cons, not_or] at absent
        rw [others.outside segment (alike.place free) absent.2]
        exact read_repair_below_of_ne place free absent.1 fixed _

/-- A report is about the whole value alone or about places below it. -/
theorem report_whole_or_below (type : Descriptor) (value : Value) :
    (∃ violation, type.report value = [violation] ∧ violation.path = .root) ∨
      ∀ violation ∈ type.report value, ∃ segment segments,
        violation.path.segments = segment :: segments := by
  induction type using Descriptor.induction generalizing value with
  | primitive kind =>
      rw [report_primitive]
      split
      · simp
      · exact .inl ⟨_, rfl, rfl⟩
  | enumeration choices =>
      rw [report_enumeration]
      split
      · simp
      · exact .inl ⟨_, rfl, rfl⟩
  | refinement base constraints part =>
      rw [report_refinement, refinementReport]
      split
      · exact part value
      · split
        · exact .inl ⟨_, rfl, rfl⟩
        · simp
  | struct label fields parts =>
      rw [report_struct, structReport]
      split
      · right
        intro violation reported
        obtain ⟨field, -, ofField⟩ := List.mem_flatMap.mp reported
        unfold fieldReport at ofField
        split at ofField
        · simp at ofField
        · obtain ⟨inner, -, rfl⟩ := List.mem_map.mp ofField
          exact ⟨field.key, inner.path.segments, rfl⟩
      · exact .inl ⟨_, rfl, rfl⟩
  | list element part =>
      rw [report_list, listReport]
      split
      · right
        intro violation reported
        obtain ⟨item, -, ofItem⟩ := List.mem_flatMap.mp reported
        obtain ⟨inner, -, rfl⟩ := List.mem_map.mp ofItem
        exact ⟨toString item.2, inner.path.segments, rfl⟩
      · exact .inl ⟨_, rfl, rfl⟩
  | tuple elements parts =>
      rw [report_tuple, tupleReport]
      split
      · split
        · right
          intro violation reported
          obtain ⟨pair, -, ofItem⟩ := List.mem_flatMap.mp reported
          obtain ⟨inner, -, rfl⟩ := List.mem_map.mp ofItem
          exact ⟨toString pair.2, inner.path.segments, rfl⟩
        · exact .inl ⟨_, rfl, rfl⟩
      · exact .inl ⟨_, rfl, rfl⟩
  | union alternatives =>
      rw [report_union]
      split
      · simp
      · exact .inl ⟨_, rfl, rfl⟩
  | custom name target part =>
      rw [report_custom]
      exact part value

/-- Repairs below a value keep its frame. -/
theorem alike_repair {found : List Violation}
    (below : ∀ violation ∈ found, ∃ segment segments, violation.path.segments = segment :: segments)
    (fixed : Pointer → Value) (value : Value) : Alike value (repair fixed found value) := by
  induction found generalizing value with
  | nil => exact .same value
  | cons violation rest ih =>
      rw [List.forall_mem_cons] at below
      obtain ⟨⟨segment, segments, path⟩, others⟩ := below
      have first : Alike value (value.put violation.path (fixed violation.path)) := by
        rw [Value.put, path]
        exact Value.alike_changeAt value segment _
      exact first.trans (ih others _)

/-- Constraints see no more of an array than its length and of an object than that it is one. -/
theorem holds_of_alike {first second : Value} (alike : Alike first second)
    (constraint : Constraint) : constraint.holds first = constraint.holds second := by
  cases alike with
  | same => rfl
  | array length => cases constraint <;> simp [Constraint.holds, Constraint.numberPasses,
      Value.string?, Value.number?, Value.items?, length]
  | object => cases constraint <;> rfl

/-- Constraints hold alike of values of one frame. -/
theorem hold_of_alike {first second : Value} (alike : Alike first second)
    (constraints : Constraints) : constraints.hold first = constraints.hold second := by
  unfold Constraints.hold
  congr 1
  funext constraint
  exact holds_of_alike alike constraint

/-- A repair by the report of a value leads into the type exactly if nothing is overlooked. -/
def Reveals (type : Descriptor) (value : Value) : Prop :=
  ∀ fixed, type.Fits (type.report value) fixed →
    (type.accepts (repair fixed (type.report value) value) = true ↔ ¬type.Overlooks value)

/-- Where nothing is reported, nothing is repaired and nothing overlooked. -/
theorem Reveals.of_nil {type : Descriptor} {value : Value} (nothing : type.report value = []) :
    type.Reveals value := by
  intro fixed _
  have accepted := (report_eq_nil_iff type value).mp nothing
  rw [nothing, show repair fixed [] value = value from rfl]
  simp only [accepted, true_iff]
  intro overlooks
  obtain ⟨_, _, _, _, reported, _⟩ := overlooks
  simp [nothing] at reported

/-- What stands for the whole value belongs to the whole type. -/
theorem Fits.whole {type : Descriptor} {violation : Violation} {fixed : Pointer → Value}
    (atRoot : violation.path = .root) (fits : type.Fits [violation] fixed) (value : Value) :
    type.accepts (repair fixed [violation] value) = true := by
  have fit := fits violation (by simp) type (by rw [atRoot, governing?_root])
  rw [atRoot] at fit
  rw [repair, List.foldl_cons, List.foldl_nil, atRoot, Value.put_root]
  exact fit

/-- A value that is reported as a whole is replaced as a whole. -/
theorem Reveals.of_whole {type : Descriptor} {value : Value} {violation : Violation}
    (only : type.report value = [violation]) (atRoot : violation.path = .root) :
    type.Reveals value := by
  intro fixed fits
  rw [only] at fits ⊢
  simp only [fits.whole atRoot value, true_iff]
  intro overlooks
  obtain ⟨_, _, _, _, reported, deeper⟩ := overlooks
  rw [only, List.mem_singleton] at reported
  subst reported
  simp [atRoot, Pointer.root] at deeper

/--
A value is taken apart for its type: what is reported of it is what is reported of the parts, and a
value of the same frame belongs to the type if its parts belong to theirs.
-/
structure Composed (type : Descriptor) (value : Value) (parts : List Part) : Prop where
  distinct : (parts.map Part.segment).Nodup
  places : ∀ part ∈ parts, Place value part.segment
  reads : ∀ part ∈ parts, value.read part.segment = part.value
  reports : type.report value = parts.flatMap Part.report
  unrefined : ∀ base constraints, ¬type.Leads [] (refinement base constraints)
  leads : ∀ part ∈ parts, ∀ segments target,
    type.Leads (part.segment :: segments) target ↔ part.type.Leads segments target
  governs : ∀ part ∈ parts, type.part? part.segment = some part.type
  accepts : ∀ after, Alike value after →
    (∀ segment, Place value segment → segment ∉ parts.map Part.segment →
      after.read segment = value.read segment) →
    (∀ part ∈ parts, after.read part.segment = .null →
      part.value = .null ∨ part.type.accepts .null = true) →
    (type.accepts after = true ↔
      ∀ part ∈ parts, part.type.accepts (after.read part.segment) = true)

namespace Composed

variable {type : Descriptor} {value : Value} {parts : List Part}

/-- New values for all places fit the parts at their own places. -/
theorem fits (composed : Composed type value parts) {fixed : Pointer → Value}
    (fits : type.Fits (type.report value) fixed) {part : Part} (inside : part ∈ parts) :
    part.type.Fits (part.type.report part.value) (fixedBelow part.segment fixed) := by
  intro violation reported governing governs
  apply fits (violation.below (.child .root part.segment))
  · rw [composed.reports]
    exact List.mem_flatMap.mpr ⟨part, inside, List.mem_map_of_mem reported⟩
  · change type.governing? ((Pointer.root.child part.segment).append violation.path) = _
    rw [governing?_child, composed.governs part inside, Option.bind_some]
    exact governs

/-- Something is overlooked in a composite value exactly if it is overlooked in a part. -/
theorem overlooks_iff (composed : Composed type value parts) :
    type.Overlooks value ↔ ∃ part ∈ parts, part.type.Overlooks part.value := by
  constructor
  · intro overlooks
    obtain @⟨⟨segments⟩, base, constraints, found, violation, segment, more, leads, stands, fail,
      reported, deeper⟩ := overlooks
    cases segments with
    | nil => exact absurd leads (composed.unrefined base constraints)
    | cons first rest =>
        rw [composed.reports] at reported
        obtain ⟨part, inside, ofPart⟩ := List.mem_flatMap.mp reported
        obtain ⟨inner, innerReported, rfl⟩ := List.mem_map.mp ofPart
        change part.segment :: inner.path.segments = first :: (rest ++ segment :: more) at deeper
        obtain ⟨rfl, innerDeeper⟩ := List.cons.inj deeper
        change ((Pointer.root.child part.segment).append ⟨rest⟩).resolve value = _ at stands
        rw [resolve_below] at stands
        obtain ⟨there, located, resolved⟩ := Option.bind_eq_some_iff.mp stands
        have same : part.value = there := by
          rw [← composed.reads part inside, Value.read, located, Option.getD_some]
        rw [← same] at resolved
        exact ⟨part, inside, .above ⟨rest⟩ ((composed.leads part inside _ _).mp leads) resolved fail
          innerReported innerDeeper⟩
  · intro inParts
    obtain ⟨part, inside, overlooks⟩ := inParts
    obtain @⟨pointer, base, constraints, found, violation, segment, more, leads, stands, fail,
      reported, deeper⟩ := overlooks
    have located : Pointer.locate value part.segment = some part.value := by
      have read := composed.reads part inside
      rw [Value.read] at read
      cases found : Pointer.locate value part.segment with
      | some there => rw [← read, found, Option.getD_some]
      | none =>
          -- a part that is missing counts as null, and no violation lies inside of null
          rw [found, Option.getD_none] at read
          rw [← read] at reported
          have atRoot := (explains_report part.type .null violation reported).of_null.1
          simp [atRoot, Pointer.root] at deeper
    have belowReported : violation.below (.child .root part.segment) ∈ type.report value := by
      rw [composed.reports]
      exact List.mem_flatMap.mpr ⟨part, inside, List.mem_map_of_mem reported⟩
    refine .above ((Pointer.root.child part.segment).append pointer)
      ((composed.leads part inside _ _).mpr leads) ?_ fail belowReported
      (congrArg (part.segment :: ·) deeper)
    rw [resolve_below, located, Option.bind_some]
    exact stands

/-- A composed value is repaired where its parts are. -/
theorem reveals (composed : Composed type value parts)
    (each : ∀ part ∈ parts, part.type.Reveals part.value) : type.Reveals value := by
  intro fixed fits
  have repaired := repairedParts fixed composed.distinct composed.places
  rw [← composed.reports] at repaired
  have inside : ∀ part ∈ parts, (repair fixed (type.report value) value).read part.segment =
      repair (fixedBelow part.segment fixed) (part.type.report part.value) part.value := by
    intro part within
    rw [repaired.inside part within, composed.reads part within]
  have nulls : ∀ part ∈ parts, (repair fixed (type.report value) value).read part.segment = .null →
      part.value = .null ∨ part.type.accepts .null = true := by
    intro part within null
    rw [inside part within] at null
    have partFits := composed.fits fits within
    rcases part.type.report_whole_or_below part.value with ⟨violation, only, atRoot⟩ | below
    · right
      rw [only] at null partFits
      rw [← null]
      exact partFits.whole atRoot part.value
    · left
      have alike := alike_repair below (fixedBelow part.segment fixed) part.value
      rw [null] at alike
      exact alike.eq_null
  rw [composed.accepts _ repaired.alike repaired.outside nulls, composed.overlooks_iff]
  push Not
  apply forall₂_congr
  intro part within
  rw [inside part within]
  exact each part within _ (composed.fits fits within)

end Composed

end Descriptor

end TypedJson
