import TypedJson.Proofs.Descriptor.Completeness

namespace TypedJson

open Json (Value Pointer)

namespace Descriptor

/-- The parts into which one segment leads, each with its position among them. -/
inductive Child : Descriptor → Nat → String → Descriptor → Prop
  | field {label : Option String} {fields : List (Field Descriptor)} {index : Nat}
      {field : Field Descriptor} (given : fields[index]? = some field) :
      Child (struct label fields) index field.key field.type
  | element (element : Descriptor) (index : Nat) :
      Child (list element) index (toString index) element
  | position {elements : List Descriptor} {index : Nat} {element : Descriptor}
      (given : elements[index]? = some element) :
      Child (tuple elements) index (toString index) element

/--
One place comes before another where their ways part: there it enters an earlier part of the type.
No place comes before those below it.
-/
inductive Precedes : Descriptor → List String → List String → Prop
  | base {base : Descriptor} {constraints : Constraints} {one other : List String}
      (inside : Precedes base one other) : Precedes (refinement base constraints) one other
  | target {name : String} {target : Descriptor} {one other : List String}
      (inside : Precedes target one other) : Precedes (custom name target) one other
  | within {type part : Descriptor} {index : Nat} {segment : String} {one other : List String}
      (child : type.Child index segment part) (inside : Precedes part one other) :
      Precedes type (segment :: one) (segment :: other)
  | across {type part another : Descriptor} {index later : Nat} {segment next : String}
      (child : type.Child index segment part) (childToo : type.Child later next another)
      (earlier : index < later) (one other : List String) :
      Precedes type (segment :: one) (next :: other)

/-- A type whose keys are distinct has one part under each segment. -/
theorem Child.unique {type part another : Descriptor} {index other : Nat} {segment next : String}
    (distinct : type.keysDistinct = true) (child : type.Child index segment part)
    (childToo : type.Child other next another) (same : segment = next) :
    index = other ∧ part = another := by
  have positions {first second : Nat} (written : toString first = toString second) :
      first = second := by
    have read := Pointer.position_toString first
    rw [written, Pointer.position_toString] at read
    exact (Option.some.inj read).symm
  cases child with
  | @field label fields index field given =>
      obtain @⟨_, _, _, field', given'⟩ := childToo
      rw [keysDistinct, Bool.and_eq_true, beq_iff_eq] at distinct
      have keys : (fields.map Field.key).Nodup :=
        nodup_of_length_eraseDups (by rw [distinct.1, List.length_map])
      have key : (fields.map Field.key)[index]? = some field.key := by rw [List.getElem?_map, given]; rfl
      have key' : (fields.map Field.key)[other]? = some field'.key := by
        rw [List.getElem?_map, given']; rfl
      have inRange := (List.getElem?_eq_some_iff.mp key).1
      obtain rfl : index = other :=
        (List.getElem?_inj inRange keys).mp (key.trans (by rw [key', same]))
      exact ⟨rfl, by rw [Option.some.inj (given.symm.trans given')]⟩
  | element =>
      cases childToo
      exact ⟨positions same, rfl⟩
  | position given =>
      cases childToo with
      | position given' =>
          obtain rfl := positions same
          exact ⟨rfl, Option.some.inj (given.symm.trans given')⟩

/-- The keys of a part are distinct if those of the type are. -/
theorem Child.keysDistinct {type part : Descriptor} {index : Nat} {segment : String}
    (child : type.Child index segment part) (distinct : type.keysDistinct = true) :
    part.keysDistinct = true := by
  cases child with
  | field given =>
      rw [Descriptor.keysDistinct, Bool.and_eq_true, keysDistinctFields_eq_all,
        List.all_eq_true] at distinct
      exact distinct.2 _ (List.mem_of_getElem? given)
  | element => rwa [Descriptor.keysDistinct] at distinct
  | position given =>
      rw [Descriptor.keysDistinct, keysDistinctAll_eq_all, List.all_eq_true] at distinct
      exact distinct _ (List.mem_of_getElem? given)

/-- Of two places at most one comes before the other. -/
theorem Precedes.asymm {type : Descriptor} {one other : List String}
    (distinct : type.keysDistinct = true) (precedes : type.Precedes one other) :
    ¬type.Precedes other one := by
  induction precedes with
  | base inside ih =>
      rw [Descriptor.keysDistinct] at distinct
      intro back
      cases back with
      | base inside' => exact ih distinct inside'
      | within child => cases child
      | across child => cases child
  | target inside ih =>
      rw [Descriptor.keysDistinct] at distinct
      intro back
      cases back with
      | target inside' => exact ih distinct inside'
      | within child => cases child
      | across child => cases child
  | within child inside ih =>
      intro back
      cases back with
      | base => cases child
      | target => cases child
      | within child' inside' =>
          obtain ⟨-, rfl⟩ := child.unique distinct child' rfl
          exact ih (child.keysDistinct distinct) inside'
      | across child' childToo earlier =>
          obtain ⟨rfl, -⟩ := child'.unique distinct childToo rfl
          exact Nat.lt_irrefl _ earlier
  | across child childToo earlier one other =>
      intro back
      generalize here : (_ :: one) = place at back
      cases back with
      | base => cases child
      | target => cases child
      | within child' inside' =>
          obtain ⟨rfl, -⟩ := List.cons.inj here
          obtain ⟨rfl, -⟩ := child.unique distinct childToo rfl
          exact Nat.lt_irrefl _ earlier
      | across child' childToo' earlier' =>
          obtain ⟨rfl, -⟩ := List.cons.inj here
          obtain ⟨rfl, -⟩ := child.unique distinct childToo' rfl
          obtain ⟨rfl, -⟩ := childToo.unique distinct child' rfl
          exact Nat.lt_asymm earlier earlier'

/-- A place does not come before itself. -/
theorem Precedes.ne {type : Descriptor} {one other : List String}
    (distinct : type.keysDistinct = true) (precedes : type.Precedes one other) : one ≠ other := by
  rintro rfl
  exact precedes.asymm distinct precedes

/-- Violations of a type, each at a place before those of all that follow. -/
def Ordered (type : Descriptor) (found : List Violation) : Prop :=
  found.Pairwise fun one other => type.Precedes one.path.segments other.path.segments

/-- A type that only tests reports in order. -/
theorem Ordered.test (type : Descriptor) (value : Value) (accepted : Bool) :
    type.Ordered (if accepted then [] else [type.rejection value]) := by
  cases accepted with
  | true => exact .nil
  | false => exact List.pairwise_singleton ..

/-- Parts that are visited in their order report in order, if each part does. -/
theorem Ordered.flatMap {type : Descriptor} {Item : Type} {items : List Item}
    {reports : Item → List Violation}
    (each : ∀ index item, items[index]? = some item → ∃ segment part inner,
      type.Child index segment part ∧ part.Ordered inner ∧
        reports item = inner.map (.below (.child .root segment))) :
    type.Ordered (items.flatMap reports) := by
  rw [Ordered, List.pairwise_flatMap]
  constructor
  · intro item inside
    obtain ⟨index, stands⟩ := List.mem_iff_getElem?.mp inside
    obtain ⟨segment, part, inner, child, ordered, same⟩ := each index item stands
    rw [same, List.pairwise_map]
    exact ordered.imp fun precedes => .within child precedes
  · rw [List.pairwise_iff_getElem]
    intro first second inRange inRangeToo earlier one reported other reportedToo
    obtain ⟨segment, part, inner, child, -, same⟩ := each first _ (List.getElem?_eq_getElem inRange)
    obtain ⟨next, part', inner', child', -, same'⟩ :=
      each second _ (List.getElem?_eq_getElem inRangeToo)
    rw [same] at reported
    rw [same'] at reportedToo
    obtain ⟨violation, -, rfl⟩ := List.mem_map.mp reported
    obtain ⟨violation', -, rfl⟩ := List.mem_map.mp reportedToo
    exact .across child child' earlier _ _

/-- A report goes through the type depth first. -/
theorem ordered_report (type : Descriptor) (value : Value) : type.Ordered (type.report value) := by
  induction type using Descriptor.induction generalizing value with
  | primitive kind =>
      rw [report_primitive]
      exact .test ..
  | enumeration choices =>
      rw [report_enumeration]
      exact .test ..
  | refinement base constraints part =>
      rw [report_refinement, refinementReport]
      split
      · exact (part value).imp .base
      · split
        · exact List.pairwise_singleton ..
        · exact .nil
  | struct label fields parts =>
      rw [report_struct, structReport]
      split
      · next members _ =>
          refine Ordered.flatMap fun index field given => ?_
          have ordered := parts field (List.mem_of_getElem? given) (memberOrNull members field.key)
          rw [fieldReport]
          split
          · exact ⟨field.key, field.type, [], .field given, .nil, rfl⟩
          · exact ⟨field.key, field.type, _, .field given, ordered, rfl⟩
      · exact List.pairwise_singleton ..
  | list element part =>
      rw [report_list, listReport]
      split
      · refine Ordered.flatMap fun index item stands => ?_
        rw [List.getElem?_zipIdx, Nat.zero_add, Option.map_eq_some_iff] at stands
        obtain ⟨inner, -, rfl⟩ := stands
        exact ⟨toString index, element, _, .element element index, part inner, rfl⟩
      · exact List.pairwise_singleton ..
  | tuple elements parts =>
      rw [report_tuple, tupleReport]
      split
      · split
        · refine Ordered.flatMap fun index pair stands => ?_
          rw [List.getElem?_zipIdx, Nat.zero_add, Option.map_eq_some_iff] at stands
          obtain ⟨⟨element, inner⟩, stand, rfl⟩ := stands
          have given := (List.getElem?_zip_eq_some.mp stand).1
          exact ⟨toString index, element, _, .position given,
            parts element (List.mem_of_getElem? given) inner, rfl⟩
        · exact List.pairwise_singleton ..
      · exact List.pairwise_singleton ..
  | union alternatives parts =>
      rw [report_union]
      exact .test ..
  | custom name target part =>
      rw [report_custom]
      exact (part value).imp .target

/--
The violations of a value stand at different places, whose texts differ too, in the depth-first
order of the type. The keys of each structure are distinct, as fields under keys are.
-/
theorem validate_in_order (type : Descriptor) (distinct : type.keysDistinct = true) (value : Value)
    (found : List Violation) (failed : type.validate value = .error found) :
    (found.map fun violation => violation.path.text).Nodup ∧
      found.Pairwise fun one other => type.Precedes one.path.segments other.path.segments := by
  have ordered : type.Ordered found := report_eq_of_validate failed ▸ ordered_report type value
  refine ⟨?_, ordered⟩
  rw [List.Nodup, List.pairwise_map]
  refine ordered.imp fun precedes again => precedes.ne distinct ?_
  rw [Pointer.text_injective again]

/-- A member under a nameless key and one under a key with a slash, each with parts at fault. -/
theorem validate_in_order_twoMembers :
    let pair : Descriptor := tuple [primitive .string, custom "Count" (primitive .integer)]
    let type := struct none [⟨"", list pair, false⟩, ⟨"0/~1", primitive .boolean, false⟩]
    let value := Value.object
      [("0/~1", .null), ("", .array [.array [.null, .null], .null, .array [.string "x", .null]])]
    let found : List Violation :=
      [⟨⟨["", "0", "0"]⟩, "String", .null⟩, ⟨⟨["", "0", "1"]⟩, "Integer", .null⟩,
        ⟨⟨["", "1"]⟩, pair.name, .null⟩, ⟨⟨["", "2", "1"]⟩, "Integer", .null⟩,
        ⟨⟨["0/~1"]⟩, "Boolean", .null⟩]
    type.keysDistinct = true ∧ type.validate value = .error found ∧
      (found.map fun violation => violation.path.text).Nodup ∧
      found.Pairwise fun one other => type.Precedes one.path.segments other.path.segments := by
  intro pair type value found
  have distinct : type.keysDistinct = true := by decide +kernel
  have failed : type.validate value = .error found := rfl
  exact ⟨distinct, failed, validate_in_order type distinct value found failed⟩

end Descriptor

end TypedJson
