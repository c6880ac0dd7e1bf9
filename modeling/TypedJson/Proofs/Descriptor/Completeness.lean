import TypedJson.Proofs.Descriptor.Repair

namespace TypedJson

open Json (Value Pointer)
open Json.Value (Alike Place)

namespace Descriptor

/-- There is one null. -/
theorem isNull_iff (value : Value) : value.isNull = true ↔ value = .null := by
  cases value <;> simp [Value.isNull]

/-- Into a structure leads the key of a field. -/
theorem leads_struct_iff {label : Option String} {fields : List (Field Descriptor)} {key : String}
    {segments : List String} {target : Descriptor} :
    (struct label fields).Leads (key :: segments) target ↔
      ∃ field ∈ fields, field.key = key ∧ field.type.Leads segments target := by
  constructor
  · intro leads
    cases leads with
    | field inside path => exact ⟨_, inside, rfl, path⟩
  · intro found
    obtain ⟨field, inside, rfl, path⟩ := found
    exact .field inside path

/-- Into a list leads any index. -/
theorem leads_list_iff {element : Descriptor} {index : Nat} {segments : List String}
    {target : Descriptor} :
    (list element).Leads (toString index :: segments) target ↔ element.Leads segments target := by
  constructor
  · intro leads
    generalize toString index = segment at leads
    cases leads with
    | element _ path => exact path
  · exact .element index

/-- Into a tuple leads the index of an element. -/
theorem leads_tuple_iff {elements : List Descriptor} {index : Nat} {element : Descriptor}
    (stands : elements[index]? = some element) {segments : List String} {target : Descriptor} :
    (tuple elements).Leads (toString index :: segments) target ↔
      element.Leads segments target := by
  constructor
  · intro leads
    generalize written : toString index = segment at leads
    cases leads with
    | @position _ other _ _ place inside path =>
        have same : some index = some place := by
          rw [← Pointer.position_toString index, ← Pointer.position_toString place, written]
        obtain rfl := Option.some.inj same
        obtain rfl := Option.some.inj (stands.symm.trans inside)
        exact path
  · exact .position stands

/-- The fields whose members are looked at: not those that are optional and null. -/
def checkedFields (fields : List (Field Descriptor)) (members : List (String × Value)) :
    List (Field Descriptor) :=
  fields.filter fun field => !(field.optional && (memberOrNull members field.key).isNull)

def fieldPart (members : List (String × Value)) (field : Field Descriptor) : Part :=
  ⟨field.key, field.type, memberOrNull members field.key⟩

/-- The report on fields is that on the parts that are checked. -/
theorem flatMap_fieldReport (fields : List (Field Descriptor)) (members : List (String × Value)) :
    fields.flatMap (fieldReport members) =
      ((checkedFields fields members).map (fieldPart members)).flatMap Part.report := by
  induction fields with
  | nil => rfl
  | cons field rest ih =>
      have first : checkedFields (field :: rest) members =
          if !(field.optional && (memberOrNull members field.key).isNull) then
            field :: checkedFields rest members
          else checkedFields rest members := List.filter_cons ..
      rw [List.flatMap_cons, ih, first, fieldReport]
      cases field.optional && (memberOrNull members field.key).isNull with
      | true => rfl
      | false => rfl

/-- A field is checked unless it is optional and its member is null or missing. -/
theorem mem_checkedFields {fields : List (Field Descriptor)} {members : List (String × Value)}
    {field : Field Descriptor} :
    field ∈ checkedFields fields members ↔
      field ∈ fields ∧ (field.optional && (memberOrNull members field.key).isNull) = false := by
  rw [checkedFields, List.mem_filter, Bool.not_eq_true']

/--
An object belongs to a structure if the fields that were looked at are as they should be: the others
are as before, and a null was there before unless it is allowed.
-/
theorem accepts_object_iff {fields : List (Field Descriptor)}
    (distinct : (fields.map Field.key).Nodup) {members others : List (String × Value)}
    (outside : ∀ key, key ∉ (checkedFields fields members).map Field.key →
      memberOrNull others key = memberOrNull members key)
    (nulls : ∀ field ∈ checkedFields fields members, memberOrNull others field.key = .null →
      memberOrNull members field.key = .null ∨ field.type.accepts .null = true)
    (label : Option String) :
    (struct label fields).accepts (.object others) = true ↔
      ∀ field ∈ checkedFields fields members,
        field.type.accepts (memberOrNull others field.key) = true := by
  rw [accepts, Value.members?]
  simp only [acceptsFields_eq_all, List.all_eq_true]
  constructor
  · intro held field checked
    obtain ⟨within, given⟩ := mem_checkedFields.mp checked
    rcases Bool.or_eq_true_iff.mp (held field within) with missed | accepted
    · obtain ⟨optional, null⟩ := Bool.and_eq_true_iff.mp missed
      rw [isNull_iff] at null
      rcases nulls field checked null with was | accepted
      · simp [optional, was, Value.isNull] at given
      · rw [null]
        exact accepted
    · exact accepted
  · intro accepted field within
    rw [fieldHolds]
    by_cases checked : field ∈ checkedFields fields members
    · rw [accepted field checked, Bool.or_true]
    · have absent : field.key ∉ (checkedFields fields members).map Field.key := by
        intro present
        obtain ⟨other, otherChecked, same⟩ := List.mem_map.mp present
        have otherWithin := (mem_checkedFields.mp otherChecked).1
        rw [List.inj_on_of_nodup_map distinct otherWithin within same] at otherChecked
        exact checked otherChecked
      have missed : (field.optional && (memberOrNull members field.key).isNull) = true := by
        rw [mem_checkedFields, not_and, Bool.not_eq_false] at checked
        exact checked within
      rw [outside field.key absent, missed, Bool.true_or]

/-- An object is composed of its checked fields. -/
theorem composed_struct (label : Option String) {fields : List (Field Descriptor)}
    (distinct : (fields.map Field.key).Nodup) (members : List (String × Value)) :
    Composed (struct label fields) (.object members)
      ((checkedFields fields members).map (fieldPart members)) := by
  have segments : ((checkedFields fields members).map (fieldPart members)).map Part.segment =
      (checkedFields fields members).map Field.key := List.map_map ..
  constructor
  case distinct =>
    rw [segments]
    exact distinct.sublist (List.filter_sublist.map Field.key)
  case places =>
    intro part _
    exact .member members part.segment
  case reads =>
    rw [List.forall_mem_map]
    intro field _
    rfl
  case reports =>
    rw [report_struct]
    exact flatMap_fieldReport fields members
  case unrefined =>
    intro base constraints leads
    cases leads
  case leads =>
    rw [List.forall_mem_map]
    intro field checked segments target
    have within := (mem_checkedFields.mp checked).1
    change (struct label fields).Leads (field.key :: segments) target ↔ _
    rw [leads_struct_iff]
    constructor
    · intro found
      obtain ⟨other, present, same, path⟩ := found
      rw [List.inj_on_of_nodup_map distinct present within same] at path
      exact path
    · intro path
      exact ⟨field, within, rfl, path⟩
  case governs =>
    rw [List.forall_mem_map]
    intro field checked
    change ((fields.find? fun other => other.key == field.key).map Field.type) = _
    rw [find?_key Field.key distinct (mem_checkedFields.mp checked).1]
    rfl
  case accepts =>
    intro after alike outside nulls
    obtain ⟨others, rfl⟩ : ∃ others, after = .object others := by
      cases alike with
      | same => exact ⟨members, rfl⟩
      | object _ others => exact ⟨others, rfl⟩
    rw [segments] at outside
    rw [List.forall_mem_map] at nulls ⊢
    exact accepts_object_iff distinct (fun key => outside key (.member members key)) nulls label

/-- The items of an array as parts, each with the type for its position. -/
def itemParts (pairs : List (Descriptor × Value)) : List Part :=
  pairs.zipIdx.map fun pair => ⟨toString pair.2, pair.1.1, pair.1.2⟩

/-- The part of an item is named by its index. -/
theorem mem_itemParts {pairs : List (Descriptor × Value)} {part : Part}
    (inside : part ∈ itemParts pairs) :
    ∃ index : Nat, part.segment = toString index ∧
      pairs[index]? = some (part.type, part.value) := by
  obtain ⟨⟨⟨element, item⟩, index⟩, within, rfl⟩ := List.mem_map.mp inside
  exact ⟨index, rfl, List.mem_zipIdx_iff_getElem?.mp within⟩

/-- No two items have one index. -/
theorem nodup_itemParts (pairs : List (Descriptor × Value)) :
    ((itemParts pairs).map Part.segment).Nodup := by
  have segments : (itemParts pairs).map Part.segment =
      (pairs.zipIdx.map Prod.snd).map (toString (α := Nat)) := by
    rw [itemParts, List.map_map, List.map_map]
    rfl
  rw [segments, List.zipIdx_map_snd]
  apply List.Nodup.map _ List.nodup_range'
  intro first second same
  have positions : some first = some second := by
    rw [← Pointer.position_toString first, ← Pointer.position_toString second, same]
  exact Option.some.inj positions

/-- What reports item by item is composed of its items. -/
theorem composed_items {type : Descriptor} {pairs : List (Descriptor × Value)}
    (reports : type.report (.array (pairs.map Prod.snd)) =
      pairs.zipIdx.flatMap fun pair => itemReport pair.1.1 pair.1.2 pair.2)
    (unrefined : ∀ base constraints, ¬type.Leads [] (refinement base constraints))
    (leads : ∀ (index : Nat) pair, pairs[index]? = some pair → ∀ segments target,
      type.Leads (toString index :: segments) target ↔ pair.1.Leads segments target)
    (governs : ∀ (index : Nat) pair, pairs[index]? = some pair →
      type.part? (toString index) = some pair.1)
    (accepts : ∀ others : List Value, others.length = pairs.length →
      (type.accepts (.array others) = true ↔ ∀ (index : Nat) pair, pairs[index]? = some pair →
        ∀ item, others[index]? = some item → pair.1.accepts item = true)) :
    Composed type (.array (pairs.map Prod.snd)) (itemParts pairs) := by
  have stand {part : Part} (inside : part ∈ itemParts pairs) :
      ∃ index, ∃ within : index < (pairs.map Prod.snd).length, part.segment = toString index ∧
        pairs[index]? = some (part.type, part.value) ∧
        (pairs.map Prod.snd)[index] = part.value := by
    obtain ⟨index, written, stands⟩ := mem_itemParts inside
    obtain ⟨within, same⟩ := List.getElem?_eq_some_iff.mp stands
    exact ⟨index, by simpa using within, written, stands, by simp [same]⟩
  constructor
  case distinct => exact nodup_itemParts pairs
  case places =>
    intro part inside
    obtain ⟨index, within, written, -, -⟩ := stand inside
    rw [written]
    exact .item within
  case reads =>
    intro part inside
    obtain ⟨index, within, written, -, same⟩ := stand inside
    rw [written, Value.read_item within, same]
  case reports =>
    rw [reports, itemParts, List.flatMap_map]
    rfl
  case unrefined => exact unrefined
  case leads =>
    intro part inside segments target
    obtain ⟨index, -, written, stands, -⟩ := stand inside
    rw [written]
    exact leads index _ stands segments target
  case governs =>
    intro part inside
    obtain ⟨index, -, written, stands, -⟩ := stand inside
    rw [written]
    exact governs index _ stands
  case accepts =>
    intro after alike _ _
    obtain ⟨others, rfl, length⟩ :
        ∃ others, after = .array others ∧ others.length = pairs.length := by
      cases alike with
      | same => exact ⟨_, rfl, List.length_map ..⟩
      | array length => exact ⟨_, rfl, by simpa using length.symm⟩
    rw [accepts others length]
    constructor
    · intro held part inside
      obtain ⟨index, within, written, stands, -⟩ := stand inside
      have inOthers : index < others.length := by
        rw [length]
        simpa using within
      rw [written, Value.read_item inOthers]
      exact held index _ stands _ (List.getElem?_eq_getElem inOthers)
    · intro accepted index pair stands item found
      have inside : (⟨toString index, pair.1, pair.2⟩ : Part) ∈ itemParts pairs :=
        List.mem_map.mpr ⟨(pair, index), List.mem_zipIdx_iff_getElem?.mpr stands, rfl⟩
      obtain ⟨inOthers, same⟩ := List.getElem?_eq_some_iff.mp found
      have accepts := accepted _ inside
      rw [Value.read_item inOthers, same] at accepts
      exact accepts

/-- A list is composed of its items. -/
theorem composed_list (element : Descriptor) (items : List Value) :
    Composed (list element) (.array items) (itemParts (items.map fun item => (element, item))) := by
  have second : (items.map fun item => (element, item)).map Prod.snd = items := by
    simp [Function.comp_def]
  have first {index : Nat} {pair : Descriptor × Value}
      (stands : (items.map fun item => (element, item))[index]? = some pair) :
      pair.1 = element := by
    rw [List.getElem?_map, Option.map_eq_some_iff] at stands
    obtain ⟨item, -, rfl⟩ := stands
    rfl
  conv => arg 2; rw [← second]
  apply composed_items
  · rw [second, report_list, listReport, List.zipIdx_map, List.flatMap_map]
    rfl
  · intro base constraints leads
    cases leads
  · intro index pair stands segments target
    rw [first stands]
    exact leads_list_iff
  · intro index pair stands
    rw [first stands, part?, Pointer.position_toString]
    rfl
  · intro others length
    rw [List.length_map] at length
    rw [accepts, Value.items?]
    simp only [List.all_eq_true]
    constructor
    · intro held index pair stands item found
      rw [first stands]
      exact held item (List.mem_of_getElem? found)
    · intro held item inside
      obtain ⟨index, found⟩ := List.mem_iff_getElem?.mp inside
      obtain ⟨within, -⟩ := List.getElem?_eq_some_iff.mp found
      obtain ⟨old, stands⟩ : ∃ old, items[index]? = some old :=
        ⟨_, List.getElem?_eq_getElem (length ▸ within)⟩
      exact held index (element, old) (by rw [List.getElem?_map, stands]; rfl) item found

/-- A tuple of the right length is composed of its items. -/
theorem composed_tuple {elements : List Descriptor} {items : List Value}
    (fits : items.length = elements.length) :
    Composed (tuple elements) (.array items) (itemParts (elements.zip items)) := by
  have second : (elements.zip items).map Prod.snd = items :=
    List.map_snd_zip (Nat.le_of_eq fits)
  have first {index : Nat} {pair : Descriptor × Value}
      (stands : (elements.zip items)[index]? = some pair) : elements[index]? = some pair.1 :=
    (List.getElem?_zip_eq_some.mp stands).1
  conv => arg 2; rw [← second]
  apply composed_items
  · rw [second, report_tuple, tupleReport]
    simp [Value.items?, fits]
  · intro base constraints leads
    cases leads
  · intro index pair stands segments target
    exact leads_tuple_iff (first stands)
  · intro index pair stands
    rw [part?, Pointer.position_toString]
    exact first stands
  · intro others length
    have same : others.length = elements.length := by
      rw [length, List.length_zip, fits, Nat.min_self]
    rw [accepts, Value.items?]
    simp only [acceptsItems_eq_all, same, beq_self_eq_true, Bool.true_and, List.all_eq_true]
    constructor
    · intro held index pair stands item found
      have ofElements := first stands
      have together : (elements.zip others)[index]? = some (pair.1, item) :=
        List.getElem?_zip_eq_some.mpr ⟨ofElements, found⟩
      exact held (pair.1, item) (List.mem_of_getElem? together)
    · intro held pair inside
      obtain ⟨index, stands⟩ := List.mem_iff_getElem?.mp inside
      obtain ⟨ofElements, ofOthers⟩ := List.getElem?_zip_eq_some.mp stands
      obtain ⟨within, -⟩ := List.getElem?_eq_some_iff.mp ofElements
      obtain ⟨old, ofItems⟩ : ∃ old, items[index]? = some old :=
        ⟨_, List.getElem?_eq_getElem (fits ▸ within)⟩
      have together : (elements.zip items)[index]? = some (pair.1, old) :=
        List.getElem?_zip_eq_some.mpr ⟨ofElements, ofItems⟩
      exact held index _ together pair.2 ofOthers

/-- The constraints of a refined type count only for what its base accepts. -/
theorem report_refinement_of_refused {base : Descriptor} {value : Value}
    (refused : base.accepts value = false) (constraints : Constraints) :
    (refinement base constraints).report value = base.report value := by
  rw [report_refinement, refinementReport]
  simp [refused]

/-- A refined type also overlooks its own constraints, if they fail while only parts are reported. -/
theorem overlooks_refinement_iff {base : Descriptor} {constraints : Constraints} {value : Value}
    (refused : base.accepts value = false)
    (below : ∀ violation ∈ base.report value, ∃ segment segments,
      violation.path.segments = segment :: segments) :
    (refinement base constraints).Overlooks value ↔
      base.Overlooks value ∨ constraints.hold value = false := by
  have same := report_refinement_of_refused refused constraints
  constructor
  · intro overlooks
    obtain @⟨⟨path⟩, other, others, part, violation, segment, segments, leads, stands, fail,
      reported, deeper⟩ := overlooks
    rw [same] at reported
    cases leads with
    | here =>
        obtain rfl := Option.some.inj stands
        exact .inr fail
    | base inner => exact .inl (.above _ inner stands fail reported deeper)
  · intro either
    rcases either with overlooks | fail
    · obtain ⟨pointer, leads, stands, fail, reported, deeper⟩ := overlooks
      exact .above pointer (.base leads) stands fail (same ▸ reported) deeper
    · obtain ⟨violation, rest, given⟩ : ∃ violation rest, base.report value = violation :: rest := by
        apply List.exists_cons_of_ne_nil
        intro nothing
        rw [report_eq_nil_iff, refused] at nothing
        simp at nothing
      have reported : violation ∈ base.report value := by simp [given]
      obtain ⟨segment, segments, path⟩ := below violation reported
      exact .above .root (.here _) rfl fail (same ▸ reported) path

/-- A refinement is repaired as its base, if no constraint is overlooked. -/
theorem Reveals.refinement {base : Descriptor} {value : Value} (part : base.Reveals value)
    (constraints : Constraints) : (refinement base constraints).Reveals value := by
  by_cases ofBase : base.accepts value = true
  · by_cases held : constraints.hold value = true
    · apply Reveals.of_nil
      rw [report_eq_nil_iff, accepts, ofBase, held, Bool.and_true]
    · have only : (Descriptor.refinement base constraints).report value =
          [(Descriptor.refinement base constraints).rejection value] := by
        rw [report_refinement, refinementReport]
        simp [ofBase, held]
      exact .of_whole only rfl
  · have refused : base.accepts value = false := by simpa using ofBase
    have same := report_refinement_of_refused refused constraints
    rcases base.report_whole_or_below value with ⟨violation, only, atRoot⟩ | below
    · exact .of_whole (same.trans only) atRoot
    · intro fixed fits
      rw [same] at fits ⊢
      have baseFits : base.Fits (base.report value) fixed := by
        intro violation reported governing governs
        obtain ⟨segment, segments, path⟩ := below violation reported
        apply fits violation reported
        rw [governing?, path] at governs ⊢
        exact governs
      have alike := alike_repair below fixed value
      rw [accepts, Bool.and_eq_true, part fixed baseFits, ← hold_of_alike alike constraints,
        overlooks_refinement_iff refused below]
      simp

/-- A named type overlooks what its target overlooks. -/
theorem overlooks_custom_iff (name : String) (target : Descriptor) (value : Value) :
    (custom name target).Overlooks value ↔ target.Overlooks value := by
  constructor
  · intro overlooks
    obtain @⟨⟨path⟩, base, constraints, part, violation, segment, segments, leads, stands, fail,
      reported, deeper⟩ := overlooks
    rw [report_custom] at reported
    cases leads with
    | target inner => exact .above _ inner stands fail reported deeper
  · intro overlooks
    obtain ⟨pointer, leads, stands, fail, reported, deeper⟩ := overlooks
    rw [← report_custom name] at reported
    exact .above pointer (.target leads) stands fail reported deeper

/-- A named type is repaired as its target. -/
theorem Reveals.custom {target : Descriptor} {value : Value} (part : target.Reveals value)
    (name : String) : (custom name target).Reveals value := by
  intro fixed fits
  rw [report_custom] at fits ⊢
  have inner : target.Fits (target.report value) fixed := by
    intro violation reported governing governs
    obtain ⟨⟨segments⟩, expected, actual⟩ := violation
    cases segments with
    | nil =>
        obtain rfl := Option.some.inj governs
        have accepted := fits _ reported _ rfl
        rwa [accepts] at accepted
    | cons segment rest => exact fits _ reported governing governs
  rw [accepts, overlooks_custom_iff]
  exact part fixed inner

/-- Keys are distinct in all fields if they are in each. -/
theorem keysDistinctFields_eq_all (fields : List (Field Descriptor)) :
    keysDistinctFields fields = fields.all fun field => field.type.keysDistinct := by
  induction fields with
  | nil => rfl
  | cons field rest ih => rw [keysDistinctFields, ih, List.all_cons]

/-- Keys are distinct in all items if they are in each. -/
theorem keysDistinctAll_eq_all (items : List Descriptor) :
    keysDistinctAll items = items.all keysDistinct := by
  induction items with
  | nil => rfl
  | cons item rest ih => rw [keysDistinctAll, ih, List.all_cons]

/-- Each composite type visits all parts of a value, so only a refinement can overlook something. -/
theorem reveals {type : Descriptor} (distinct : type.keysDistinct = true) (value : Value) :
    type.Reveals value := by
  induction type using Descriptor.induction generalizing value with
  | primitive kind =>
      by_cases accepted : kind.accepts value = true
      · exact .of_nil (by simp [report_primitive, accepted])
      · exact .of_whole (by rw [report_primitive, if_neg accepted]) rfl
  | enumeration choices =>
      by_cases accepted : Choice.contains choices value = true
      · exact .of_nil (by simp [report_enumeration, accepted])
      · exact .of_whole (by rw [report_enumeration, if_neg accepted]) rfl
  | refinement base constraints part =>
      rw [keysDistinct] at distinct
      exact (part distinct value).refinement constraints
  | struct label fields parts =>
      rw [keysDistinct, Bool.and_eq_true, beq_iff_eq, keysDistinctFields_eq_all,
        List.all_eq_true] at distinct
      have keys : (fields.map Field.key).Nodup :=
        nodup_of_length_eraseDups (by rw [distinct.1, List.length_map])
      cases found : value.members? with
      | none => exact .of_whole (by rw [report_struct, structReport, found]) rfl
      | some members =>
          rw [members_eq_some found]
          apply (composed_struct label keys members).reveals
          intro part inside
          obtain ⟨field, checked, rfl⟩ := List.mem_map.mp inside
          have within := (List.mem_filter.mp checked).1
          exact parts field within (distinct.2 field within) _
  | list element part =>
      rw [keysDistinct] at distinct
      cases found : value.items? with
      | none => exact .of_whole (by rw [report_list, listReport, found]) rfl
      | some items =>
          rw [items_eq_some found]
          apply (composed_list element items).reveals
          intro itemPart inside
          obtain ⟨index, -, stands⟩ := mem_itemParts inside
          rw [List.getElem?_map, Option.map_eq_some_iff] at stands
          obtain ⟨item, -, same⟩ := stands
          rw [← (Prod.mk.inj same).1]
          exact part distinct _
  | tuple elements parts =>
      rw [keysDistinct, keysDistinctAll_eq_all, List.all_eq_true] at distinct
      cases found : value.items? with
      | none => exact .of_whole (by rw [report_tuple, tupleReport, found]) rfl
      | some items =>
          by_cases fits : items.length = elements.length
          · rw [items_eq_some found]
            apply (composed_tuple fits).reveals
            intro itemPart inside
            obtain ⟨index, -, stands⟩ := mem_itemParts inside
            have ofElements := (List.getElem?_zip_eq_some.mp stands).1
            have within : itemPart.type ∈ elements := List.mem_of_getElem? ofElements
            exact parts _ within (distinct _ within) _
          · exact .of_whole (by rw [report_tuple, tupleReport, found]; simp [fits]; rfl) rfl
  | union alternatives =>
      by_cases accepted : acceptsAny alternatives value = true
      · exact .of_nil (by rw [report_union, if_pos accepted])
      · exact .of_whole (by rw [report_union, if_neg accepted]) rfl
  | custom name target part =>
      rw [keysDistinct] at distinct
      exact (part distinct value).custom name

/--
Let each reported place get a value of the type that governs it. The repaired value belongs to the
type exactly if no constraints failed above a reported place.
-/
theorem accepts_repair_iff {type : Descriptor} (distinct : type.keysDistinct = true)
    {value : Value} {found : List Violation} (failed : type.validate value = .error found)
    {fixed : Pointer → Value} (fits : type.Fits found fixed) :
    type.accepts (repair fixed found value) = true ↔ ¬type.Overlooks value := by
  obtain rfl := report_eq_of_validate failed
  exact reveals distinct value fixed fits

/-- A wrong item in a list that is long enough, and beside the list a missing member. -/
theorem accepts_repaired_record :
    let type := struct none
      [⟨"counts", custom "Counts" (refinement (list (.primitive .integer)) ⟨[.minItems 2], by simp⟩),
          false⟩,
        ⟨"name", .primitive .string, false⟩]
    let value := Value.object [("counts", .array [.string "x", .number (.integer 2 (by decide))])]
    let found : List Violation :=
      [⟨⟨["counts", "0"]⟩, "Integer", .string "x"⟩, ⟨⟨["name"]⟩, "String", .null⟩]
    let fixed : Pointer → Value := fun pointer =>
      if pointer = ⟨["name"]⟩ then .string "y" else .number (.integer 1 (by decide))
    type.keysDistinct = true ∧ type.validate value = .error found ∧ type.Fits found fixed ∧
      type.accepts (repair fixed found value) = true ∧ ¬type.Overlooks value := by
  intro type value found fixed
  have failed : type.validate value = .error found := rfl
  have fits : type.Fits found fixed := by
    intro violation reported part governs
    rcases List.mem_cons.mp reported with rfl | reported
    · obtain rfl := Option.some.inj governs
      rfl
    · obtain rfl := List.mem_singleton.mp reported
      obtain rfl := Option.some.inj governs
      rfl
  have accepted : type.accepts (repair fixed found value) = true := rfl
  exact ⟨rfl, failed, fits, accepted, (accepts_repair_iff rfl failed fits).mp accepted⟩

/-- A list with a wrong item that is also too short: the report is silent about its length. -/
theorem repaired_short_list_refused :
    let type := refinement (list (.primitive .integer)) ⟨[.minItems 2], by simp⟩
    let value := Value.array [.string "x"]
    let found : List Violation := [⟨⟨["0"]⟩, "Integer", .string "x"⟩]
    let fixed : Pointer → Value := fun _ => .number (.integer 1 (by decide))
    type.validate value = .error found ∧
      (∀ violation ∈ found, ∃ part, type.governing? violation.path = some part ∧
        part.accepts (fixed violation.path) = true) ∧
      type.accepts (repair fixed found value) = false := by
  intro type value found fixed
  refine ⟨rfl, ?_, rfl⟩
  intro violation reported
  obtain rfl := List.mem_singleton.mp reported
  exact ⟨.primitive .integer, rfl, rfl⟩

end Descriptor

end TypedJson
