import TypedJson.Proofs.Descriptor.Report

namespace TypedJson

open Json (Value Pointer)

namespace Descriptor

/--
Where segments lead inside of a type. Refinements and named types are passed without a segment,
and no segment leads into a union.
-/
inductive Leads : Descriptor → List String → Descriptor → Prop
  | here (type : Descriptor) : Leads type [] type
  | base {base target : Descriptor} {constraints : Constraints} {segments : List String} :
      Leads base segments target → Leads (refinement base constraints) segments target
  | target {name : String} {type target : Descriptor} {segments : List String} :
      Leads type segments target → Leads (custom name type) segments target
  | field {label : Option String} {fields : List (Field Descriptor)} {field : Field Descriptor}
      {segments : List String} {target : Descriptor} (inside : field ∈ fields) :
      Leads field.type segments target →
        Leads (struct label fields) (field.key :: segments) target
  | element {element target : Descriptor} {segments : List String} (index : Nat) :
      Leads element segments target → Leads (list element) (toString index :: segments) target
  | position {elements : List Descriptor} {element target : Descriptor} {segments : List String}
      {index : Nat} (inside : elements[index]? = some element) :
      Leads element segments target → Leads (tuple elements) (toString index :: segments) target

/-- The pointer ends in a field of a structure that the object at its place does not have. -/
inductive MissedField (type : Descriptor) (value : Value) (pointer : Pointer) : Prop
  | missed {parent : Pointer} {key : String} {label : Option String}
      {fields : List (Field Descriptor)} {members : List (String × Value)}
      (ends : pointer = parent.child key) (leads : type.Leads parent.segments (struct label fields))
      (known : key ∈ fields.map Field.key)
      (stands : parent.resolve value = some (.object members))
      (missing : members.lookup key = none)

/-- The pointer leads to what was found, or to a missed field, for which null was found. -/
def Located (type : Descriptor) (value : Value) (pointer : Pointer) (found : Value) : Prop :=
  pointer.resolve value = some found ∨
    (pointer.resolve value = none ∧ found = .null ∧ type.MissedField value pointer)

/-- The pointer leads to a part of the type that has a name and does not accept a value. -/
def Refused (type : Descriptor) (pointer : Pointer) (name : String) (found : Value) : Prop :=
  ∃ part, type.Leads pointer.segments part ∧ part.accepts found = false ∧ part.name = name

/-- The violation speaks of what stands at its place, in the value and in the type. -/
structure Explains (type : Descriptor) (value : Value) (violation : Violation) : Prop where
  located : type.Located value violation.path violation.actual
  refused : type.Refused violation.path violation.expected violation.actual

/-- The refusal of a whole value is explained by the value. -/
theorem Explains.rejection {type : Descriptor} {value : Value}
    (refused : type.accepts value = false) : type.Explains value (type.rejection value) where
  located := .inl rfl
  refused := ⟨type, .here type, refused, rfl⟩

/-- What holds of a part passes to a type around it that takes no segment. -/
theorem Explains.lift {inner type : Descriptor} {value : Value} {violation : Violation}
    (leads : ∀ {segments target}, inner.Leads segments target → type.Leads segments target)
    (explains : inner.Explains value violation) : type.Explains value violation where
  located := by
    obtain found | ⟨nowhere, null, missedField⟩ := explains.located
    · exact .inl found
    · refine .inr ⟨nowhere, null, ?_⟩
      obtain ⟨ends, path, known, stands, missing⟩ := missedField
      exact .missed ends (leads path) known stands missing
  refused := by
    obtain ⟨part, path, rest⟩ := explains.refused
    exact ⟨part, leads path, rest⟩

/-- A pointer below a segment is followed from the part there. -/
theorem resolve_below (segment : String) (pointer : Pointer) (value : Value) :
    ((Pointer.root.child segment).append pointer).resolve value =
      (Pointer.locate value segment).bind pointer.resolve := by
  rw [Pointer.resolve_append]
  congr 1
  simp [Pointer.resolve, Pointer.child, Pointer.root]

/-- A field that a part misses is missed below the part. -/
theorem MissedField.below {inner type : Descriptor} {value part : Value} {segment : String}
    {pointer : Pointer}
    (leads : ∀ {segments target}, inner.Leads segments target →
      type.Leads (segment :: segments) target)
    (stands : Pointer.locate value segment = some part)
    (missedField : inner.MissedField part pointer) :
    type.MissedField value ((Pointer.root.child segment).append pointer) := by
  obtain ⟨rfl, path, known, there, missing⟩ := missedField
  rename_i parent key label fields members
  have ends : (Pointer.root.child segment).append (parent.child key) =
      ((Pointer.root.child segment).append parent).child key := by
    simp [Pointer.append, Pointer.child]
  refine .missed ends (leads path) known ?_ missing
  rw [resolve_below, stands]
  exact there

/-- What a part refuses is refused below the part. -/
theorem Refused.below {inner type : Descriptor} {segment : String} {pointer : Pointer}
    {name : String} {found : Value}
    (leads : ∀ {segments target}, inner.Leads segments target →
      type.Leads (segment :: segments) target)
    (refused : inner.Refused pointer name found) :
    type.Refused ((Pointer.root.child segment).append pointer) name found := by
  obtain ⟨part, path, rest⟩ := refused
  exact ⟨part, leads path, rest⟩

/-- A violation of a part that is there, seen from the whole. -/
theorem Explains.below {inner type : Descriptor} {value part : Value} {segment : String}
    {violation : Violation}
    (leads : ∀ {segments target}, inner.Leads segments target →
      type.Leads (segment :: segments) target)
    (stands : Pointer.locate value segment = some part)
    (explains : inner.Explains part violation) :
    type.Explains value (violation.below (.child .root segment)) where
  located := by
    have path (found : Option Value) :
        ((Pointer.root.child segment).append violation.path).resolve value = found ↔
          violation.path.resolve part = found := by
      rw [resolve_below, stands, Option.bind_some]
    obtain found | ⟨nowhere, null, missedField⟩ := explains.located
    · exact .inl ((path _).mpr found)
    · exact .inr ⟨(path _).mpr nowhere, null, missedField.below leads stands⟩
  refused := explains.refused.below leads

/-- From null no pointer leads on. -/
theorem resolve_null {pointer : Pointer} {found : Value}
    (there : pointer.resolve .null = some found) : pointer = .root ∧ found = .null := by
  obtain ⟨segments⟩ := pointer
  cases segments with
  | nil => exact ⟨rfl, (Option.some.inj there).symm⟩
  | cons segment rest => simp [Pointer.resolve, Pointer.locate] at there

/-- A violation of a missed member speaks of the member as a whole. -/
theorem Explains.of_null {inner : Descriptor} {violation : Violation}
    (explains : inner.Explains .null violation) :
    violation.path = .root ∧ violation.actual = .null := by
  obtain found | ⟨-, -, missedField⟩ := explains.located
  · exact resolve_null found
  · obtain ⟨-, -, -, stands, -⟩ := missedField
    exact absurd (resolve_null stands).2 (by simp)

/-- A violation of a missing field is explained by the field. -/
theorem Explains.missed {label : Option String} {fields : List (Field Descriptor)}
    {field : Field Descriptor} {members : List (String × Value)} {violation : Violation}
    (inside : field ∈ fields) (missing : members.lookup field.key = none)
    (explains : field.type.Explains .null violation) :
    (struct label fields).Explains (.object members)
      (violation.below (.child .root field.key)) where
  located := by
    obtain ⟨atRoot, null⟩ := explains.of_null
    have path : (violation.below (.child .root field.key)).path =
        Pointer.root.child field.key := by
      simp [Violation.below, atRoot]
    rw [path]
    have known : field.key ∈ fields.map Field.key := List.mem_map_of_mem inside
    refine .inr ⟨?_, null, .missed rfl (.here _) known rfl missing⟩
    simp [Pointer.resolve, Pointer.child, Pointer.root, Pointer.locate, missing]
  refused := explains.refused.below (.field inside)

/-- The violations of a field, whether its member is there or not. -/
theorem explains_fieldReport {label : Option String} {fields : List (Field Descriptor)}
    {field : Field Descriptor} {members : List (String × Value)} {violation : Violation}
    (inside : field ∈ fields)
    (part : ∀ value, ∀ violation ∈ field.type.report value, field.type.Explains value violation)
    (reported : violation ∈ fieldReport members field) :
    (struct label fields).Explains (.object members) violation := by
  unfold fieldReport at reported
  split at reported
  · simp at reported
  · obtain ⟨inner, ofMember, rfl⟩ := List.mem_map.mp reported
    have explains := part _ inner ofMember
    cases found : members.lookup field.key with
    | some member =>
        rw [memberOrNull, found] at explains
        exact explains.below (.field inside) found
    | none =>
        rw [memberOrNull, found] at explains
        exact explains.missed inside found

/-- The violations of an item that stands in an array. -/
theorem explains_itemReport {type element : Descriptor} {items : List Value} {item : Value}
    {index : Nat} {violation : Violation}
    (leads : ∀ {segments target}, element.Leads segments target →
      type.Leads (toString index :: segments) target)
    (stands : items[index]? = some item)
    (part : ∀ violation ∈ element.report item, element.Explains item violation)
    (reported : violation ∈ itemReport element item index) :
    type.Explains (.array items) violation := by
  obtain ⟨inner, ofItem, rfl⟩ := List.mem_map.mp reported
  refine (part inner ofItem).below leads ?_
  change (Pointer.position? (toString index)).bind (items[·]?) = some item
  rw [Pointer.position_toString]
  exact stands

/-- What has members is an object. -/
theorem members_eq_some {value : Value} {members : List (String × Value)}
    (found : value.members? = some members) : value = .object members := by
  cases value <;> simp_all [Value.members?]

/-- What has items is a list. -/
theorem items_eq_some {value : Value} {items : List Value}
    (found : value.items? = some items) : value = .array items := by
  cases value <;> simp_all [Value.items?]

/-- A report of the rejection alone explains itself. -/
theorem explains_rejection {type : Descriptor} {value : Value} {violation : Violation}
    (refused : type.accepts value = false) (reported : violation ∈ [type.rejection value]) :
    type.Explains value violation := by
  rw [List.mem_singleton] at reported
  exact reported ▸ .rejection refused

/-- Each violation of a report is explained, by induction on the type. -/
theorem explains_report (type : Descriptor) (value : Value) :
    ∀ violation ∈ type.report value, type.Explains value violation := by
  induction type using Descriptor.induction generalizing value with
  | primitive kind =>
      intro violation reported
      rw [report_primitive] at reported
      split at reported
      · simp at reported
      · rename_i refused
        exact explains_rejection (by simpa [accepts] using refused) reported
  | enumeration choices =>
      intro violation reported
      rw [report_enumeration] at reported
      split at reported
      · simp at reported
      · rename_i refused
        exact explains_rejection (by simpa [accepts] using refused) reported
  | refinement base constraints part =>
      intro violation reported
      rw [report_refinement, refinementReport] at reported
      split at reported
      · exact (part value violation reported).lift .base
      · split at reported
        · rename_i refused
          exact explains_rejection (by simp_all [accepts]) reported
        · simp at reported
  | struct label fields parts =>
      intro violation reported
      rw [report_struct, structReport] at reported
      split at reported
      · rename_i members found
        obtain ⟨field, inside, ofField⟩ := List.mem_flatMap.mp reported
        rw [members_eq_some found]
        exact explains_fieldReport inside (parts field inside) ofField
      · rename_i missing
        exact explains_rejection (by simp [accepts, missing]) reported
  | list element part =>
      intro violation reported
      rw [report_list, listReport] at reported
      split at reported
      · rename_i items found
        obtain ⟨⟨item, index⟩, inside, ofItem⟩ := List.mem_flatMap.mp reported
        rw [items_eq_some found]
        exact explains_itemReport (.element index) (List.mem_zipIdx_iff_getElem?.mp inside)
          (part item) ofItem
      · rename_i missing
        exact explains_rejection (by simp [accepts, missing]) reported
  | tuple elements parts =>
      intro violation reported
      rw [report_tuple, tupleReport] at reported
      split at reported
      · rename_i items found
        split at reported
        · obtain ⟨⟨⟨element, item⟩, index⟩, inside, ofItem⟩ := List.mem_flatMap.mp reported
          have stand := List.mem_zipIdx_iff_getElem?.mp inside
          rw [List.getElem?_zip_eq_some] at stand
          rw [items_eq_some found]
          exact explains_itemReport (.position stand.1) stand.2
            (parts element (List.mem_of_getElem? stand.1) item) ofItem
        · rename_i unfit
          exact explains_rejection (by simp [accepts, found, unfit]) reported
      · rename_i missing
        exact explains_rejection (by simp [accepts, missing]) reported
  | union alternatives =>
      intro violation reported
      rw [report_union] at reported
      split at reported
      · simp at reported
      · rename_i refused
        exact explains_rejection (by simpa [accepts] using refused) reported
  | custom name target part =>
      intro violation reported
      rw [report_custom] at reported
      exact (part value violation reported).lift .target

/--
The path of each violation, read as a pointer, leads to the value that was found or to a missed
field, and inside of the type to a part of the expected name that refuses this value.
-/
theorem violation_points_at_refusal (type : Descriptor) (value : Value) (found : List Violation)
    (failed : type.validate value = .error found) (violation : Violation)
    (reported : violation ∈ found) :
    ∃ pointer, Pointer.ofText? violation.path.text = some pointer ∧
      type.Located value pointer violation.actual ∧
      type.Refused pointer violation.expected violation.actual := by
  have same : type.report value = found := by
    unfold validate at failed
    split at failed
    · simp at failed
    · exact Except.error.inj failed
  have explains := explains_report type value violation (same ▸ reported)
  exact ⟨violation.path, Pointer.ofText_text violation.path, explains.located, explains.refused⟩

/-- A missed field without a name, beside a list under a key with a slash and a tilde. -/
theorem missed_nameless_field_points_at_refusal :
    let type := struct none
      [⟨"a/b~c", list (.primitive .integer), false⟩, ⟨"", .primitive .string, false⟩]
    let value := Value.object [("a/b~c", .array [.string "x"])]
    let violation : Violation := ⟨⟨[""]⟩, "String", .null⟩
    type.validate value = .error [⟨⟨["a/b~c", "0"]⟩, "Integer", .string "x"⟩, violation] ∧
      violation.path.text = "/" ∧
      ∃ pointer, Pointer.ofText? violation.path.text = some pointer ∧
        type.Located value pointer violation.actual ∧
        type.Refused pointer violation.expected violation.actual :=
  ⟨rfl, rfl, violation_points_at_refusal _ _ _ rfl _ (.tail _ (.head _))⟩

end Descriptor

end TypedJson
