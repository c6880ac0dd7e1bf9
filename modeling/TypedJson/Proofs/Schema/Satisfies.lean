import TypedJson.Proofs.Descriptor.Accepts
import TypedJson.Proofs.Schema.Compile
import TypedJson.Proofs.Result

namespace TypedJson.Schema

open Json (Value)

/-- A size lies within the counts that two keywords give, as far as they are there. -/
def WithinCounts (node : Node) (least greatest : String) (size : Nat) : Prop :=
  (∀ bound, node.count least = .ok (some bound) → bound ≤ size) ∧
    ∀ bound, node.count greatest = .ok (some bound) → size ≤ bound

structure TextFits (registry : Registry) (node : Node) (text : String) : Prop where
  length : WithinCounts node "minLength" "maxLength" text.length
  pattern : ∀ source, node.get? "pattern" = some (.string source) →
    ∃ pattern, Pattern.ofSource? source = some pattern ∧ pattern.isMatch text = true
  format : ∀ name, node.get? "format" = some (.string name) →
    ∃ format, registry.format? name = some format ∧ format.check text = true

/-- A closed set of values takes the place of all other keywords. -/
def StringFits (registry : Registry) (node : Node) (value : Value) : Prop :=
  match node.get? "enum" with
  | some (.array items) => ∃ item ∈ items, item.same value = true
  | some (.object entries) => ∃ key ∈ entries.map Prod.fst, value = .string key
  | some _ => False
  | none => ∃ text, value = .string text ∧ TextFits registry node text

/--
A bound is strict if its exclusive keyword is no number and truthy. A numeric exclusive keyword is
a further strict bound.
-/
structure BoundFits (node : Node) (keyword exclusive : String) (weak strict : Binary64 → Prop) :
    Prop where
  weakly : ∀ bound, node.number? keyword = some bound →
    ¬(node.number? exclusive = none ∧ node.flag exclusive = true) → weak bound
  strictly : ∀ bound, node.number? keyword = some bound →
    node.number? exclusive = none → node.flag exclusive = true → strict bound
  further : ∀ bound, node.number? exclusive = some bound → strict bound

/-- Bounds and numbers are compared as binary64 numbers. -/
structure NumberFits (node : Node) (number : Binary64) : Prop where
  least : BoundFits node "minimum" "exclusiveMinimum" (· ≤ number) (· < number)
  greatest : BoundFits node "maximum" "exclusiveMaximum" (number ≤ ·) (number < ·)

def Requires (node : Node) (key : String) : Prop :=
  ∃ names, node.get? "required" = some (.array names) ∧ .string key ∈ names

/-- Whether a node is a boolean schema, the one kind that is never optional. -/
def IsBoolean (node : Value) : Prop := node.member? "type" = some (.string "boolean")

mutual

/-- What a value has to be to satisfy a schema; the names of a list are alternatives. -/
def Satisfies (registry : Registry) (schema value : Value) : Prop :=
  match schema with
  | .object members =>
    match members.lookup "type" with
    | none => True
    | some (.string name) => SatisfiesAs registry members name value
    | some (.array names) => ∃ name, .string name ∈ names ∧ SatisfiesAs registry members name value
    | some _ => False
  | _ => False
termination_by (sizeOf schema, 1)

/-- What a value has to be to satisfy a node for one name of a type. -/
def SatisfiesAs (registry : Registry) (members : List (String × Value)) (name : String)
    (value : Value) : Prop :=
  let node : Node := ⟨members⟩
  match TypeName.ofText name with
  | .kind .null => value = .null
  | .kind .boolean => ∃ flag, value = .boolean flag
  | .kind .string => StringFits registry node value
  | .kind .number => ∃ number, value = .number number ∧ NumberFits node number.toBinary64 ∧
      (node.flag "integer" = true → number.isWhole = true)
  | .kind .integer => ∃ number, value = .number number ∧ NumberFits node number.toBinary64 ∧
      number.isWhole = true
  | .kind .object => ∃ found, value = .object found ∧
      match _given : members.lookup "properties" with
      | some (.object properties) => ∀ property ∈ properties,
          let member := (found.lookup property.1).getD .null
          (member = .null ∧ ¬Requires node property.1 ∧ ¬IsBoolean property.2) ∨
            Satisfies registry property.2 member
      | _ => True
  | .kind .array => ∃ found, value = .array found ∧
      match _given : members.lookup "items" with
      | some (.array nodes) => found.length = nodes.length ∧
          ∀ pair ∈ nodes.zip found, Satisfies registry pair.1 pair.2
      | some element => WithinCounts node "minItems" "maxItems" found.length ∧
          ∀ item ∈ found, Satisfies registry element item
      | none => WithinCounts node "minItems" "maxItems" found.length
  | .custom name => ∃ target, registry.type? name = some target ∧ target.accepts value = true
termination_by (sizeOf (Value.object members), 0)
decreasing_by
  all_goals apply Prod.Lex.left
  · exact (Nested.property _given ‹property ∈ properties›).sizeOf_lt
  · exact (Nested.position _given (List.of_mem_zip ‹pair ∈ nodes.zip found›).1).sizeOf_lt
  · exact (Nested.items _given).sizeOf_lt

end

/-- A constrained type accepts what the base accepts and all constraints hold of. -/
theorem accepts_refine (base : Descriptor) (constraints : List Constraint) (value : Value) :
    (base.refine constraints).accepts value = true ↔
      base.accepts value = true ∧ ∀ constraint ∈ constraints, constraint.holds value = true := by
  unfold Descriptor.refine Constraints.ofList?
  by_cases empty : constraints = []
  · simp [empty]
  · simp [empty, Descriptor.accepts, Constraints.hold]

/-- The constraint of a keyword restricts values only if the keyword is there. -/
theorem forall_mem_optional {Item : Type} (make : Item → Constraint) (given : Option Item)
    (value : Value) :
    (∀ constraint ∈ optional make given, constraint.holds value = true) ↔
      ∀ item, given = some item → (make item).holds value = true := by
  cases given <;> simp [optional]

/-- A text that is read is the string of the keyword. -/
theorem string_eq_ok {node : Node} {keyword : String} {given : Option String}
    (read : node.string keyword = .ok given) (text : String) :
    given = some text ↔ node.get? keyword = some (.string text) := by
  unfold Node.string at read
  split at read
  · rename_i missing
    obtain rfl := Except.ok.inj read
    simp [missing]
  · rename_i found there
    cases found with
    | string written =>
        obtain rfl : some written = given := Except.ok.inj read
        simp [there]
    | _ => simp [Value.string?] at read

/-- A bound that is read is the number of the keyword. -/
theorem number_eq_ok {node : Node} {keyword : String} {given : Option Binary64}
    (read : node.number keyword = .ok given) : given = node.number? keyword := by
  unfold Node.number at read
  unfold Node.number?
  split at read
  · rename_i missing
    simp_all
  · rename_i found there
    cases found <;> simp_all [Value.number?]

/-- A size is within the keywords if it is within the counts read from them. -/
theorem withinCounts_iff {node : Node} {least greatest : String} {lower upper : Option Nat}
    (readLower : node.count least = .ok lower) (readUpper : node.count greatest = .ok upper)
    (size : Nat) :
    WithinCounts node least greatest size ↔
      (∀ bound, lower = some bound → bound ≤ size) ∧ ∀ bound, upper = some bound → size ≤ bound := by
  simp [WithinCounts, readLower, readUpper]

/-- The constraint of a pattern holds of the texts that the pattern matches. -/
theorem holds_patternConstraint {source : Option String} {constraints : List Constraint}
    (made : patternConstraint source = .ok constraints) (text : String) :
    (∀ constraint ∈ constraints, constraint.holds (.string text) = true) ↔
      ∀ written, source = some written →
        ∃ pattern, Pattern.ofSource? written = some pattern ∧ pattern.isMatch text = true := by
  unfold patternConstraint at made
  split at made
  · obtain rfl := Except.ok.inj made
    simp
  · split at made
    · rename_i pattern read
      obtain rfl := Except.ok.inj made
      simp [read, Constraint.holds, Value.string?]
    · simp at made

/-- The constraint of a format holds of the texts that the format takes. -/
theorem holds_formatConstraint {registry : Registry} {name : Option String}
    {constraints : List Constraint} (made : formatConstraint registry name = .ok constraints)
    (text : String) :
    (∀ constraint ∈ constraints, constraint.holds (.string text) = true) ↔
      ∀ written, name = some written →
        ∃ format, registry.format? written = some format ∧ format.check text = true := by
  unfold formatConstraint at made
  split at made
  · obtain rfl := Except.ok.inj made
    simp
  · split at made
    · rename_i format found
      obtain rfl := Except.ok.inj made
      simp [found, Constraint.holds, Value.string?]
    · simp at made

/-- An enumeration accepts what the keyword lists, or the keys of its object. -/
theorem accepts_enumeration {keyword : Value} {choices : List Choice}
    (listed : Choice.ofKeyword? keyword = some choices) (value : Value) :
    (Descriptor.enumeration choices).accepts value = true ↔
      match keyword with
      | .array items => ∃ item ∈ items, item.same value = true
      | .object entries => ∃ key ∈ entries.map Prod.fst, value = .string key
      | _ => False := by
  unfold Choice.ofKeyword? at listed
  split at listed
  · obtain rfl := Option.some.inj listed
    simp [Descriptor.accepts, Choice.contains]
  · obtain rfl := Option.some.inj listed
    cases value <;> simp [Descriptor.accepts, Choice.contains, Value.same]
  · simp at listed

/-- The type of strings accepts the strings that fit the keywords. -/
theorem accepts_stringType {registry : Registry} {node : Node} {type : Descriptor}
    (made : stringType registry node = .ok type) (value : Value) :
    type.accepts value = true ↔ StringFits registry node value := by
  unfold stringType at made
  unfold StringFits
  split at made
  · rename_i keyword given
    split at made
    · rename_i choices listed
      obtain rfl := Except.ok.inj made
      rw [given, accepts_enumeration listed]
      cases keyword <;> rfl
    · simp at made
  · rename_i noEnum
    simp only [bind_eq_ok, pure, Except.pure, Except.ok.injEq] at made
    obtain ⟨least, readLeast, greatest, readGreatest, source, readSource, pattern, madePattern,
      name, readName, format, madeFormat, rfl⟩ := made
    rw [noEnum, accepts_refine]
    cases value with
    | string text =>
        have fits : TextFits registry node text ↔
            WithinCounts node "minLength" "maxLength" text.length ∧
              (∀ constraint ∈ pattern, constraint.holds (.string text) = true) ∧
              ∀ constraint ∈ format, constraint.holds (.string text) = true := by
          rw [holds_patternConstraint madePattern, holds_formatConstraint madeFormat]
          simp only [string_eq_ok readSource, string_eq_ok readName]
          exact ⟨fun fits => ⟨fits.length, fits.pattern, fits.format⟩,
            fun all => ⟨all.1, all.2.1, all.2.2⟩⟩
        simp only [List.forall_mem_append, forall_mem_optional]
        simp [Descriptor.accepts, Primitive.accepts, Value.string?, Constraint.holds, fits,
          withinCounts_iff readLeast readGreatest, and_assoc]
    | _ => simp [Descriptor.accepts, Primitive.accepts, Value.string?]

/-- The constraints that come from a bound and its exclusive keyword. -/
theorem holds_bound {node : Node} {keyword : String} (exclusive : String)
    {given : Option Binary64} (read : node.number keyword = .ok given)
    (weak strict : Binary64 → Constraint)
    (value : Value) :
    ((∀ constraint ∈ optional
          (if ((node.number? exclusive).isNone && node.flag exclusive) = true then strict else weak)
          given, constraint.holds value = true) ∧
        ∀ constraint ∈ optional strict (node.number? exclusive), constraint.holds value = true) ↔
      BoundFits node keyword exclusive (fun bound => (weak bound).holds value = true)
        (fun bound => (strict bound).holds value = true) := by
  rw [number_eq_ok read, forall_mem_optional, forall_mem_optional]
  by_cases switched : node.number? exclusive = none ∧ node.flag exclusive = true
  · have test : ((node.number? exclusive).isNone && node.flag exclusive) = true := by
      simp [switched]
    rw [if_pos test]
    exact ⟨fun ⟨strictly, further⟩ =>
      ⟨fun _ _ other => absurd switched other, fun bound given _ _ => strictly bound given, further⟩,
      fun fits => ⟨fun bound given => fits.strictly bound given switched.1 switched.2, fits.further⟩⟩
  · have test : ¬((node.number? exclusive).isNone && node.flag exclusive) = true := by
      simpa using switched
    rw [if_neg test]
    exact ⟨fun ⟨weakly, further⟩ =>
      ⟨fun bound given _ => weakly bound given, fun _ _ none flag => absurd ⟨none, flag⟩ switched,
        further⟩,
      fun fits => ⟨fun bound given => fits.weakly bound given switched, fits.further⟩⟩

/-- The constraints of the bounds hold of the numbers within them. -/
theorem holds_bounds {node : Node} {constraints : List Constraint}
    (made : bounds node = .ok constraints) (number : Json.Number) :
    (∀ constraint ∈ constraints, constraint.holds (.number number) = true) ↔
      NumberFits node number.toBinary64 := by
  unfold bounds at made
  simp only [bind_eq_ok, pure, Except.pure, Except.ok.injEq] at made
  obtain ⟨least, readLeast, greatest, readGreatest, rfl⟩ := made
  have lower := holds_bound "exclusiveMinimum" readLeast .minimum .exclusiveMinimum
    (.number number)
  have upper := holds_bound "exclusiveMaximum" readGreatest .maximum
    .exclusiveMaximum (.number number)
  simp only [List.forall_mem_append, and_assoc]
  rw [← and_assoc, lower, upper]
  simp only [Constraint.holds, Constraint.numberPasses, Value.number?, Option.any_some,
    decide_eq_true_eq]
  exact ⟨fun ⟨least, greatest⟩ => ⟨least, greatest⟩, fun fits => ⟨fits.least, fits.greatest⟩⟩

/-- The type of numbers accepts the numbers within the bounds, whole ones if the flag is set. -/
theorem accepts_numberType {node : Node} {type : Descriptor} (made : numberType node = .ok type)
    (value : Value) :
    type.accepts value = true ↔
      ∃ number, value = .number number ∧ NumberFits node number.toBinary64 ∧
        (node.flag "integer" = true → number.isWhole = true) := by
  unfold numberType at made
  simp only [bind_eq_ok, pure, Except.pure, Except.ok.injEq] at made
  obtain ⟨constraints, madeBounds, rfl⟩ := made
  rw [accepts_refine]
  cases value with
  | number number =>
      rw [List.forall_mem_append, holds_bounds madeBounds]
      by_cases whole : node.flag "integer" = true
      · simp [whole, Descriptor.accepts, Primitive.accepts, Value.number?, Constraint.holds]
      · simp [whole, Descriptor.accepts, Primitive.accepts, Value.number?]
  | _ => simp [Descriptor.accepts, Primitive.accepts, Value.number?]

/-- The type of integers accepts the whole numbers within the bounds. -/
theorem accepts_integerType {node : Node} {type : Descriptor}
    (made : integerType node = .ok type) (value : Value) :
    type.accepts value = true ↔
      ∃ number, value = .number number ∧ NumberFits node number.toBinary64 ∧
        number.isWhole = true := by
  unfold integerType at made
  simp only [bind_eq_ok, pure, Except.pure, Except.ok.injEq] at made
  obtain ⟨constraints, madeBounds, rfl⟩ := made
  rw [accepts_refine]
  cases value with
  | number number =>
      rw [holds_bounds madeBounds]
      simp [Descriptor.accepts, Primitive.accepts, Constraint.holds, Value.number?, and_comm]
  | _ => simp [Descriptor.accepts, Primitive.accepts, Constraint.holds, Value.number?]

/-- What the nested schemas of an object have to satisfy in the induction over schemas. -/
def NestedAgree (registry : Registry) (members : List (String × Value)) : Prop :=
  ∀ schema, Nested members schema → ∀ type, compile registry schema = .ok type →
    ∀ value, type.accepts value = true ↔ Satisfies registry schema value

/-- The names that are read are the strings listed. -/
theorem names_eq_some {items : List Value} {names : List String}
    (read : Node.names items = some names) (key : String) :
    key ∈ names ↔ Value.string key ∈ items := by
  induction items generalizing names with
  | nil =>
      obtain rfl := Option.some.inj read
      simp
  | cons item rest ih =>
      cases item with
      | string name =>
          rw [Node.names, Option.map_eq_some_iff] at read
          obtain ⟨others, readRest, rfl⟩ := read
          simp [ih readRest]
      | _ => simp [Node.names] at read

/-- The required names that are read are those of the keyword. -/
theorem mem_required {node : Node} {names : List String} (read : node.required = .ok names)
    (key : String) : key ∈ names ↔ Requires node key := by
  unfold Node.required at read
  unfold Requires
  split at read
  · rename_i missing
    obtain rfl := Except.ok.inj read
    simp [missing]
  · rename_i null
    obtain rfl := Except.ok.inj read
    simp [null]
  · rename_i items found
    split at read
    · rename_i listed readNames
      obtain rfl := Except.ok.inj read
      simp [found, names_eq_some readNames]
    · simp at read
  · simp at read

/-- What a property asks of a member, which is null if the object does not have it. -/
def PropertyHolds (registry : Registry) (node : Node) (found : List (String × Value))
    (property : String × Value) : Prop :=
  (Descriptor.memberOrNull found property.1 = .null ∧ ¬Requires node property.1 ∧
      ¬IsBoolean property.2) ∨
    Satisfies registry property.2 (Descriptor.memberOrNull found property.1)

/-- An object satisfies a node of objects if it has the properties that the node asks for. -/
theorem satisfiesAs_object {registry : Registry} {members : List (String × Value)} {name : String}
    (read : TypeName.ofText name = .kind .object) (value : Value) :
    SatisfiesAs registry members name value ↔
      ∃ found, value = .object found ∧
        ∀ properties, members.lookup "properties" = some (.object properties) →
          ∀ property ∈ properties, PropertyHolds registry ⟨members⟩ found property := by
  rw [SatisfiesAs, read]
  dsimp only
  constructor
  · rintro ⟨found, same, each⟩
    refine ⟨found, same, fun properties given => ?_⟩
    rw [given] at each
    exact each
  · rintro ⟨found, same, each⟩
    refine ⟨found, same, ?_⟩
    split
    · rename_i properties given
      exact each properties given
    · trivial

/-- A field holds if its member satisfies the schema of the property that it is made from. -/
theorem fieldHolds_fieldOf {registry : Registry} {members : List (String × Value)}
    {required : List String} {found : List (String × Value)} {property : String × Value}
    {type : Descriptor} (readRequired : Node.required ⟨members⟩ = .ok required)
    (compiled : compile registry property.2 = .ok type)
    (agree : ∀ value, type.accepts value = true ↔ Satisfies registry property.2 value) :
    Descriptor.fieldHolds found (fieldOf required property.1 type) = true ↔
      PropertyHolds registry ⟨members⟩ found property := by
  have optional : (fieldOf required property.1 type).optional = true ↔
      ¬Requires ⟨members⟩ property.1 ∧ ¬IsBoolean property.2 := by
    rw [fieldOf, Bool.and_eq_true, Bool.not_eq_true', Bool.not_eq_true', ← Bool.not_eq_true,
      ← Bool.not_eq_true, List.contains_iff_mem, mem_required readRequired,
      isBoolean_of_compile compiled, IsBoolean]
  have missing (value : Value) : value.isNull = true ↔ value = .null := by
    cases value <;> simp [Value.isNull]
  rw [Descriptor.fieldHolds, Bool.or_eq_true, Bool.and_eq_true, optional, missing, PropertyHolds]
  rw [show (fieldOf required property.1 type).key = property.1 from rfl,
    show (fieldOf required property.1 type).type = type from rfl, agree]
  tauto

/-- The type of objects accepts what satisfies the node, if this holds of nested nodes. -/
theorem accepts_objectType {registry : Registry} {members : List (String × Value)} {name : String}
    {type : Descriptor} (agree : NestedAgree registry members)
    (read : TypeName.ofText name = .kind .object)
    (made : objectType ⟨members⟩ (fun _ => propertyTypes registry members) = .ok type)
    (value : Value) :
    type.accepts value = true ↔ SatisfiesAs registry members name value := by
  rw [satisfiesAs_object read]
  obtain ⟨bare, rfl⟩ | ⟨property, rest, required, types, label, readProperties, readRequired,
    ofTypes, -, rfl⟩ := objectType_eq_ok made
  · have empty : ∀ properties, members.lookup "properties" = some (.object properties) →
        properties = [] := by
      intro properties given
      obtain bare | bare := bare
      · simp [Node.properties, Node.get?, given] at bare
      · simpa [Node.properties, Node.get?, given] using bare
    cases value with
    | object found =>
        simp only [Descriptor.accepts, Primitive.accepts, Value.members?, Option.isSome_some,
          true_iff]
        refine ⟨found, rfl, fun properties given => ?_⟩
        simp [empty properties given]
    | _ => simp [Descriptor.accepts, Primitive.accepts, Value.members?]
  · have given : members.lookup "properties" = some (.object (property :: rest)) := by
      unfold Node.properties at readProperties
      rw [Node.get?] at readProperties
      split at readProperties <;> simp_all
    rw [propertyTypes_eq_lookup, given] at ofTypes
    have each := mapM_eq_ok.mp ((compileMembers_eq_mapM _ _).symm.trans ofTypes)
    cases value with
    | object found =>
        have fields : (∀ member ∈ property :: rest, PropertyHolds registry ⟨members⟩ found member) ↔
            ∀ made ∈ types,
              Descriptor.fieldHolds found (fieldOf required made.1 made.2) = true := by
          refine forall_mem_iff_of_forall₂ each fun member inside made done => ?_
          obtain ⟨type, compiled, rfl⟩ := map_eq_ok.mp done
          exact (fieldHolds_fieldOf readRequired compiled
            (agree member.2 (.property given inside) type compiled)).symm
        simp only [Descriptor.accepts, Value.members?, Descriptor.acceptsFields_eq_all,
          List.all_map, List.all_eq_true, Function.comp_apply, ← fields, given,
          Option.some.injEq, Value.object.injEq]
        constructor
        · rintro every
          refine ⟨found, rfl, ?_⟩
          rintro _ rfl
          exact every
        · rintro ⟨_, rfl, every⟩
          exact every _ rfl
    | _ => simp [Descriptor.accepts, Value.members?]

/-- An array satisfies a node of arrays by its items and its length, or place by place. -/
theorem satisfiesAs_array {registry : Registry} {members : List (String × Value)} {name : String}
    (read : TypeName.ofText name = .kind .array) (value : Value) :
    SatisfiesAs registry members name value ↔
      ∃ found, value = .array found ∧
        match members.lookup "items" with
        | some (.array nodes) => found.length = nodes.length ∧
            ∀ pair ∈ nodes.zip found, Satisfies registry pair.1 pair.2
        | some element => WithinCounts ⟨members⟩ "minItems" "maxItems" found.length ∧
            ∀ item ∈ found, Satisfies registry element item
        | none => WithinCounts ⟨members⟩ "minItems" "maxItems" found.length := by
  rw [SatisfiesAs, read]
  dsimp only
  refine exists_congr fun found => and_congr_right fun _ => ?_
  split <;> rename_i given <;> simp only [given]

/-- A list with bounds accepts the arrays of the base whose length is within them. -/
theorem accepts_bounded {node : Node} {base type : Descriptor}
    (made : arrayType.bounded node base = .ok type)
    (listsOnly : ∀ value, base.accepts value = true → ∃ items, value = .array items)
    (value : Value) :
    type.accepts value = true ↔
      ∃ found, value = .array found ∧ WithinCounts node "minItems" "maxItems" found.length ∧
        base.accepts (.array found) = true := by
  obtain ⟨least, greatest, readLeast, readGreatest, rfl⟩ := bounded_eq_ok.mp made
  rw [accepts_refine, List.forall_mem_append, forall_mem_optional, forall_mem_optional]
  simp only [withinCounts_iff readLeast readGreatest]
  constructor
  · rintro ⟨accepted, limits⟩
    obtain ⟨found, rfl⟩ := listsOnly value accepted
    exact ⟨found, rfl, by simpa [Constraint.holds, Value.items?] using limits, accepted⟩
  · rintro ⟨found, rfl, limits, accepted⟩
    exact ⟨accepted, by simpa [Constraint.holds, Value.items?] using limits⟩

/-- A tuple type accepts the lists of its length whose items satisfy the schemas in order. -/
theorem accepts_tuple {registry : Registry} {nodes : List Value} {types : List Descriptor}
    (made : compileAll registry nodes = .ok types)
    (agree : ∀ node ∈ nodes, ∀ type, compile registry node = .ok type →
      ∀ value, type.accepts value = true ↔ Satisfies registry node value)
    (items : List Value) :
    (Descriptor.tuple types).accepts (.array items) = true ↔
      items.length = nodes.length ∧ ∀ pair ∈ nodes.zip items, Satisfies registry pair.1 pair.2 := by
  rw [compileAll_eq_mapM, mapM_eq_ok] at made
  rw [Descriptor.accepts, Value.items?]
  simp only [Descriptor.acceptsItems_eq_all, Bool.and_eq_true, beq_iff_eq, made.length_eq,
    List.all_eq_true]
  refine and_congr_right fun _ => ?_
  clear * - made agree
  induction made generalizing items with
  | nil => simp
  | cons here rest ih =>
      cases items with
      | nil => simp
      | cons item others =>
          rw [List.forall_mem_cons] at agree
          simp only [List.zip_cons_cons, List.forall_mem_cons]
          rw [agree.1 _ here, ih agree.2]

/-- The type of arrays accepts what satisfies the node, if this holds of nested nodes. -/
theorem accepts_arrayType {registry : Registry} {members : List (String × Value)} {name : String}
    {type : Descriptor} (agree : NestedAgree registry members)
    (read : TypeName.ofText name = .kind .array)
    (made : arrayType ⟨members⟩ (fun _ => itemTypes registry members) = .ok type)
    (value : Value) :
    type.accepts value = true ↔ SatisfiesAs registry members name value := by
  rw [satisfiesAs_array read]
  obtain ⟨items, types, -, ofTypes, shape⟩ := arrayType_eq_ok made
  rw [itemTypes_eq_lookup] at ofTypes
  split at ofTypes
  · rename_i missing
    obtain rfl := Except.ok.inj ofTypes
    have arrays (value : Value) (accepted : (Descriptor.primitive .array).accepts value = true) :
        ∃ items, value = .array items := by
      cases value <;> simp_all [Descriptor.accepts, Primitive.accepts, Value.items?]
    rw [accepts_bounded shape arrays, missing]
    simp [Descriptor.accepts, Primitive.accepts, Value.items?]
  · rename_i nodes given
    obtain ⟨elements, compiled, rfl⟩ := map_eq_ok.mp ofTypes
    obtain rfl := shape
    have tuple := accepts_tuple compiled fun node inside => agree node (.position given inside)
    cases value with
    | array found => simp [tuple, given]
    | _ => simp [Descriptor.accepts, Value.items?]
  · rename_i node noTuple given
    obtain ⟨element, compiled, rfl⟩ := map_eq_ok.mp ofTypes
    have lists (value : Value) (accepted : (Descriptor.list element).accepts value = true) :
        ∃ items, value = .array items := by
      cases value <;> simp_all [Descriptor.accepts, Value.items?]
    rw [accepts_bounded shape lists, given]
    simp [Descriptor.accepts, Value.items?, agree node (.items given) element compiled]

/-- The type for a name accepts what satisfies the node as this name, if this holds of nested
nodes. -/
theorem accepts_typeFor {registry : Registry} {members : List (String × Value)} {name : String}
    {type : Descriptor} (agree : NestedAgree registry members)
    (made : typeFor registry members name = .ok type) (value : Value) :
    type.accepts value = true ↔ SatisfiesAs registry members name value := by
  unfold typeFor at made
  cases read : TypeName.ofText name with
  | custom custom =>
      rw [read, namedType] at made
      rw [SatisfiesAs, read]
      split at made
      · rename_i target found
        obtain rfl := Except.ok.inj made
        simp [found, Descriptor.accepts]
      · simp at made
  | kind kind =>
      rw [read] at made
      cases kind with
      | null =>
          obtain rfl := Except.ok.inj made
          rw [SatisfiesAs, read]
          cases value <;> simp [Descriptor.accepts, Primitive.accepts, Value.isNull]
      | boolean =>
          obtain rfl := Except.ok.inj made
          rw [SatisfiesAs, read]
          cases value <;> simp [Descriptor.accepts, Primitive.accepts, Value.isBoolean]
      | string =>
          rw [SatisfiesAs, read, accepts_stringType made]
      | number =>
          rw [SatisfiesAs, read, accepts_numberType made]
      | integer =>
          rw [SatisfiesAs, read, accepts_integerType made]
      | object => exact accepts_objectType agree read made value
      | array => exact accepts_arrayType agree read made value

/-- A type that a schema compiles to accepts the values that satisfy the schema, and no others. -/
theorem accepts_iff_satisfies {registry : Registry} {schema : Value} {type : Descriptor}
    (compiled : compile registry schema = .ok type) (value : Value) :
    type.accepts value = true ↔ Satisfies registry schema value := by
  induction schema using nestedInduction generalizing type value with
  | object members ih =>
      have agree : NestedAgree registry members :=
        fun node nested type compiled value => ih node nested compiled value
      rw [Satisfies]
      obtain ⟨absent, rfl⟩ | ⟨name, found, made⟩ | ⟨names, alternatives, found, each, rfl⟩ :=
        compile_object_eq_ok.mp compiled
      · simp [absent, Descriptor.any, Descriptor.accepts, Primitive.accepts]
      · rw [found]
        exact accepts_typeFor agree made value
      · have none : (∀ name ∈ names, ¬SatisfiesAs registry members name value) ↔
            ∀ alternative ∈ alternatives, ¬alternative.accepts value = true :=
          forall_mem_iff_of_forall₂ each fun name _ alternative made =>
            not_congr (accepts_typeFor agree made value).symm
        have some := not_congr none
        push Not at some
        simp [found, Descriptor.accepts, ← some]
  | other found noMembers => cases found <;> simp_all [compile, Value.members?]

/-- The schema of an object with an integer that it must have and a list of at most one text. -/
def recordSchema : Value :=
  .object [("type", .string "object"), ("required", .array [.string "count"]),
    ("properties", .object
      [("count", .object [("type", .string "integer")]),
        ("texts", .object [("type", .string "array"), ("maxItems", .number (.integer 1 (by decide))),
          ("items", .object [("type", .string "string")])])])]

/-- The example is satisfied by a record with a whole count, but not by one without a count. -/
theorem recordSchema_accepts_iff_satisfies :
    Satisfies .empty recordSchema (.object [("count", .number (.integer 3 (by decide)))]) ∧
      ¬Satisfies .empty recordSchema (.object [("texts", .array [.string "a"])]) := by
  have compiled : compile .empty recordSchema = .ok (.struct none
      [⟨"count", .primitive .integer, false⟩, ⟨"texts", (Descriptor.list (.primitive .string)).refine
        [.maxItems 1], true⟩]) := rfl
  constructor
  · exact (accepts_iff_satisfies compiled _).mp (by decide)
  · rw [← accepts_iff_satisfies compiled]
    decide

end TypedJson.Schema
