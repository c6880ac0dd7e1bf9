import TypedJson.Proofs.Result
import TypedJson.Schema.Compile

namespace TypedJson

open Json (Value)

namespace Schema

/-- A node that compilation of an object may visit: a property, the items, or one position. -/
inductive Nested (members : List (String × Value)) : Value → Prop
  | property {properties : List (String × Value)} {key : String} {node : Value}
      (found : members.lookup "properties" = some (.object properties))
      (inside : (key, node) ∈ properties) : Nested members node
  | items {node : Value} (found : members.lookup "items" = some node) : Nested members node
  | position {nodes : List Value} {node : Value}
      (found : members.lookup "items" = some (.array nodes)) (inside : node ∈ nodes) :
      Nested members node

/-- The value of a keyword is smaller than the list of keywords. -/
theorem sizeOf_lt_of_lookup {members : List (String × Value)} {key : String} {value : Value}
    (found : members.lookup key = some value) : sizeOf value < sizeOf members := by
  induction members with
  | nil => simp at found
  | cons member rest ih =>
      obtain ⟨name, first⟩ := member
      rw [List.lookup_cons] at found
      split at found
      · obtain rfl := Option.some.inj found
        simp
        omega
      · have smaller := ih found
        simp
        omega

/-- The value of a member is smaller than the list of members. -/
theorem sizeOf_lt_of_member {properties : List (String × Value)} {key : String} {node : Value}
    (inside : (key, node) ∈ properties) : sizeOf node < sizeOf properties := by
  have smaller := List.sizeOf_lt_of_mem inside
  simp at smaller
  omega

/-- Nested nodes are smaller than the node around them. -/
theorem Nested.sizeOf_lt {members : List (String × Value)} {node : Value}
    (nested : Nested members node) : sizeOf node < sizeOf (Value.object members) := by
  cases nested with
  | property found inside =>
      have outer := sizeOf_lt_of_lookup found
      have inner := sizeOf_lt_of_member inside
      simp at outer ⊢
      omega
  | items found =>
      have outer := sizeOf_lt_of_lookup found
      simp
      omega
  | position found inside =>
      have outer := sizeOf_lt_of_lookup found
      have inner := List.sizeOf_lt_of_mem inside
      simp at outer ⊢
      omega

/-- Schemas are finite trees: what passes from the nested nodes to an object holds of all. -/
@[elab_as_elim]
theorem nestedInduction {motive : Value → Prop}
    (object : ∀ members, (∀ node, Nested members node → motive node) →
      motive (.object members))
    (other : ∀ found, found.members? = none → motive found) (schema : Value) :
    motive schema := by
  match schema with
  | .object members =>
      exact object members fun node nested => nestedInduction object other node
  | .null => exact other _ rfl
  | .boolean _ => exact other _ rfl
  | .number _ => exact other _ rfl
  | .string _ => exact other _ rfl
  | .array _ => exact other _ rfl
termination_by sizeOf schema
decreasing_by exact nested.sizeOf_lt

/-- Members are compiled one after another. -/
theorem compileMembers_eq_mapM (registry : Registry) (members : List (String × Value)) :
    compileMembers registry members =
      members.mapM fun member => (compile registry member.2).map (member.1, ·) := by
  induction members with
  | nil => rfl
  | cons member rest ih =>
      obtain ⟨key, node⟩ := member
      rw [compileMembers, List.mapM_cons, ih]
      cases compile registry node <;> rfl

/-- Nodes are compiled one after another. -/
theorem compileAll_eq_mapM (registry : Registry) (nodes : List Value) :
    compileAll registry nodes = nodes.mapM (compile registry) := by
  induction nodes with
  | nil => rfl
  | cons node rest ih => rw [compileAll, List.mapM_cons, ih]

/-- The types of properties come from the keyword `properties`. -/
theorem propertyTypes_eq_lookup (registry : Registry) (members : List (String × Value)) :
    propertyTypes registry members =
      match members.lookup "properties" with
      | some (.object properties) => compileMembers registry properties
      | _ => .ok [] := by
  induction members with
  | nil => rfl
  | cons member rest ih =>
      obtain ⟨key, value⟩ := member
      by_cases same : key = "properties"
      · subst same
        cases value <;> simp [propertyTypes]
      · rw [propertyTypes.eq_def, List.lookup_cons, beq_false_of_ne (Ne.symm same)]
        dsimp only
        rw [if_neg same, ih]

/-- The types of items come from the keyword `items`. -/
theorem itemTypes_eq_lookup (registry : Registry) (members : List (String × Value)) :
    itemTypes registry members =
      match members.lookup "items" with
      | none => .ok .any
      | some (.array nodes) => (compileAll registry nodes).map .tuple
      | some node => (compile registry node).map .single := by
  induction members with
  | nil => rfl
  | cons member rest ih =>
      obtain ⟨key, value⟩ := member
      by_cases same : key = "items"
      · subst same
        cases value <;> simp [itemTypes] <;> rfl
      · rw [itemTypes.eq_def, List.lookup_cons, beq_false_of_ne (Ne.symm same)]
        dsimp only
        rw [if_neg same, ih]

/-- What one name in the `type` keyword makes of the members of a node. -/
def typeFor (registry : Registry) (members : List (String × Value)) (name : String) :
    Except Error Descriptor :=
  namedType registry ⟨members⟩ (fun _ => propertyTypes registry members)
    (fun _ => itemTypes registry members) (.ofText name)

/-- A list of names is read if all of them are strings. -/
theorem typeNames_eq_ok {node : Node} {names : List Value} {read : List TypeName} :
    node.typeNames names = .ok read ↔
      ∃ texts : List String, names = texts.map .string ∧ read = texts.map TypeName.ofText := by
  induction names generalizing read with
  | nil => simp [Node.typeNames, eq_comm]
  | cons name rest ih =>
      cases name with
      | string text =>
          rw [Node.typeNames, map_eq_ok]
          simp only [ih]
          constructor
          · rintro ⟨_, ⟨texts, rfl, rfl⟩, rfl⟩
            exact ⟨text :: texts, rfl, rfl⟩
          · rintro ⟨texts, same, rfl⟩
            cases texts with
            | nil => simp at same
            | cons first others =>
                simp only [List.map_cons, List.cons.injEq, Value.string.injEq] at same
                obtain ⟨rfl, rfl⟩ := same
                exact ⟨_, ⟨others, rfl, rfl⟩, rfl⟩
      | _ =>
          simp only [Node.typeNames, reduceCtorEq, false_iff]
          rintro ⟨texts, same, -⟩
          cases texts <;> simp at same

/-- The ways in which an object compiles: without a type, for one name, or for several names. -/
theorem compile_object_eq_ok {registry : Registry} {members : List (String × Value)}
    {type : Descriptor} :
    compile registry (.object members) = .ok type ↔
      (members.lookup "type" = none ∧ type = .any) ∨
      (∃ name, members.lookup "type" = some (.string name) ∧
        typeFor registry members name = .ok type) ∨
      ∃ names alternatives, members.lookup "type" = some (.array (names.map .string)) ∧
        List.Forall₂ (fun name alternative => typeFor registry members name = .ok alternative)
          names alternatives ∧ type = .union alternatives := by
  rw [compile, bind_eq_ok]
  simp only [Node.typeField, Node.get?]
  split
  · rename_i absent
    simp [absent, pure, Except.pure, eq_comm]
  · rename_i name found
    simp [found, typeFor]
  · rename_i names found
    simp only [map_eq_ok, typeNames_eq_ok]
    constructor
    · rintro ⟨_, ⟨_, ⟨texts, rfl, rfl⟩, rfl⟩, made⟩
      simp only [bind_eq_ok, mapM_eq_ok, List.forall₂_map_left_iff, pure, Except.pure,
        Except.ok.injEq] at made
      obtain ⟨alternatives, each, rfl⟩ := made
      exact .inr (.inr ⟨texts, alternatives, found, each, rfl⟩)
    · rintro (⟨absent, -⟩ | ⟨name, one, -⟩ | ⟨texts, alternatives, listed, each, rfl⟩)
      · simp [found] at absent
      · simp [found] at one
      · simp only [found, Option.some.injEq, Value.array.injEq] at listed
        refine ⟨_, ⟨_, ⟨texts, listed, rfl⟩, rfl⟩, ?_⟩
        simp only [bind_eq_ok, mapM_eq_ok, List.forall₂_map_left_iff, pure, Except.pure,
          Except.ok.injEq]
        exact ⟨alternatives, each, rfl⟩
  · rename_i other noString noArray found
    simp only [found, reduceCtorEq, false_and, exists_false, Option.some.injEq, false_or,
      false_iff]
    rintro (⟨name, same, -⟩ | ⟨names, alternatives, same, -⟩)
    · exact noString name same
    · exact noArray _ same

/-- Constraints make no primitive type of another one. -/
theorem isPrimitive_refine {base : Descriptor} {kind : Primitive}
    (different : base.isPrimitive kind = false) (constraints : List Constraint) :
    (base.refine constraints).isPrimitive kind = false := by
  unfold Descriptor.refine
  split
  · rfl
  · exact different

/-- Exactly the name of a kind stands for the kind. -/
theorem ofText_eq_kind {text : String} {kind : Kind} :
    TypeName.ofText text = .kind kind ↔ text = kind.name := by
  unfold TypeName.ofText
  constructor
  · intro read
    split at read
    · rename_i found same
      obtain rfl := TypeName.kind.inj read
      unfold Kind.ofName? at same
      have agree := List.find?_some same
      exact (beq_iff_eq.mp agree).symm
    · simp at read
  · rintro rfl
    cases kind <;> rfl

/-- The ways in which an object type is made: with nothing said of members, or with fields. -/
theorem objectType_eq_ok {node : Node}
    {types : Unit → Except Error (List (String × Descriptor))} {type : Descriptor}
    (made : objectType node types = .ok type) :
    ((node.properties = .ok none ∨ node.properties = .ok (some [])) ∧
        type = .primitive .object) ∨
      ∃ property rest required found label, node.properties = .ok (some (property :: rest)) ∧
        node.required = .ok required ∧ types () = .ok found ∧
        node.string "description" = .ok label ∧
        type = .struct label (found.map fun member => fieldOf required member.1 member.2) := by
  rw [objectType, bind_eq_ok] at made
  obtain ⟨properties, read, made⟩ := made
  match properties with
  | none => exact .inl ⟨.inl read, (Except.ok.inj made).symm⟩
  | some [] => exact .inl ⟨.inr read, (Except.ok.inj made).symm⟩
  | some (property :: rest) =>
      simp only [bind_eq_ok, pure, Except.pure, Except.ok.injEq] at made
      obtain ⟨required, readRequired, found, ofTypes, label, readLabel, rfl⟩ := made
      exact .inr ⟨property, rest, required, found, label, read, readRequired, ofTypes, readLabel,
        rfl⟩

/-- A list gets the bounds of the keywords for its length. -/
theorem bounded_eq_ok {node : Node} {base type : Descriptor} :
    arrayType.bounded node base = .ok type ↔
      ∃ least greatest, node.count "minItems" = .ok least ∧ node.count "maxItems" = .ok greatest ∧
        type = base.refine (optional .minItems least ++ optional .maxItems greatest) := by
  unfold arrayType.bounded
  simp only [bind_eq_ok, pure, Except.pure, Except.ok.injEq]
  constructor
  · rintro ⟨least, readLeast, greatest, readGreatest, rfl⟩
    exact ⟨least, greatest, readLeast, readGreatest, rfl⟩
  · rintro ⟨least, greatest, readLeast, readGreatest, rfl⟩
    exact ⟨least, readLeast, greatest, readGreatest, rfl⟩

/-- The ways in which an array type is made, by the types of the items. -/
theorem arrayType_eq_ok {node : Node} {types : Unit → Except Error ItemTypes} {type : Descriptor}
    (made : arrayType node types = .ok type) :
    ∃ items found, node.items = .ok items ∧ types () = .ok found ∧
      match found with
      | .tuple elements => type = .tuple elements
      | .single element => arrayType.bounded node (.list element) = .ok type
      | .any => arrayType.bounded node (.primitive .array) = .ok type := by
  unfold arrayType at made
  simp only [bind_eq_ok] at made
  obtain ⟨items, readItems, found, ofTypes, made⟩ := made
  refine ⟨items, found, readItems, ofTypes, ?_⟩
  cases found with
  | tuple elements => exact (Except.ok.inj made).symm
  | single element => exact made
  | any => exact made

/-- Types of strings are not the primitive type of truth values. -/
theorem isPrimitive_stringType {registry : Registry} {node : Node} {type : Descriptor}
    (made : stringType registry node = .ok type) : type.isPrimitive .boolean = false := by
  unfold stringType at made
  split at made
  · split at made
    · obtain rfl := Except.ok.inj made
      rfl
    · simp at made
  · simp only [bind_eq_ok, pure, Except.pure, Except.ok.injEq] at made
    obtain ⟨_, _, _, _, _, _, _, _, _, _, _, _, rfl⟩ := made
    exact isPrimitive_refine rfl _

/-- Types of arrays are not the primitive type of truth values. -/
theorem isPrimitive_arrayType {node : Node} {types : Unit → Except Error ItemTypes}
    {type : Descriptor} (made : arrayType node types = .ok type) :
    type.isPrimitive .boolean = false := by
  obtain ⟨_, found, _, _, shape⟩ := arrayType_eq_ok made
  cases found with
  | tuple elements =>
      obtain rfl := shape
      rfl
  | single element =>
      obtain ⟨_, _, _, _, rfl⟩ := bounded_eq_ok.mp shape
      exact isPrimitive_refine rfl _
  | any =>
      obtain ⟨_, _, _, _, rfl⟩ := bounded_eq_ok.mp shape
      exact isPrimitive_refine rfl _

/-- Only the name `boolean` makes the boolean type of a node. -/
theorem isBoolean_of_typeFor {registry : Registry} {members : List (String × Value)}
    {name : String} {type : Descriptor} (made : typeFor registry members name = .ok type) :
    type.isPrimitive .boolean = true ↔ name = "boolean" := by
  rw [show "boolean" = Kind.boolean.name from rfl, ← ofText_eq_kind]
  unfold typeFor at made
  cases read : TypeName.ofText name with
  | custom custom =>
      simp only [read, namedType] at made
      split at made
      · obtain rfl := Except.ok.inj made
        simp [Descriptor.isPrimitive]
      · simp at made
  | kind kind =>
      rw [read] at made
      cases kind with
      | null =>
          obtain rfl := Except.ok.inj made
          simp [Descriptor.isPrimitive]
      | boolean =>
          obtain rfl := Except.ok.inj made
          simp [Descriptor.isPrimitive]
      | string => simp [isPrimitive_stringType made]
      | number =>
          simp only [namedType, numberType, bind_eq_ok, pure, Except.pure,
            Except.ok.injEq] at made
          obtain ⟨_, _, rfl⟩ := made
          simp [isPrimitive_refine (show (Descriptor.primitive .number).isPrimitive .boolean = false
            from rfl)]
      | integer =>
          simp only [namedType, integerType, bind_eq_ok, pure, Except.pure,
            Except.ok.injEq] at made
          obtain ⟨_, _, rfl⟩ := made
          simp [isPrimitive_refine (show (Descriptor.primitive .integer).isPrimitive .boolean = false
            from rfl)]
      | object =>
          rw [namedType] at made
          obtain ⟨-, rfl⟩ | ⟨_, _, _, _, _, _, _, _, _, rfl⟩ := objectType_eq_ok made
          · simp [Descriptor.isPrimitive]
          · simp [Descriptor.isPrimitive]
      | array =>
          rw [namedType] at made
          simp [isPrimitive_arrayType made]

/-- A schema compiles to the boolean type itself only if its type is the one name `boolean`. -/
theorem isBoolean_of_compile {registry : Registry} {schema : Value} {type : Descriptor}
    (compiled : compile registry schema = .ok type) :
    type.isPrimitive .boolean = true ↔ schema.member? "type" = some (.string "boolean") := by
  cases schema with
  | object members =>
      rw [Value.member?]
      obtain ⟨absent, rfl⟩ | ⟨name, found, made⟩ | ⟨names, alternatives, found, -, rfl⟩ :=
        compile_object_eq_ok.mp compiled
      · simp [absent, Descriptor.any, Descriptor.isPrimitive]
      · simp [found, isBoolean_of_typeFor made]
      · simp [found, Descriptor.isPrimitive]
  | _ => simp [compile] at compiled

end Schema

end TypedJson
