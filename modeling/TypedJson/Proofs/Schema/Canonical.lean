import TypedJson.Proofs.Schema.WellFormed
import TypedJson.Proofs.Result

namespace TypedJson

open Json (Value)

/-- What a constraint is about, without its bound. -/
inductive Constraint.Kind
  | minLength
  | maxLength
  | pattern
  | format
  | minimum
  | exclusiveMinimum
  | maximum
  | exclusiveMaximum
  | integral
  | minItems
  | maxItems
deriving DecidableEq

def Constraint.kind : Constraint → Constraint.Kind
  | minLength _ => .minLength
  | maxLength _ => .maxLength
  | pattern _ => .pattern
  | format _ => .format
  | minimum _ => .minimum
  | exclusiveMinimum _ => .exclusiveMinimum
  | maximum _ => .maximum
  | exclusiveMaximum _ => .exclusiveMaximum
  | integral => .integral
  | minItems _ => .minItems
  | maxItems _ => .maxItems

namespace Schema

/-- The kinds of constraints that may narrow a type, in their order; other types have none. -/
inductive Narrows : Descriptor → List Constraint.Kind → Prop
  | string : Narrows (.primitive .string) [.minLength, .maxLength, .pattern, .format]
  | number : Narrows (.primitive .number)
      [.minimum, .exclusiveMinimum, .maximum, .exclusiveMaximum, .integral]
  | integer : Narrows (.primitive .integer)
      [.minimum, .exclusiveMinimum, .maximum, .exclusiveMaximum]
  | array : Narrows (.primitive .array) [.minItems, .maxItems]
  | list (element : Descriptor) : Narrows (.list element) [.minItems, .maxItems]

/-- No kind of constraint comes twice. -/
theorem Narrows.nodup {base : Descriptor} {kinds : List Constraint.Kind}
    (narrows : Narrows base kinds) : kinds.Nodup := by
  cases narrows <;> decide

structure CanonicalRefinement (base : Descriptor) (constraints : List Constraint) : Prop where
  nonempty : constraints ≠ []
  distinct : (constraints.map Constraint.kind).Nodup
  ordered : ∃ kinds, Narrows base kinds ∧ (constraints.map Constraint.kind).Sublist kinds

/-- The fields are the properties of the node in their order, and booleans are always wanted. -/
structure CanonicalStruct (node : Value) (fields : List (Field Descriptor)) : Prop where
  nonempty : fields ≠ []
  keys : ∃ properties, node.member? "properties" = some (.object properties) ∧
    fields.map Field.key = properties.map Prod.fst
  boolean : ∀ field ∈ fields, field.type = .primitive .boolean → field.optional = false

structure CanonicalCustom (registry : Registry) (name : String) (target : Descriptor) : Prop where
  free : Kind.isReserved name = false
  registered : registry.type? name = some target

/-- The form of one part of a type, which is made from a node. -/
def Canonical (registry : Registry) (node : Value) : Descriptor → Prop
  | .refinement base constraints => CanonicalRefinement base constraints.list
  | .struct _ fields => CanonicalStruct node fields
  | .custom name target => CanonicalCustom registry name target
  | _ => True

/-- The schema of the property at a position. -/
def propertyAt (node : Value) (index : Nat) : Value :=
  match node.member? "properties" with
  | some (.object properties) => ((properties[index]?).map Prod.snd).getD .null
  | _ => .null

def itemsOf (node : Value) : Value := (node.member? "items").getD .null

/-- The schema of the items at a position, where each position has its own. -/
def positionAt (node : Value) (index : Nat) : Value :=
  match node.member? "items" with
  | some (.array nodes) => nodes[index]?.getD .null
  | _ => .null

/--
A part of a type beside the node that it is made from, given the node of the whole type. The
targets of named types are no parts, since they are not made from the schema.
-/
inductive Part : Value → Descriptor → Value → Descriptor → Prop
  | whole (node : Value) (type : Descriptor) : Part node type node type
  | base {node place : Value} {base part : Descriptor} {constraints : Constraints}
      (inside : Part node base place part) : Part node (.refinement base constraints) place part
  | field {node place : Value} {label : Option String} {fields : List (Field Descriptor)}
      {index : Nat} {field : Field Descriptor} {part : Descriptor}
      (given : fields[index]? = some field)
      (inside : Part (propertyAt node index) field.type place part) :
      Part node (.struct label fields) place part
  | element {node place : Value} {element part : Descriptor}
      (inside : Part (itemsOf node) element place part) : Part node (.list element) place part
  | position {node place : Value} {elements : List Descriptor} {index : Nat}
      {element part : Descriptor} (given : elements[index]? = some element)
      (inside : Part (positionAt node index) element place part) :
      Part node (.tuple elements) place part
  | alternative {node place : Value} {alternatives : List Descriptor}
      {alternative part : Descriptor} (given : alternative ∈ alternatives)
      (inside : Part node alternative place part) : Part node (.union alternatives) place part

/-- Every part of a type has its canonical form. -/
def AllCanonical (registry : Registry) (node : Value) (type : Descriptor) : Prop :=
  ∀ place part, Part node type place part → Canonical registry place part

namespace AllCanonical

variable {registry : Registry} {node : Value}

/-- A primitive type is canonical. -/
theorem primitive (kind : Primitive) : AllCanonical registry node (.primitive kind) := by
  intro place part inside
  cases inside with
  | whole => trivial

/-- An enumeration is canonical. -/
theorem enumeration (choices : List Choice) :
    AllCanonical registry node (.enumeration choices) := by
  intro place part inside
  cases inside with
  | whole => trivial

/-- A named type is canonical if its name is free and its target registered. -/
theorem custom {name : String} {target : Descriptor} (free : Kind.isReserved name = false)
    (registered : registry.type? name = some target) :
    AllCanonical registry node (.custom name target) := by
  intro place part inside
  cases inside with
  | whole => exact ⟨free, registered⟩

/-- A list is canonical if its element is so for the node of the items. -/
theorem list {element : Descriptor} (all : AllCanonical registry (itemsOf node) element) :
    AllCanonical registry node (.list element) := by
  intro place part inside
  cases inside with
  | whole => trivial
  | element inside => exact all place part inside

/-- A tuple is canonical if each of its elements is so for the node of its place. -/
theorem tuple {elements : List Descriptor}
    (all : ∀ index element, elements[index]? = some element →
      AllCanonical registry (positionAt node index) element) :
    AllCanonical registry node (.tuple elements) := by
  intro place part inside
  cases inside with
  | whole => trivial
  | position given inside => exact all _ _ given place part inside

/-- A union is canonical if its alternatives are so for the same node. -/
theorem union {alternatives : List Descriptor}
    (all : ∀ alternative ∈ alternatives, AllCanonical registry node alternative) :
    AllCanonical registry node (.union alternatives) := by
  intro place part inside
  cases inside with
  | whole => trivial
  | alternative given inside => exact all _ given place part inside

/-- A structure is canonical if its fields come from the properties and their types are
canonical. -/
theorem struct {label : Option String} {fields : List (Field Descriptor)}
    (canonical : CanonicalStruct node fields)
    (all : ∀ index field, fields[index]? = some field →
      AllCanonical registry (propertyAt node index) field.type) :
    AllCanonical registry node (.struct label fields) := by
  intro place part inside
  cases inside with
  | whole => exact canonical
  | field given inside => exact all _ _ given place part inside

/-- Constraints of the right kinds, if there are any, make a refinement of canonical form. -/
theorem refine {base : Descriptor} {constraints : List Constraint} {kinds : List Constraint.Kind}
    (all : AllCanonical registry node base) (narrows : Narrows base kinds)
    (ordered : (constraints.map Constraint.kind).Sublist kinds) :
    AllCanonical registry node (base.refine constraints) := by
  unfold Descriptor.refine Constraints.ofList?
  by_cases empty : constraints = []
  · simpa [empty] using all
  · rw [dif_pos empty]
    intro place part inside
    cases inside with
    | whole => exact ⟨empty, narrows.nodup.sublist ordered, _, narrows, ordered⟩
    | base inside => exact all place part inside

end AllCanonical

/-- A keyword adds one constraint of its kind, or none. -/
theorem kinds_optional {Item : Type} (make : Item → Constraint) {kind : Constraint.Kind}
    (same : ∀ item, (make item).kind = kind) (given : Option Item) :
    ((optional make given).map Constraint.kind).Sublist [kind] := by
  cases given with
  | none => exact List.nil_sublist _
  | some item => simp [optional, same]

/-- The keyword for patterns gives at most a pattern. -/
theorem kinds_patternConstraint {source : Option String} {constraints : List Constraint}
    (made : patternConstraint source = .ok constraints) :
    (constraints.map Constraint.kind).Sublist [.pattern] := by
  unfold patternConstraint at made
  split at made
  · obtain rfl := Except.ok.inj made
    exact List.nil_sublist _
  · split at made
    · obtain rfl := Except.ok.inj made
      exact List.Sublist.refl _
    · simp at made

/-- The keyword for formats gives at most a format. -/
theorem kinds_formatConstraint {registry : Registry} {name : Option String}
    {constraints : List Constraint} (made : formatConstraint registry name = .ok constraints) :
    (constraints.map Constraint.kind).Sublist [.format] := by
  unfold formatConstraint at made
  split at made
  · obtain rfl := Except.ok.inj made
    exact List.nil_sublist _
  · split at made
    · obtain rfl := Except.ok.inj made
      exact List.Sublist.refl _
    · simp at made

/-- A bound turns strict only where there is no strict bound of its own beside it. -/
theorem kinds_bound (weak strict : Binary64 → Constraint) {weakKind strictKind : Constraint.Kind}
    (isWeak : ∀ bound, (weak bound).kind = weakKind)
    (isStrict : ∀ bound, (strict bound).kind = strictKind)
    (flag : Bool) (given exclusive : Option Binary64) :
    ((optional (if (exclusive.isNone && flag) = true then strict else weak) given ++
      optional strict exclusive).map Constraint.kind).Sublist [weakKind, strictKind] := by
  rw [List.map_append]
  by_cases turned : (exclusive.isNone && flag) = true
  · have alone : exclusive = none := by simp_all
    rw [if_pos turned, alone]
    simpa [optional] using (kinds_optional strict isStrict given).cons weakKind
  · rw [if_neg turned]
    exact (kinds_optional weak isWeak given).append (kinds_optional strict isStrict exclusive)

/-- The keywords for bounds give each bound at most once, in one order. -/
theorem kinds_bounds {node : Node} {constraints : List Constraint}
    (made : bounds node = .ok constraints) :
    (constraints.map Constraint.kind).Sublist
      [.minimum, .exclusiveMinimum, .maximum, .exclusiveMaximum] := by
  unfold bounds at made
  simp only [bind_eq_ok, pure, Except.pure, Except.ok.injEq] at made
  obtain ⟨minimum, _, maximum, _, rfl⟩ := made
  have least := kinds_bound .minimum .exclusiveMinimum (fun _ => rfl) (fun _ => rfl)
    (node.flag "exclusiveMinimum") minimum (node.number? "exclusiveMinimum")
  have greatest := kinds_bound .maximum .exclusiveMaximum (fun _ => rfl) (fun _ => rfl)
    (node.flag "exclusiveMaximum") maximum (node.number? "exclusiveMaximum")
  rw [List.append_assoc, List.map_append]
  exact least.append greatest

section Nodes

variable {registry : Registry} {members : List (String × Value)} {name : String}
  {type : Descriptor}

/-- Types of strings are canonical. -/
theorem canonical_stringType (made : stringType registry ⟨members⟩ = .ok type) :
    AllCanonical registry (.object members) type := by
  unfold stringType at made
  split at made
  · split at made
    · obtain rfl := Except.ok.inj made
      exact .enumeration _
    · simp at made
  · simp only [bind_eq_ok, pure, Except.pure, Except.ok.injEq] at made
    obtain ⟨minLength, _, maxLength, _, source, _, pattern, ofPattern, name, _, format, ofFormat,
      rfl⟩ := made
    apply AllCanonical.refine (.primitive .string) .string
    rw [List.map_append, List.map_append, List.map_append]
    have lengths := (kinds_optional .minLength (fun _ => rfl) minLength).append
      (kinds_optional .maxLength (fun _ => rfl) maxLength)
    exact (lengths.append (kinds_patternConstraint ofPattern)).append
      (kinds_formatConstraint ofFormat)

/-- Types of numbers are canonical. -/
theorem canonical_numberType (made : numberType ⟨members⟩ = .ok type) :
    AllCanonical registry (.object members) type := by
  unfold numberType at made
  simp only [bind_eq_ok, pure, Except.pure, Except.ok.injEq] at made
  obtain ⟨constraints, ofBounds, rfl⟩ := made
  apply AllCanonical.refine (.primitive .number) .number
  rw [List.map_append]
  apply (kinds_bounds ofBounds).append
  split
  · exact List.Sublist.refl _
  · exact List.nil_sublist _

/-- Types of integers are canonical. -/
theorem canonical_integerType (made : integerType ⟨members⟩ = .ok type) :
    AllCanonical registry (.object members) type := by
  unfold integerType at made
  simp only [bind_eq_ok, pure, Except.pure, Except.ok.injEq] at made
  obtain ⟨constraints, ofBounds, rfl⟩ := made
  exact .refine (.primitive .integer) .integer (kinds_bounds ofBounds)

/-- A canonical type of lists stays canonical with bounds on their length. -/
theorem canonical_bounded {base : Descriptor}
    (all : AllCanonical registry (.object members) base)
    (narrows : Narrows base [.minItems, .maxItems])
    (made : arrayType.bounded ⟨members⟩ base = .ok type) :
    AllCanonical registry (.object members) type := by
  obtain ⟨least, greatest, _, _, rfl⟩ := bounded_eq_ok.mp made
  apply AllCanonical.refine all narrows
  rw [List.map_append]
  exact (kinds_optional .minItems (fun _ => rfl) least).append
    (kinds_optional .maxItems (fun _ => rfl) greatest)

/-- The types of the nested nodes of an object have their canonical form. -/
def NestedCanonical (registry : Registry) (members : List (String × Value)) : Prop :=
  ∀ node, Nested members node → ∀ type, compile registry node = .ok type →
    AllCanonical registry node type

/-- The keys of the fields are those of the properties, and each type is the one of its node. -/
theorem propertyTypes_forall₂ {properties : List (String × Value)}
    {found : List (String × Descriptor)}
    (given : members.lookup "properties" = some (.object properties))
    (made : propertyTypes registry members = .ok found) :
    List.Forall₂ (fun property member => property.1 = member.1 ∧
      compile registry property.2 = .ok member.2) properties found := by
  rw [propertyTypes_eq_lookup, given] at made
  apply (mapM_eq_ok.mp ((compileMembers_eq_mapM _ _).symm.trans made)).imp
  intro property member done
  obtain ⟨type, compiled, rfl⟩ := map_eq_ok.mp done
  exact ⟨rfl, compiled⟩

/-- Types of objects are canonical if the nested types are. -/
theorem canonical_objectType (nested : NestedCanonical registry members)
    (made : objectType ⟨members⟩ (fun _ => propertyTypes registry members) = .ok type) :
    AllCanonical registry (.object members) type := by
  rcases objectType_eq_ok made with ⟨-, rfl⟩ | ⟨property, rest, required, found, label, read, -,
    ofTypes, -, rfl⟩
  · exact .primitive .object
  · have given : members.lookup "properties" = some (.object (property :: rest)) :=
      properties_eq_some.mp read
    have each := propertyTypes_forall₂ given ofTypes
    apply AllCanonical.struct
    · constructor
      · intro empty
        have none := List.map_eq_nil_iff.mp empty
        rw [none] at each
        cases each
      · refine ⟨_, given, ?_⟩
        rw [List.map_map, ← List.forall₂_eq_eq_eq, List.forall₂_map_left_iff,
          List.forall₂_map_right_iff]
        exact each.flip.imp fun member property both => both.1.symm
      · intro field inside boolean
        obtain ⟨member, -, rfl⟩ := List.mem_map.mp inside
        have isBoolean : member.2 = .primitive .boolean := boolean
        rw [fieldOf, isBoolean]
        simp [Descriptor.isPrimitive]
    · intro index field there
      rw [List.getElem?_map, Option.map_eq_some_iff] at there
      obtain ⟨member, there, rfl⟩ := there
      obtain ⟨source, from_, -, compiled⟩ := exists_of_forall₂ each there
      have node : propertyAt (.object members) index = source.2 := by
        simp [propertyAt, Value.member?, given, from_]
      rw [node]
      exact nested source.2 (.property given (List.mem_of_getElem? from_)) member.2 compiled

/-- Types of arrays are canonical if the nested types are. -/
theorem canonical_arrayType (nested : NestedCanonical registry members)
    (made : arrayType ⟨members⟩ (fun _ => itemTypes registry members) = .ok type) :
    AllCanonical registry (.object members) type := by
  obtain ⟨items, types, -, ofTypes, shape⟩ := arrayType_eq_ok made
  rw [itemTypes_eq_lookup] at ofTypes
  split at ofTypes
  · obtain rfl := Except.ok.inj ofTypes
    exact canonical_bounded (.primitive .array) .array shape
  · rename_i nodes given
    obtain ⟨elements, compiled, rfl⟩ := map_eq_ok.mp ofTypes
    obtain rfl := shape
    have each := mapM_eq_ok.mp ((compileAll_eq_mapM _ _).symm.trans compiled)
    apply AllCanonical.tuple
    intro index element there
    obtain ⟨source, from_, made⟩ := exists_of_forall₂ each there
    have node : positionAt (.object members) index = source := by
      simp [positionAt, Value.member?, given, from_]
    rw [node]
    exact nested source (.position given (List.mem_of_getElem? from_)) element made
  · rename_i source _ given
    obtain ⟨element, compiled, rfl⟩ := map_eq_ok.mp ofTypes
    have node : itemsOf (.object members) = source := by
      simp [itemsOf, Value.member?, given]
    apply canonical_bounded _ (.list element) shape
    apply AllCanonical.list
    rw [node]
    exact nested source (.items given) element compiled

/-- The type for a name is canonical if the nested types are. -/
theorem canonical_typeFor (nested : NestedCanonical registry members)
    (made : typeFor registry members name = .ok type) :
    AllCanonical registry (.object members) type := by
  unfold typeFor at made
  cases read : TypeName.ofText name with
  | custom custom =>
      obtain ⟨free, rfl⟩ := ofText_eq_custom.mp read
      rw [read, namedType] at made
      split at made
      · rename_i target registered
        obtain rfl := Except.ok.inj made
        exact .custom free registered
      · simp at made
  | kind kind =>
      rw [read] at made
      cases kind with
      | null =>
          obtain rfl := Except.ok.inj made
          exact .primitive .null
      | boolean =>
          obtain rfl := Except.ok.inj made
          exact .primitive .boolean
      | string => exact canonical_stringType made
      | number => exact canonical_numberType made
      | integer => exact canonical_integerType made
      | object => exact canonical_objectType nested made
      | array => exact canonical_arrayType nested made

end Nodes

/-- Every type that a schema compiles to is canonical in all its parts. -/
theorem allCanonical {registry : Registry} {schema : Value} {type : Descriptor}
    (compiled : compile registry schema = .ok type) : AllCanonical registry schema type := by
  induction schema using nestedInduction generalizing type with
  | object members ih =>
      have nested : NestedCanonical registry members :=
        fun node inside type compiled => ih node inside compiled
      rcases compile_object_eq_ok.mp compiled with
        ⟨-, rfl⟩ | ⟨name, -, made⟩ | ⟨names, alternatives, -, each, rfl⟩
      · exact .primitive .any
      · exact canonical_typeFor nested made
      · apply AllCanonical.union
        intro alternative inside
        obtain ⟨index, there⟩ := List.mem_iff_getElem?.mp inside
        obtain ⟨name, -, made⟩ := exists_of_forall₂ each there
        exact canonical_typeFor nested made
  | other found noMembers => cases found <;> simp_all [compile, Value.members?]

/-- Every part of a compiled type, up to the targets of named types, has its canonical form. -/
theorem canonical_of_part {registry : Registry} {schema : Value} {type : Descriptor}
    (compiled : compile registry schema = .ok type) {place : Value} {part : Descriptor}
    (inside : Part schema type place part) : Canonical registry place part :=
  allCanonical compiled place part inside

/-- A bound that a flag makes strict, for a property of one of two alternatives. -/
theorem canonical_of_strict_part :
    let size := Value.object [("type", .string "number"), ("integer", .boolean true),
      ("exclusiveMinimum", .boolean true), ("minimum", .number (.integer 1 (by decide)))]
    let schema := Value.object [("type", .array [.string "null", .string "object"]),
      ("properties", .object [("flag", .object [("type", .string "boolean")]), ("size", size)])]
    let narrowed := Descriptor.refinement (.primitive .number)
      ⟨[.exclusiveMinimum (.ofInt 1), .integral], by simp⟩
    let type := Descriptor.union [.primitive .null,
      .struct none [⟨"flag", .primitive .boolean, false⟩, ⟨"size", narrowed, true⟩]]
    compile .empty schema = .ok type ∧ Part schema type size narrowed ∧
      Canonical .empty size narrowed := by
  intro size schema narrowed type
  have compiled : compile .empty schema = .ok type := rfl
  have inside : Part schema type size narrowed := by
    apply Part.alternative (List.mem_cons_of_mem _ (List.mem_singleton.mpr rfl))
    have given : [(⟨"flag", .primitive .boolean, false⟩ : Field Descriptor),
        ⟨"size", narrowed, true⟩][1]? = some ⟨"size", narrowed, true⟩ := rfl
    exact .field given (.whole size narrowed)
  exact ⟨compiled, inside, canonical_of_part compiled inside⟩

end Schema

end TypedJson
