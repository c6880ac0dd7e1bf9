import TypedJson.Proofs.Json.Members
import TypedJson.Proofs.Schema.Fault
import TypedJson.Proofs.Schema.Keywords
import TypedJson.Proofs.Result

namespace TypedJson

open Json (Value setMember lookup_setMember lookup_setMember_of_ne setMember_setMember)

namespace Schema

/-- A node with one name for its type. -/
def alone (members : List (String × Value)) (name : String) : Value :=
  .object (setMember "type" (.string name) members)

/-- A node with a list of names for its type. -/
def listed (members : List (String × Value)) (names : List String) : Value :=
  .object (setMember "type" (.array (names.map .string)) members)

/--
The error for a name alone and the one for a list with the name. They are the same, unless the
name itself is unknown: then each shows its own node.
-/
inductive CarriesOver (members : List (String × Value)) (name : String) : Error → Error → Prop
  | unknown : CarriesOver members name (.unknownType name (alone members name))
      (.unknownType name (.object members))
  | same {error : Error} (different : error ≠ .unknownType name (alone members name)) :
      CarriesOver members name error error

section

variable {registry : Registry} {members : List (String × Value)} {name : String}
  {names : List String}

/-- A single name stands for its type. -/
theorem compile_of_name (given : members.lookup "type" = some (.string name)) :
    compile registry (.object members) = typeFor registry members name := by
  simp only [compile, Node.typeField, Node.get?, given]
  rfl

/-- A list of texts is read as the names that they are. -/
theorem typeNames_texts (node : Node) (names : List String) :
    node.typeNames (names.map .string) = .ok (names.map TypeName.ofText) :=
  typeNames_eq_ok.mpr ⟨names, rfl, rfl⟩

/-- A list of names stands for the union of their types. -/
theorem compile_of_names (given : members.lookup "type" = some (.array (names.map .string))) :
    compile registry (.object members) =
      (names.mapM (typeFor registry members)).map .union := by
  have work : (names.map TypeName.ofText).mapM (namedType registry ⟨members⟩
        (fun _ => propertyTypes registry members) (fun _ => itemTypes registry members)) =
      names.mapM (typeFor registry members) := List.mapM_map
  simp only [compile, Node.typeField, Node.get?, given, typeNames_texts]
  change ((names.map TypeName.ofText).mapM _ : Except Error _) >>= _ = _
  rw [work]
  cases names.mapM (typeFor registry members) <;> rfl

/-- A name alone stands for its type in the node with that name. -/
theorem compile_alone (registry : Registry) (members : List (String × Value)) (name : String) :
    compile registry (alone members name) =
      typeFor registry (setMember "type" (.string name) members) name :=
  compile_of_name (lookup_setMember _ _ _)

/-- No kind sees another value of the keyword `type`. -/
theorem agree_setMember_type (value : Value) (kind : Kind) :
    Agree kind.keywords (setMember "type" value members) members := by
  intro keyword inside
  apply lookup_setMember_of_ne
  rintro rfl
  exact kind.type_notMem_keywords inside

/-- The name of a kind makes the same of a node whatever other type the node has. -/
theorem compile_alone_kind (registry : Registry) (members : List (String × Value)) (kind : Kind) :
    compile registry (alone members kind.name) = typeFor registry members kind.name := by
  rw [compile_alone, typeFor_congr (agree_setMember_type _ kind)]

/-- A name that is no kind stands for the registered type of this name. -/
theorem typeFor_free (free : Kind.isReserved name = false) :
    typeFor registry members name =
      match registry.type? name with
      | some target => .ok (.custom name target)
      | none => .error (.unknownType name (.object members)) := by
  rw [typeFor, ofText_eq_custom.mpr ⟨free, rfl⟩]
  rfl

/-- A node blames a name of its own type only if that is not the name of a kind. -/
theorem free_of_unknown {node : Value}
    (failed : compile registry node = .error (.unknownType name node)) :
    Kind.isReserved name = false := by
  obtain ⟨raised, -, raises⟩ := exists_raises failed
  cases raises.own with
  | named kind fault =>
      cases fault with
      | custom free unknown => exact free

/-- In a list a name makes what it makes alone, or it is unknown and both nodes blame it. -/
theorem typeFor_cases (registry : Registry) (members : List (String × Value)) (name : String) :
    typeFor registry members name = compile registry (alone members name) ∧
        (∀ error, typeFor registry members name = .error error →
          error ≠ .unknownType name (alone members name)) ∨
      typeFor registry members name = .error (.unknownType name (.object members)) ∧
        compile registry (alone members name) =
          .error (.unknownType name (alone members name)) := by
  cases read : TypeName.ofText name with
  | kind kind =>
      obtain rfl := ofText_eq_kind.mp read
      left
      have same := compile_alone_kind registry members kind
      refine ⟨same.symm, ?_⟩
      rintro error failed rfl
      rw [← same] at failed
      have free := free_of_unknown failed
      rw [ofText_eq_custom.mpr ⟨free, Eq.refl kind.name⟩] at read
      simp at read
  | custom custom =>
      obtain ⟨free, -⟩ := ofText_eq_custom.mp read
      rw [compile_alone, typeFor_free free, typeFor_free free]
      cases registry.type? name with
      | some target => simp
      | none => exact .inr ⟨rfl, rfl⟩

/-- A name in a list stands for what it stands for alone. -/
theorem typeFor_eq_ok_iff {type : Descriptor} :
    typeFor registry members name = .ok type ↔
      compile registry (alone members name) = .ok type := by
  obtain ⟨same, -⟩ | ⟨inList, apart⟩ := typeFor_cases registry members name
  · rw [same]
  · simp [inList, apart]

/-- A name in a list fails as it fails alone, up to the node that an unknown name shows. -/
theorem typeFor_eq_error_iff {error : Error} :
    typeFor registry members name = .error error ↔
      ∃ other, compile registry (alone members name) = .error other ∧
        CarriesOver members name other error := by
  obtain ⟨same, different⟩ | ⟨inList, apart⟩ := typeFor_cases registry members name
  · constructor
    · intro failed
      exact ⟨error, same ▸ failed, .same (different error failed)⟩
    · rintro ⟨other, failed, carries⟩
      rw [← same] at failed
      cases carries with
      | unknown => exact absurd rfl (different _ failed)
      | same _ => exact failed
  · constructor
    · intro failed
      obtain rfl := Except.error.inj (inList.symm.trans failed)
      exact ⟨_, apart, .unknown⟩
    · rintro ⟨other, failed, carries⟩
      obtain rfl := Except.error.inj (apart.symm.trans failed)
      cases carries with
      | unknown => exact inList
      | same different => exact absurd rfl different

/-- A list of names compiles to the union of what its names compile to alone. -/
theorem compile_names_eq_ok_iff
    (given : members.lookup "type" = some (.array (names.map .string))) {type : Descriptor} :
    compile registry (.object members) = .ok type ↔
      ∃ alternatives, List.Forall₂ (fun name alternative =>
        compile registry (alone members name) = .ok alternative) names alternatives ∧
        type = .union alternatives := by
  simp only [compile_of_names given, map_eq_ok, mapM_eq_ok, typeFor_eq_ok_iff, eq_comm (a := type)]

/-- A list of names compiles if each of its names compiles alone. -/
theorem compile_names_succeeds_iff
    (given : members.lookup "type" = some (.array (names.map .string))) :
    (∃ type, compile registry (.object members) = .ok type) ↔
      ∀ name ∈ names, ∃ type, compile registry (alone members name) = .ok type := by
  simp only [compile_of_names given, map_succeeds_iff, mapM_succeeds_iff, typeFor_eq_ok_iff]

/-- A list of names fails as the first of its names that fails alone. -/
theorem compile_names_eq_error_iff
    (given : members.lookup "type" = some (.array (names.map .string))) {error : Error} :
    compile registry (.object members) = .error error ↔
      ∃ before name after other, names = before ++ name :: after ∧
        (∀ earlier ∈ before, ∃ type, compile registry (alone members earlier) = .ok type) ∧
        compile registry (alone members name) = .error other ∧
        CarriesOver members name other error := by
  have failure : compile registry (.object members) = .error error ↔
      names.mapM (typeFor registry members) = .error error := by
    rw [compile_of_names given]
    cases names.mapM (typeFor registry members) <;> simp [Except.map]
  simp only [failure, mapM_eq_error, typeFor_eq_ok_iff, typeFor_eq_error_iff]
  constructor
  · rintro ⟨before, name, after, split, fine, other, failed, carries⟩
    exact ⟨before, name, after, other, split, fine, failed, carries⟩
  · rintro ⟨before, name, after, other, split, fine, failed, carries⟩
    exact ⟨before, name, after, split, fine, other, failed, carries⟩

/-- The union accepts what one of the names alone accepts. -/
theorem accepts_names_iff (given : members.lookup "type" = some (.array (names.map .string)))
    {type : Descriptor} (compiled : compile registry (.object members) = .ok type)
    (value : Value) :
    type.accepts value = true ↔ ∃ name ∈ names, ∃ alternative,
      compile registry (alone members name) = .ok alternative ∧
        alternative.accepts value = true := by
  obtain ⟨alternatives, each, rfl⟩ := (compile_names_eq_ok_iff given).mp compiled
  rw [Descriptor.accepts, Descriptor.acceptsAny_eq_any, List.any_eq_true]
  constructor
  · rintro ⟨alternative, inside, accepted⟩
    obtain ⟨name, among, made⟩ := exists_left_of_forall₂ each inside
    exact ⟨name, among, alternative, made, accepted⟩
  · rintro ⟨name, among, alternative, made, accepted⟩
    obtain ⟨other, inside, madeOther⟩ := exists_left_of_forall₂ each.flip among
    obtain rfl := Except.ok.inj (made.symm.trans madeOther)
    exact ⟨alternative, inside, accepted⟩

/-- A name alone does not see what the keyword `type` was before. -/
theorem alone_setMember_type (value : Value) :
    alone (setMember "type" value members) name = alone members name := by
  rw [alone, alone, setMember_setMember]

end

/--
A list of names compiles exactly if each name alone does, to the union of what these compile to, in
order; or it fails as the first name that fails alone. So only the set of the names decides
whether a node compiles and which values it accepts.
-/
theorem compile_as_each_alone (registry : Registry) {members : List (String × Value)}
    {names : List String} (given : members.lookup "type" = some (.array (names.map .string))) :
    ((∃ type, compile registry (.object members) = .ok type) ↔
        ∀ name ∈ names, ∃ type, compile registry (alone members name) = .ok type) ∧
      (∀ type, compile registry (.object members) = .ok type ↔
        ∃ alternatives, List.Forall₂ (fun name alternative =>
          compile registry (alone members name) = .ok alternative) names alternatives ∧
          type = .union alternatives) ∧
      (∀ error, compile registry (.object members) = .error error ↔
        ∃ before name after other, names = before ++ name :: after ∧
          (∀ earlier ∈ before, ∃ type, compile registry (alone members earlier) = .ok type) ∧
          compile registry (alone members name) = .error other ∧
          CarriesOver members name other error) ∧
      ∀ others : List String, (∀ name, name ∈ others ↔ name ∈ names) →
        ((∃ type, compile registry (listed members others) = .ok type) ↔
          ∃ type, compile registry (.object members) = .ok type) ∧
        ∀ type otherType, compile registry (.object members) = .ok type →
          compile registry (listed members others) = .ok otherType →
            ∀ value, otherType.accepts value = type.accepts value := by
  refine ⟨compile_names_succeeds_iff given, fun type => compile_names_eq_ok_iff given,
    fun error => compile_names_eq_error_iff given, ?_⟩
  intro others sameNames
  have givenOthers := lookup_setMember "type" (Value.array (others.map .string)) members
  constructor
  · rw [listed, compile_names_succeeds_iff givenOthers, compile_names_succeeds_iff given]
    simp only [alone_setMember_type, sameNames]
  · intro type otherType compiled compiledOther value
    rw [Bool.eq_iff_iff, accepts_names_iff givenOthers compiledOther,
      accepts_names_iff given compiled]
    simp only [alone_setMember_type, sameNames]

/-- Money or a text, in the other order and with a repetition, and where money is unknown. -/
theorem compile_moneyOrText_as_each_alone :
    let money := (Descriptor.primitive .number).refine [.minimum (.ofInt 0)]
    let registry : Registry := ⟨Format.standard, [("Money", money)]⟩
    let node := [("type", Value.array [.string "Money", .string "string"]),
      ("minLength", .number (.integer 2 (by decide)))]
    (∃ type otherType, compile registry (.object node) = .ok type ∧
      compile registry (listed node ["string", "Money", "string"]) = .ok otherType ∧
        ∀ value, otherType.accepts value = type.accepts value) ∧
      compile .empty (.object node) = .error (.unknownType "Money" (.object node)) := by
  intro money registry node
  have given : node.lookup "type" = some (.array (["Money", "string"].map .string)) := rfl
  constructor
  · obtain ⟨-, -, -, others⟩ := compile_as_each_alone registry given
    have same : ∀ name, name ∈ ["string", "Money", "string"] ↔ name ∈ ["Money", "string"] := by
      simp [or_comm]
    exact ⟨_, _, rfl, rfl, (others _ same).2 _ _ rfl rfl⟩
  · obtain ⟨-, -, failure, -⟩ := compile_as_each_alone .empty given
    exact (failure _).mpr ⟨[], "Money", ["string"], _, rfl, by simp, rfl, .unknown⟩

end Schema

end TypedJson
