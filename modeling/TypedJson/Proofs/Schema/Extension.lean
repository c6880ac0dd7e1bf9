import TypedJson.Proofs.Schema.Compile

namespace TypedJson

open Json (Value)

/-- All formats and types that the smaller registry finds are found with the same value. -/
structure Registry.Extends (larger smaller : Registry) : Prop where
  formats : ∀ name format, smaller.format? name = some format →
    larger.format? name = some format
  types : ∀ name type, smaller.type? name = some type → larger.type? name = some type

/-- Whether the error is that a type or a format is not registered. -/
def Error.isUnknownName : Error → Bool
  | .unknownType _ _ => true
  | .unknownFormat _ => true
  | _ => false

/-- A result that more registered names cannot change: it is the same, or for want of a name. -/
def Persists {Item : Type} (result other : Except Error Item) : Prop :=
  other = result ∨ ∃ error, result = .error error ∧ error.isUnknownName = true

namespace Persists

variable {First Second : Type}

theorem same (result : Except Error First) : Persists result result := .inl rfl

/-- A failure for an unknown name may become anything. -/
theorem unknown {error : Error} (name : error.isUnknownName = true)
    (other : Except Error First) : Persists (.error error) other := .inr ⟨error, rfl, name⟩

/-- A success persists as the same success. -/
theorem eq_ok {result other : Except Error First} {value : First}
    (persists : Persists result other) (isOk : result = .ok value) : other = .ok value := by
  rcases persists with same | ⟨error, failed, -⟩
  · rw [same, isOk]
  · simp [failed] at isOk

theorem bind {result other : Except Error First} {next nextOther : First → Except Error Second}
    (persists : Persists result other) (each : ∀ value, Persists (next value) (nextOther value)) :
    Persists (result >>= next) (other >>= nextOther) := by
  rcases persists with rfl | ⟨error, rfl, name⟩
  · cases other with
    | error error => exact same _
    | ok value => exact each value
  · exact unknown name _

theorem map {result other : Except Error First} (persists : Persists result other)
    (change : First → Second) : Persists (result.map change) (other.map change) := by
  rcases persists with rfl | ⟨error, rfl, name⟩
  · exact same _
  · exact unknown name _

theorem mapM {work otherWork : First → Except Error Second} {items : List First}
    (each : ∀ item ∈ items, Persists (work item) (otherWork item)) :
    Persists (items.mapM work) (items.mapM otherWork) := by
  induction items with
  | nil => exact same _
  | cons item rest ih =>
      rw [List.forall_mem_cons] at each
      rw [List.mapM_cons, List.mapM_cons]
      apply each.1.bind
      intro first
      apply (ih each.2).bind
      intro others
      exact same _

end Persists

namespace Schema

variable {smaller larger : Registry}

/-- Types of strings persist in a larger registry. -/
theorem persists_stringType (extension : larger.Extends smaller) (node : Node) :
    Persists (stringType smaller node) (stringType larger node) := by
  have format (name : Option String) :
      Persists (formatConstraint smaller name) (formatConstraint larger name) := by
    cases name with
    | none => exact .same _
    | some name =>
        unfold formatConstraint
        dsimp only
        cases found : smaller.format? name with
        | none => exact .unknown rfl _
        | some format =>
            rw [extension.formats name format found]
            exact .same _
  unfold stringType
  split
  · exact .same _
  · -- all that comes before the format reads the node alone
    apply (Persists.same _).bind
    intro minLength
    apply (Persists.same _).bind
    intro maxLength
    apply (Persists.same _).bind
    intro source
    apply (Persists.same _).bind
    intro pattern
    apply (Persists.same _).bind
    intro name
    apply (format name).bind
    intro constraints
    exact .same _

/-- Types of objects persist if the types of their properties do. -/
theorem persists_objectType (node : Node)
    {types otherTypes : Except Error (List (String × Descriptor))}
    (persists : Persists types otherTypes) :
    Persists (objectType node fun _ => types) (objectType node fun _ => otherTypes) := by
  unfold objectType
  apply (Persists.same _).bind
  intro properties
  split
  · exact .same _
  · exact .same _
  · apply (Persists.same _).bind
    intro required
    apply persists.bind
    intro types
    exact .same _

/-- Types of arrays persist if the types of their items do. -/
theorem persists_arrayType (node : Node) {types otherTypes : Except Error ItemTypes}
    (persists : Persists types otherTypes) :
    Persists (arrayType node fun _ => types) (arrayType node fun _ => otherTypes) := by
  unfold arrayType
  apply (Persists.same _).bind
  intro items
  apply persists.bind
  intro types
  exact .same _

/-- The types of properties persist if those of nested nodes do. -/
theorem persists_propertyTypes {members : List (String × Value)}
    (each : ∀ node, Nested members node → Persists (compile smaller node) (compile larger node)) :
    Persists (propertyTypes smaller members) (propertyTypes larger members) := by
  rw [propertyTypes_eq_lookup, propertyTypes_eq_lookup]
  split
  · rename_i properties given
    rw [compileMembers_eq_mapM, compileMembers_eq_mapM]
    apply Persists.mapM
    intro property inside
    exact (each property.2 (.property given inside)).map _
  · exact .same _

/-- The types of items persist if those of nested nodes do. -/
theorem persists_itemTypes {members : List (String × Value)}
    (each : ∀ node, Nested members node → Persists (compile smaller node) (compile larger node)) :
    Persists (itemTypes smaller members) (itemTypes larger members) := by
  rw [itemTypes_eq_lookup, itemTypes_eq_lookup]
  split
  · exact .same _
  · rename_i nodes given
    rw [compileAll_eq_mapM, compileAll_eq_mapM]
    apply Persists.map
    apply Persists.mapM
    intro node inside
    exact each node (.position given inside)
  · rename_i node _ given
    exact (each node (.items given)).map _

/-- The type for a name persists if those of nested nodes do. -/
theorem persists_namedType (extension : larger.Extends smaller) {members : List (String × Value)}
    (each : ∀ node, Nested members node → Persists (compile smaller node) (compile larger node))
    (name : TypeName) :
    Persists
      (namedType smaller ⟨members⟩ (fun _ => propertyTypes smaller members)
        (fun _ => itemTypes smaller members) name)
      (namedType larger ⟨members⟩ (fun _ => propertyTypes larger members)
        (fun _ => itemTypes larger members) name) := by
  cases name with
  | custom custom =>
      unfold namedType
      dsimp only
      cases found : smaller.type? custom with
      | none => exact .unknown rfl _
      | some target =>
          rw [extension.types custom target found]
          exact .same _
  | kind kind =>
      cases kind with
      | null => exact .same _
      | boolean => exact .same _
      | string => exact persists_stringType extension ⟨members⟩
      | number => exact .same _
      | integer => exact .same _
      | object => exact persists_objectType ⟨members⟩ (persists_propertyTypes each)
      | array => exact persists_arrayType ⟨members⟩ (persists_itemTypes each)

/-- What a schema compiles to persists in a larger registry. -/
theorem persists_compile (extension : larger.Extends smaller) (schema : Value) :
    Persists (compile smaller schema) (compile larger schema) := by
  induction schema using nestedInduction with
  | object members ih =>
      have named := persists_namedType extension ih
      rw [compile, compile]
      apply (Persists.same _).bind
      intro field
      cases field with
      | absent => exact .same _
      | one name => exact named name
      | many names =>
          apply (Persists.mapM fun name _ => named name).bind
          intro types
          exact .same _
  | other found noMembers =>
      cases found with
      | object => simp [Value.members?] at noMembers
      | _ => exact .same _

/--
What compiles under a registry compiles to the same type under a larger one, and what fails for
another reason than an unknown name fails for the same reason.
-/
theorem compile_of_extension (extension : larger.Extends smaller) (schema : Value) :
    (∀ type, compile smaller schema = .ok type → compile larger schema = .ok type) ∧
      ∀ error, compile smaller schema = .error error → error.isUnknownName = false →
        compile larger schema = .error error := by
  have persists := persists_compile extension schema
  constructor
  · intro type compiled
    rcases persists with same | ⟨error, failed, -⟩
    · rw [same, compiled]
    · simp [failed] at compiled
  · intro error failed known
    rcases persists with same | ⟨other, otherFailed, name⟩
    · rw [same, failed]
    · obtain rfl := Except.error.inj (failed.symm.trans otherFailed)
      simp [known] at name

/-- A type that was not known before does not hide the fault that comes before it in a schema. -/
theorem compile_with_money :
    let larger : Registry := ⟨Format.standard, [("Money", .primitive .number)]⟩
    let valid := Value.object [("type", .string "string"), ("format", .string "uuid")]
    let faulty := Value.object [("type", .array [.string "string", .string "Money"]),
      ("maxLength", .null)]
    larger.Extends .standard ∧ (∃ type, compile .standard valid = .ok type ∧
      compile larger valid = .ok type) ∧
      compile larger faulty = .error (.badKeyword "maxLength" .count) := by
  intro larger valid faulty
  have extension : larger.Extends .standard := by
    constructor
    · intro name format found
      exact found
    · intro name type found
      simp [Registry.standard, Registry.type?] at found
  have compiled : compile .standard valid = .ok (Descriptor.refine (.primitive .string)
      [.format ⟨"uuid", Format.isUniqueIdentifier⟩]) := rfl
  have failed : compile .standard faulty = .error (.badKeyword "maxLength" .count) := rfl
  exact ⟨extension, ⟨_, compiled, (compile_of_extension extension valid).1 _ compiled⟩,
    (compile_of_extension extension faulty).2 _ failed rfl⟩

end Schema

end TypedJson
