import TypedJson.Proofs.Registry.File
import TypedJson.Proofs.Schema.Extension

namespace TypedJson

open Json (Value)

/-- Two registries in which every format and every type is found with the same value. -/
structure Registry.SameLookups (first second : Registry) : Prop where
  formats : ∀ name, first.format? name = second.format? name
  types : ∀ name, first.type? name = second.type? name

namespace Registry.Extends

theorem refl (registry : Registry) : registry.Extends registry :=
  ⟨fun _ _ found => found, fun _ _ found => found⟩

theorem trans {first second third : Registry} (later : third.Extends second)
    (earlier : second.Extends first) : third.Extends first where
  formats name format found := later.formats name format (earlier.formats name format found)
  types name type found := later.types name type (earlier.types name type found)

/-- Registries that extend each other look up the same. -/
theorem sameLookups {first second : Registry} (left : first.Extends second)
    (right : second.Extends first) : first.SameLookups second where
  formats name := by
    apply Option.ext
    intro format
    exact ⟨right.formats name format, left.formats name format⟩
  types name := by
    apply Option.ext
    intro type
    exact ⟨right.types name type, left.types name type⟩

end Registry.Extends

namespace Schema

variable {first second : Registry}

theorem formatConstraint_congr (same : first.SameLookups second) (name : Option String) :
    formatConstraint first name = formatConstraint second name := by
  cases name with
  | none => rfl
  | some name => rw [formatConstraint, formatConstraint, same.formats]

theorem namedType_congr (same : first.SameLookups second) (node : Node)
    (properties : Unit → Except Error (List (String × Descriptor)))
    (items : Unit → Except Error ItemTypes) :
    namedType first node properties items = namedType second node properties items := by
  funext name
  cases name with
  | custom name => rw [namedType, namedType, same.types]
  | kind kind =>
      cases kind with
      | string =>
          have formats : formatConstraint first = formatConstraint second :=
            funext (formatConstraint_congr same)
          rw [namedType, namedType, stringType, stringType, formats]
      | _ => rfl

theorem propertyTypes_congr {members : List (String × Value)}
    (each : ∀ node, Nested members node → compile first node = compile second node) :
    propertyTypes first members = propertyTypes second members := by
  rw [propertyTypes_eq_lookup, propertyTypes_eq_lookup]
  split
  · rename_i properties given
    rw [compileMembers_eq_mapM, compileMembers_eq_mapM]
    apply mapM_congr
    intro property inside
    rw [each property.2 (.property given inside)]
  · rfl

theorem itemTypes_congr {members : List (String × Value)}
    (each : ∀ node, Nested members node → compile first node = compile second node) :
    itemTypes first members = itemTypes second members := by
  rw [itemTypes_eq_lookup, itemTypes_eq_lookup]
  split
  · rfl
  · rename_i nodes given
    rw [compileAll_eq_mapM, compileAll_eq_mapM]
    congr 1
    apply mapM_congr
    intro node inside
    exact each node (.position given inside)
  · rename_i node _ given
    rw [each node (.items given)]

/-- Compilation reads nothing of a registry but what it finds under names. -/
theorem compile_congr (same : first.SameLookups second) (schema : Value) :
    compile first schema = compile second schema := by
  induction schema using nestedInduction with
  | object members ih =>
      rw [compile, compile, propertyTypes_congr ih, itemTypes_congr ih, namedType_congr same]
  | other found noMembers =>
      cases found with
      | object => simp [Value.members?] at noMembers
      | _ => rfl

end Schema

namespace RegistryFile

variable {registry result : Registry}

/-- A type that is put at the end is found if none of its name comes before. -/
theorem type?_append (types : List (String × Descriptor)) (formats : List Format)
    (name other : String) (type : Descriptor) :
    Registry.type? ⟨formats, types ++ [(name, type)]⟩ other =
      (Registry.type? ⟨formats, types⟩ other).or (if other = name then some type else none) := by
  rw [Registry.type?, Registry.type?, List.lookup_append]
  by_cases same : other = name
  · simp [same]
  · simp [same, List.lookup_cons, beq_false_of_ne same]

/-- A definition adds one type, which is found under its name only. -/
theorem define_eq_ok {entry : String × Value} (defined : define registry entry = .ok result) :
    ∃ type, Schema.compile registry entry.2 = .ok type ∧ registry.type? entry.1 = none ∧
      result.formats = registry.formats ∧
      ∀ name, result.type? name =
        (registry.type? name).or (if name = entry.1 then some type else none) := by
  obtain ⟨type, compiled, -⟩ := bind_eq_ok.mp defined
  have new := (typeNames_of_define defined).1
  rw [define_of_compile compiled] at defined
  have absent : registry.type? entry.1 = none := by
    rw [← Option.not_isSome_iff_eq_none, registry.type?_isSome_iff]
    exact new
  refine ⟨type, compiled, absent, ?_⟩
  obtain ⟨known, -⟩ | ⟨-, -, refused⟩ | ⟨-, -, made⟩ := registry.registerType_cases entry.1 type
  · exact absurd known new
  · simp [refused, Except.map] at defined
  · rw [made] at defined
    obtain rfl := Except.ok.inj defined
    exact ⟨rfl, fun name => type?_append _ _ _ _ _⟩

/-- A definition extends the registry. -/
theorem extends_of_define {entry : String × Value} (defined : define registry entry = .ok result) :
    result.Extends registry := by
  obtain ⟨type, -, -, formats, types⟩ := define_eq_ok defined
  constructor
  · intro name format found
    rw [Registry.format?, formats]
    exact found
  · intro name type found
    rw [types, found, Option.some_or]

/-- Definitions one after the other extend the registry. -/
theorem extends_of_foldlM {entries : List (String × Value)}
    (defined : entries.foldlM define registry = .ok result) : result.Extends registry := by
  induction entries generalizing registry with
  | nil =>
      obtain rfl := Except.ok.inj defined
      exact .refl _
  | cons entry rest ih =>
      rw [List.foldlM_cons] at defined
      obtain ⟨middle, first, others⟩ := bind_eq_ok.mp defined
      exact (ih others).trans (extends_of_define first)

/-- In the end each entry stands for the type that its schema has among all the types. -/
theorem type?_of_foldlM {entries : List (String × Value)}
    (defined : entries.foldlM define registry = .ok result) {entry : String × Value}
    (inside : entry ∈ entries) :
    ∃ type, result.type? entry.1 = some type ∧ Schema.compile result entry.2 = .ok type := by
  induction entries generalizing registry with
  | nil => simp at inside
  | cons head rest ih =>
      rw [List.foldlM_cons] at defined
      obtain ⟨middle, first, others⟩ := bind_eq_ok.mp defined
      rcases List.mem_cons.mp inside with rfl | inside
      · obtain ⟨type, compiled, absent, -, types⟩ := define_eq_ok first
        have after := extends_of_foldlM others
        have all := after.trans (extends_of_define first)
        refine ⟨type, after.types _ _ ?_, (Schema.persists_compile all entry.2).eq_ok compiled⟩
        rw [types, absent, Option.none_or, if_pos rfl]
      · exact ih others inside

/--
A registry that knows the types of all entries, as their schemas compile in it, knows what the
definition of these entries one by one leads to.
-/
theorem extends_of_complete {entries : List (String × Value)} {complete : Registry}
    (start : complete.Extends registry)
    (each : ∀ entry ∈ entries, ∃ type, complete.type? entry.1 = some type ∧
      Schema.compile complete entry.2 = .ok type)
    (defined : entries.foldlM define registry = .ok result) : complete.Extends result := by
  induction entries generalizing registry with
  | nil =>
      obtain rfl := Except.ok.inj defined
      exact start
  | cons entry rest ih =>
      rw [List.foldlM_cons] at defined
      obtain ⟨middle, first, others⟩ := bind_eq_ok.mp defined
      rw [List.forall_mem_cons] at each
      refine ih ?_ each.2 others
      obtain ⟨type, compiled, -, formats, types⟩ := define_eq_ok first
      obtain ⟨known, found, compiledKnown⟩ := each.1
      -- the schema of the entry had its type before most of the others were there
      have same := (Schema.persists_compile start entry.2).eq_ok compiled
      obtain rfl := Except.ok.inj (same.symm.trans compiledKnown)
      constructor
      · intro name format given
        rw [Registry.format?, formats] at given
        exact start.formats name format given
      · intro name other given
        rw [types, Option.or_eq_some_iff] at given
        rcases given with given | ⟨-, given⟩
        · exact start.types name other given
        · split at given
          · rename_i isName
            rw [isName, found, given]
          · simp at given

/-- A file is built by defining its types in order. -/
theorem defineAll_of_build {file : RegistryFile} (built : file.build = .ok registry) :
    defineAll file.standardFormats file.types = .ok registry := by
  rw [defineAll, ← registerAll_eq_foldlM, ← build, built]
  rfl

/-- Whatever one order of types defines the other one defines as well. -/
theorem extends_of_perm {first second : RegistryFile} {left right : Registry}
    (formats : first.standardFormats = second.standardFormats)
    (types : first.types.Perm second.types) (firstBuilt : first.build = .ok left)
    (secondBuilt : second.build = .ok right) : left.Extends right := by
  have firstDefined := defineAll_of_build firstBuilt
  have secondDefined := defineAll_of_build secondBuilt
  rw [← formats] at secondDefined
  apply extends_of_complete (extends_of_foldlM firstDefined) ?_ secondDefined
  intro entry inside
  exact type?_of_foldlM firstDefined (types.mem_iff.mpr inside)

/--
The order of the types in a file does not matter where all can be registered: each name stands for
the same type, and each schema compiles to the same type or fails for the same reason.
-/
theorem build_of_perm {first second : RegistryFile} {left right : Registry}
    (formats : first.standardFormats = second.standardFormats)
    (types : first.types.Perm second.types) (firstBuilt : first.build = .ok left)
    (secondBuilt : second.build = .ok right) :
    (∀ name, left.type? name = right.type? name) ∧
      ∀ schema, Schema.compile left schema = Schema.compile right schema := by
  have forward := extends_of_perm formats types firstBuilt secondBuilt
  have backward := extends_of_perm formats.symm types.symm secondBuilt firstBuilt
  have same := forward.sameLookups backward
  exact ⟨same.types, Schema.compile_congr same⟩

/-- The price is moved before the days, of which the second names the first. -/
theorem build_of_moved_price :
    let day := Value.object [("type", .string "string"), ("format", .string "date")]
    let days := Value.object [("type", .string "array"),
      ("items", .object [("type", .string "Day")])]
    let price := Value.object [("type", .string "number")]
    let first : RegistryFile := ⟨true, [("Day", day), ("Days", days), ("Price", price)]⟩
    let second : RegistryFile := ⟨true, [("Price", price), ("Day", day), ("Days", days)]⟩
    first.types.Perm second.types ∧ ∃ left right, first.build = .ok left ∧
      second.build = .ok right ∧ left.typeNames ≠ right.typeNames ∧
      (∀ name, left.type? name = right.type? name) ∧
      ∀ schema, Schema.compile left schema = Schema.compile right schema := by
  intro day days price first second
  have types : first.types.Perm second.types :=
    @List.perm_append_comm _ [("Day", day), ("Days", days)] [("Price", price)]
  obtain ⟨left, firstBuilt⟩ : ∃ left, first.build = .ok left := ⟨_, rfl⟩
  obtain ⟨right, secondBuilt⟩ : ∃ right, second.build = .ok right := ⟨_, rfl⟩
  have different : left.typeNames ≠ right.typeNames := by
    obtain rfl := Except.ok.inj firstBuilt
    obtain rfl := Except.ok.inj secondBuilt
    decide
  have formats : first.standardFormats = second.standardFormats := rfl
  exact ⟨types, left, right, firstBuilt, secondBuilt, different,
    build_of_perm formats types firstBuilt secondBuilt⟩

end RegistryFile

end TypedJson
