import TypedJson.Proofs.Schema.Compile

namespace TypedJson

open Json (Value)

namespace Schema

/-- A keyword is absent, or its value is as it should be. -/
def Optionally (node : Node) (keyword : String) (fine : Value → Prop) : Prop :=
  ∀ value, node.get? keyword = some value → fine value

def IsCount (value : Value) : Prop :=
  ∃ number count, value = .number number ∧ Node.countOf? number = some count

def IsNumber (value : Value) : Prop := ∃ number, value = .number number

def IsText (value : Value) : Prop := ∃ text, value = .string text

def IsPattern (value : Value) : Prop :=
  ∃ source pattern, value = .string source ∧ Pattern.ofSource? source = some pattern

def IsFormat (registry : Registry) (value : Value) : Prop :=
  ∃ name format, value = .string name ∧ registry.format? name = some format

def IsNames (value : Value) : Prop :=
  value = .null ∨ ∃ names : List String, value = .array (names.map .string)

/-- A closed set is an array of its values or an object with a label for each. -/
def IsClosedSet (value : Value) : Prop :=
  (∃ items, value = .array items) ∨ ∃ entries, value = .object entries

structure TextKeywords (registry : Registry) (node : Node) : Prop where
  minLength : Optionally node "minLength" IsCount
  maxLength : Optionally node "maxLength" IsCount
  pattern : Optionally node "pattern" IsPattern
  format : Optionally node "format" (IsFormat registry)

structure BoundKeywords (node : Node) : Prop where
  minimum : Optionally node "minimum" IsNumber
  maximum : Optionally node "maximum" IsNumber

structure SizeKeywords (node : Node) : Prop where
  minItems : Optionally node "minItems" IsCount
  maxItems : Optionally node "maxItems" IsCount

mutual

/-- A schema is an object that fits each of the names in its type. -/
inductive WellFormed (registry : Registry) : Value → Prop
  | untyped {members : List (String × Value)} (absent : members.lookup "type" = none) :
      WellFormed registry (.object members)
  | named {members : List (String × Value)} {name : String}
      (given : members.lookup "type" = some (.string name))
      (fits : WellFormedAs registry members name) : WellFormed registry (.object members)
  | listed {members : List (String × Value)} {names : List String}
      (given : members.lookup "type" = some (.array (names.map .string)))
      (fits : ∀ name ∈ names, WellFormedAs registry members name) :
      WellFormed registry (.object members)

/-- The keywords of a node are as one name of a type needs them. -/
inductive WellFormedAs (registry : Registry) : List (String × Value) → String → Prop
  | null (members : List (String × Value)) : WellFormedAs registry members "null"
  | boolean (members : List (String × Value)) : WellFormedAs registry members "boolean"
  | closed {members : List (String × Value)} {keyword : Value}
      (given : members.lookup "enum" = some keyword) (set : IsClosedSet keyword) :
      WellFormedAs registry members "string"
  | text {members : List (String × Value)} (absent : members.lookup "enum" = none)
      (keywords : TextKeywords registry ⟨members⟩) : WellFormedAs registry members "string"
  | number {members : List (String × Value)} (keywords : BoundKeywords ⟨members⟩) :
      WellFormedAs registry members "number"
  | integer {members : List (String × Value)} (keywords : BoundKeywords ⟨members⟩) :
      WellFormedAs registry members "integer"
  | anyObject {members : List (String × Value)}
      (bare : Optionally ⟨members⟩ "properties" fun value => value = .null ∨ value = .object []) :
      WellFormedAs registry members "object"
  | object {members properties : List (String × Value)}
      (given : members.lookup "properties" = some (.object properties))
      (nonempty : properties ≠ [])
      (required : Optionally ⟨members⟩ "required" IsNames)
      (each : ∀ property ∈ properties, WellFormed registry property.2)
      (description : Optionally ⟨members⟩ "description" IsText) :
      WellFormedAs registry members "object"
  | anyArray {members : List (String × Value)} (absent : members.lookup "items" = none)
      (sizes : SizeKeywords ⟨members⟩) : WellFormedAs registry members "array"
  | list {members element : List (String × Value)}
      (given : members.lookup "items" = some (.object element))
      (fits : WellFormed registry (.object element)) (sizes : SizeKeywords ⟨members⟩) :
      WellFormedAs registry members "array"
  | tuple {members : List (String × Value)} {nodes : List Value}
      (given : members.lookup "items" = some (.array nodes))
      (each : ∀ node ∈ nodes, WellFormed registry node) : WellFormedAs registry members "array"
  | custom {members : List (String × Value)} {name : String} {target : Descriptor}
      (free : Kind.isReserved name = false) (known : registry.type? name = some target) :
      WellFormedAs registry members name

end

/-- A count is read if the keyword is absent or a count. -/
theorem count_succeeds_iff {node : Node} {keyword : String} :
    (∃ count, node.count keyword = .ok count) ↔ Optionally node keyword IsCount := by
  unfold Optionally Node.count
  cases node.get? keyword with
  | none => simp
  | some value =>
      cases value with
      | number number =>
          cases counted : Node.countOf? number <;> simp [IsCount, Value.number?, counted]
      | _ => simp [IsCount, Value.number?]

/-- A number is read if the keyword is absent or a number. -/
theorem number_succeeds_iff {node : Node} {keyword : String} :
    (∃ number, node.number keyword = .ok number) ↔ Optionally node keyword IsNumber := by
  unfold Optionally Node.number
  cases node.get? keyword with
  | none => simp
  | some value => cases value <;> simp [IsNumber, Value.number?]

/-- A text is read if the keyword is absent or a string. -/
theorem string_succeeds_iff {node : Node} {keyword : String} :
    (∃ text, node.string keyword = .ok text) ↔ Optionally node keyword IsText := by
  unfold Optionally Node.string
  cases node.get? keyword with
  | none => simp
  | some value => cases value <;> simp [IsText, Value.string?]

/-- A pattern is made if the keyword is absent or the source of a pattern. -/
theorem pattern_succeeds_iff {node : Node} :
    (∃ source, node.string "pattern" = .ok source ∧
      ∃ constraints, patternConstraint source = .ok constraints) ↔
      Optionally node "pattern" IsPattern := by
  unfold Optionally Node.string
  cases node.get? "pattern" with
  | none => simp [patternConstraint]
  | some value =>
      cases value with
      | string source =>
          cases read : Pattern.ofSource? source <;>
            simp [IsPattern, Value.string?, patternConstraint, read]
      | _ => simp [IsPattern, Value.string?]

/-- A format is found if the keyword is absent or the name of a registered format. -/
theorem format_succeeds_iff {registry : Registry} {node : Node} :
    (∃ name, node.string "format" = .ok name ∧
      ∃ constraints, formatConstraint registry name = .ok constraints) ↔
      Optionally node "format" (IsFormat registry) := by
  unfold Optionally Node.string
  cases node.get? "format" with
  | none => simp [formatConstraint]
  | some value =>
      cases value with
      | string name =>
          cases found : registry.format? name <;>
            simp [IsFormat, Value.string?, formatConstraint, found]
      | _ => simp [IsFormat, Value.string?]

/-- Names are read if all items are strings. -/
theorem names_succeeds_iff {items : List Value} :
    (∃ names, Node.names items = some names) ↔ ∃ names : List String, items = names.map .string := by
  induction items with
  | nil => simp [Node.names]
  | cons item rest ih =>
      cases item with
      | string name =>
          simp only [Node.names, Option.map_eq_some_iff]
          constructor
          · intro read
            obtain ⟨_, others, readRest, -⟩ := read
            obtain ⟨names, rfl⟩ := ih.mp ⟨others, readRest⟩
            exact ⟨name :: names, rfl⟩
          · intro written
            obtain ⟨names, same⟩ := written
            cases names with
            | nil => simp at same
            | cons first others =>
                obtain ⟨names, read⟩ := ih.mpr ⟨others, (List.cons.inj same).2⟩
                exact ⟨_, names, read, rfl⟩
      | _ =>
          simp only [Node.names, reduceCtorEq, exists_false, false_iff]
          intro written
          obtain ⟨names, same⟩ := written
          cases names <;> simp at same

/-- Required names are read if the keyword is absent or a list of strings. -/
theorem required_succeeds_iff {node : Node} :
    (∃ names, node.required = .ok names) ↔ Optionally node "required" IsNames := by
  unfold Optionally Node.required
  cases node.get? "required" with
  | none => simp
  | some value =>
      cases value with
      | null => simp [IsNames]
      | array items =>
          have listed : (∃ names, Node.names items = some names) ↔
              ∃ names : List String, items = names.map .string := names_succeeds_iff
          cases read : Node.names items <;> simp_all [IsNames]
      | _ => simp [IsNames]

/-- A type of strings is made of a closed set, or else of keywords for texts. -/
theorem stringType_succeeds_iff {registry : Registry} {node : Node} :
    (∃ type, stringType registry node = .ok type) ↔
      (∃ keyword, node.get? "enum" = some keyword ∧ IsClosedSet keyword) ∨
        (node.get? "enum" = none ∧ TextKeywords registry node) := by
  unfold stringType
  cases node.get? "enum" with
  | some keyword => cases keyword <;> simp [Choice.ofKeyword?, IsClosedSet]
  | none =>
      simp only [bind_succeeds_iff, pure_succeeds, and_true, exists_and_right, ← and_assoc,
        count_succeeds_iff, pattern_succeeds_iff, format_succeeds_iff, reduceCtorEq, false_and,
        exists_false, false_or, true_and]
      constructor
      · intro keywords
        obtain ⟨⟨⟨minLength, maxLength⟩, pattern⟩, format⟩ := keywords
        exact ⟨minLength, maxLength, pattern, format⟩
      · intro keywords
        exact ⟨⟨⟨keywords.minLength, keywords.maxLength⟩, keywords.pattern⟩, keywords.format⟩

/-- Bounds are made if their keywords are numbers. -/
theorem bounds_succeeds_iff {node : Node} :
    (∃ constraints, bounds node = .ok constraints) ↔ BoundKeywords node := by
  unfold bounds
  simp only [bind_succeeds_iff, pure_succeeds, and_true, exists_and_right, number_succeeds_iff]
  constructor
  · intro keywords
    exact ⟨keywords.1, keywords.2⟩
  · intro keywords
    exact ⟨keywords.minimum, keywords.maximum⟩

/-- A type of numbers is made if the bounds are numbers. -/
theorem numberType_succeeds_iff {node : Node} :
    (∃ type, numberType node = .ok type) ↔ BoundKeywords node := by
  unfold numberType
  simp only [bind_succeeds_iff, pure_succeeds, and_true, bounds_succeeds_iff]

/-- A type of integers is made if the bounds are numbers. -/
theorem integerType_succeeds_iff {node : Node} :
    (∃ type, integerType node = .ok type) ↔ BoundKeywords node := by
  unfold integerType
  simp only [bind_succeeds_iff, pure_succeeds, and_true, bounds_succeeds_iff]

/-- Properties are read from an object. -/
theorem properties_eq_some {node : Node} {properties : List (String × Value)} :
    node.properties = .ok (some properties) ↔
      node.get? "properties" = some (.object properties) := by
  unfold Node.properties
  cases node.get? "properties" with
  | none => simp
  | some value => cases value <;> simp

/-- There are no properties if the keyword is absent, null or an empty object. -/
theorem properties_bare_iff {node : Node} :
    (node.properties = .ok none ∨ node.properties = .ok (some [])) ↔
      Optionally node "properties" fun value => value = .null ∨ value = .object [] := by
  unfold Optionally Node.properties
  cases node.get? "properties" with
  | none => simp
  | some value => cases value <;> simp

/-- The properties compile exactly if each of them does. -/
theorem propertyTypes_succeeds_iff {registry : Registry} {members properties : List (String × Value)}
    (given : members.lookup "properties" = some (.object properties)) :
    (∃ types, propertyTypes registry members = .ok types) ↔
      ∀ property ∈ properties, ∃ type, compile registry property.2 = .ok type := by
  rw [propertyTypes_eq_lookup, given]
  dsimp only
  rw [compileMembers_eq_mapM, mapM_succeeds_iff]
  simp only [map_succeeds_iff]

/-- Only properties that are there make the other keywords of an object matter. -/
theorem objectType_succeeds_iff {registry : Registry} {members : List (String × Value)} :
    (∃ type, objectType ⟨members⟩ (fun _ => propertyTypes registry members) = .ok type) ↔
      Optionally ⟨members⟩ "properties" (fun value => value = .null ∨ value = .object []) ∨
        ∃ properties, members.lookup "properties" = some (.object properties) ∧ properties ≠ [] ∧
          Optionally ⟨members⟩ "required" IsNames ∧
          (∀ property ∈ properties, ∃ type, compile registry property.2 = .ok type) ∧
          Optionally ⟨members⟩ "description" IsText := by
  rw [← properties_bare_iff, ← required_succeeds_iff, ← string_succeeds_iff]
  constructor
  · intro made
    obtain ⟨type, made⟩ := made
    rcases objectType_eq_ok made with ⟨bare, -⟩ | ⟨property, rest, required, found, label,
      readProperties, readRequired, ofTypes, readLabel, -⟩
    · exact .inl bare
    · have given := properties_eq_some.mp readProperties
      exact .inr ⟨_, given, List.cons_ne_nil property rest, ⟨required, readRequired⟩,
        (propertyTypes_succeeds_iff given).mp ⟨found, ofTypes⟩, label, readLabel⟩
  · intro keywords
    unfold objectType
    rcases keywords with bare | ⟨properties, given, nonempty, ⟨required, readRequired⟩, each,
      label, readLabel⟩
    · rcases bare with read | read
      · exact ⟨_, by rw [read]; rfl⟩
      · exact ⟨_, by rw [read]; rfl⟩
    · obtain ⟨types, ofTypes⟩ := (propertyTypes_succeeds_iff given).mpr each
      obtain ⟨property, rest, rfl⟩ := List.exists_cons_of_ne_nil nonempty
      rw [properties_eq_some.mpr given, readRequired, ofTypes, readLabel]
      exact ⟨_, rfl⟩

/-- The bounds of lists are made if their keywords are counts. -/
theorem bounded_succeeds_iff {node : Node} {base : Descriptor} :
    (∃ type, arrayType.bounded node base = .ok type) ↔ SizeKeywords node := by
  unfold arrayType.bounded
  simp only [bind_succeeds_iff, pure_succeeds, and_true, exists_and_right, count_succeeds_iff]
  constructor
  · intro keywords
    exact ⟨keywords.1, keywords.2⟩
  · intro keywords
    exact ⟨keywords.minItems, keywords.maxItems⟩

/-- The counts of an array matter only if its items are not listed one by one. -/
theorem arrayType_succeeds_iff {registry : Registry} {members : List (String × Value)} :
    (∃ type, arrayType ⟨members⟩ (fun _ => itemTypes registry members) = .ok type) ↔
      (members.lookup "items" = none ∧ SizeKeywords ⟨members⟩) ∨
      (∃ element, members.lookup "items" = some (.object element) ∧
        (∃ type, compile registry (.object element) = .ok type) ∧ SizeKeywords ⟨members⟩) ∨
      ∃ nodes, members.lookup "items" = some (.array nodes) ∧
        ∀ node ∈ nodes, ∃ type, compile registry node = .ok type := by
  unfold arrayType Node.items
  rw [Node.get?, itemTypes_eq_lookup]
  cases members.lookup "items" with
  | none => simp [bind, Except.bind, bounded_succeeds_iff]
  | some value =>
      cases value with
      | object element =>
          cases compiled : compile registry (.object element) <;>
            simp [bind, Except.bind, Except.map, bounded_succeeds_iff, compiled]
      | array nodes =>
          have each : (∃ types, nodes.mapM (compile registry) = .ok types) ↔
              ∀ node ∈ nodes, ∃ type, compile registry node = .ok type := mapM_succeeds_iff
          rw [← compileAll_eq_mapM] at each
          cases compiled : compileAll registry nodes <;>
            simp_all [bind, Except.bind, Except.map, pure, Except.pure]
      | _ => simp [bind, Except.bind]

/-- The name of a kind has a type if the kind has one. -/
theorem typeFor_succeeds_of_kind {registry : Registry} {members : List (String × Value)}
    (kind : Kind)
    (made : ∃ type, namedType registry ⟨members⟩ (fun _ => propertyTypes registry members)
      (fun _ => itemTypes registry members) (.kind kind) = .ok type) :
    ∃ type, typeFor registry members kind.name = .ok type := by
  rw [typeFor, ofText_eq_kind.mpr rfl]
  exact made

/-- Exactly the texts that name no kind are names of registered types. -/
theorem ofText_eq_custom {text name : String} :
    TypeName.ofText text = .custom name ↔ Kind.isReserved text = false ∧ text = name := by
  unfold TypeName.ofText Kind.isReserved
  cases Kind.ofName? text <;> simp

section Names

variable {registry : Registry} {members : List (String × Value)} {name : String}

/-- A name with a type is well formed, if nested nodes that compile are. -/
theorem wellFormedAs_of_typeFor
    (fit : ∀ node, Nested members node →
      (∃ type, compile registry node = .ok type) → WellFormed registry node)
    (made : ∃ type, typeFor registry members name = .ok type) :
    WellFormedAs registry members name := by
  obtain ⟨type, made⟩ := made
  unfold typeFor at made
  cases read : TypeName.ofText name with
  | custom custom =>
      obtain ⟨free, rfl⟩ := ofText_eq_custom.mp read
      rw [read, namedType] at made
      split at made
      · rename_i target known
        exact .custom free known
      · simp at made
  | kind kind =>
      obtain rfl := ofText_eq_kind.mp read
      rw [read] at made
      cases kind with
      | null => exact .null members
      | boolean => exact .boolean members
      | string =>
          rcases stringType_succeeds_iff.mp ⟨type, made⟩ with ⟨keyword, given, set⟩ | ⟨absent, text⟩
          · exact .closed given set
          · exact .text absent text
      | number => exact .number (numberType_succeeds_iff.mp ⟨type, made⟩)
      | integer => exact .integer (integerType_succeeds_iff.mp ⟨type, made⟩)
      | object =>
          rcases objectType_succeeds_iff.mp ⟨type, made⟩ with
            bare | ⟨properties, given, nonempty, required, each, description⟩
          · exact .anyObject bare
          · apply WellFormedAs.object given nonempty required _ description
            intro property inside
            exact fit property.2 (.property given inside) (each property inside)
      | array =>
          rcases arrayType_succeeds_iff.mp ⟨type, made⟩ with
            ⟨absent, sizes⟩ | ⟨element, given, compiles, sizes⟩ | ⟨nodes, given, each⟩
          · exact .anyArray absent sizes
          · exact .list given (fit _ (.items given) compiles) sizes
          · apply WellFormedAs.tuple given
            intro node inside
            exact fit node (.position given inside) (each node inside)

/-- A name that is well formed has a type, if nested nodes that are well formed compile. -/
theorem typeFor_of_wellFormedAs
    (compiles : ∀ node, Nested members node →
      WellFormed registry node → ∃ type, compile registry node = .ok type)
    (wellFormed : WellFormedAs registry members name) :
    ∃ type, typeFor registry members name = .ok type := by
  cases wellFormed with
  | null => exact typeFor_succeeds_of_kind .null ⟨_, rfl⟩
  | boolean => exact typeFor_succeeds_of_kind .boolean ⟨_, rfl⟩
  | closed given set =>
      exact typeFor_succeeds_of_kind .string (stringType_succeeds_iff.mpr (.inl ⟨_, given, set⟩))
  | text absent keywords =>
      exact typeFor_succeeds_of_kind .string (stringType_succeeds_iff.mpr (.inr ⟨absent, keywords⟩))
  | number keywords =>
      exact typeFor_succeeds_of_kind .number (numberType_succeeds_iff.mpr keywords)
  | integer keywords =>
      exact typeFor_succeeds_of_kind .integer (integerType_succeeds_iff.mpr keywords)
  | anyObject bare =>
      exact typeFor_succeeds_of_kind .object (objectType_succeeds_iff.mpr (.inl bare))
  | object given nonempty required each description =>
      apply typeFor_succeeds_of_kind .object
      apply objectType_succeeds_iff.mpr
      right
      refine ⟨_, given, nonempty, required, ?_, description⟩
      intro property inside
      exact compiles property.2 (.property given inside) (each property inside)
  | anyArray absent sizes =>
      exact typeFor_succeeds_of_kind .array (arrayType_succeeds_iff.mpr (.inl ⟨absent, sizes⟩))
  | list given fits sizes =>
      have element := compiles _ (.items given) fits
      exact typeFor_succeeds_of_kind .array
        (arrayType_succeeds_iff.mpr (.inr (.inl ⟨_, given, element, sizes⟩)))
  | tuple given each =>
      apply typeFor_succeeds_of_kind .array
      apply arrayType_succeeds_iff.mpr
      right
      right
      refine ⟨_, given, ?_⟩
      intro node inside
      exact compiles node (.position given inside) (each node inside)
  | @custom _ _ target free known =>
      refine ⟨.custom name target, ?_⟩
      rw [typeFor, ofText_eq_custom.mpr ⟨free, rfl⟩, namedType, known]

end Names

/-- One name compiles exactly if the keywords are as it needs them. -/
theorem typeFor_succeeds_iff {registry : Registry} {members : List (String × Value)}
    (agree : ∀ node, Nested members node →
      ((∃ type, compile registry node = .ok type) ↔ WellFormed registry node)) (name : String) :
    (∃ type, typeFor registry members name = .ok type) ↔ WellFormedAs registry members name :=
  ⟨wellFormedAs_of_typeFor fun node nested => (agree node nested).mp,
    typeFor_of_wellFormedAs fun node nested => (agree node nested).mpr⟩

/-- A schema compiles exactly if it is well formed. -/
theorem compiles_iff_wellFormed (registry : Registry) (schema : Value) :
    (∃ type, compile registry schema = .ok type) ↔ WellFormed registry schema := by
  induction schema using nestedInduction with
  | object members ih =>
      have names := typeFor_succeeds_iff ih
      simp only [compile_object_eq_ok]
      constructor
      · intro compiled
        obtain ⟨type, ⟨absent, -⟩ | ⟨name, given, made⟩ | ⟨texts, alternatives, given, each, -⟩⟩ :=
          compiled
        · exact .untyped absent
        · exact .named given ((names name).mp ⟨type, made⟩)
        · refine .listed given ?_
          intro name inside
          have made := mapM_succeeds_iff.mp ⟨alternatives, mapM_eq_ok.mpr each⟩ name inside
          exact (names name).mp made
      · intro wellFormed
        cases wellFormed with
        | untyped absent => exact ⟨.any, .inl ⟨absent, rfl⟩⟩
        | @named _ name given fits =>
            obtain ⟨type, made⟩ := (names name).mpr fits
            exact ⟨type, .inr (.inl ⟨name, given, made⟩)⟩
        | @listed _ texts given fits =>
            obtain ⟨alternatives, each⟩ := mapM_succeeds_iff.mpr
              fun name inside => (names name).mpr (fits name inside)
            exact ⟨_, .inr (.inr ⟨texts, alternatives, given, mapM_eq_ok.mp each, rfl⟩)⟩
  | other found noMembers =>
      constructor
      · intro compiled
        obtain ⟨type, compiled⟩ := compiled
        cases found <;> simp_all [compile, Value.members?]
      · intro wellFormed
        cases wellFormed <;> simp [Value.members?] at noMembers

end Schema

end TypedJson
