import TypedJson.Proofs.Schema.Satisfies
import TypedJson.Proofs.Schema.WellFormed

namespace TypedJson

open Json (Value)

/-- The part of a schema that an error shows. -/
def Error.node? : Error → Option Value
  | .notAnObject found => some found
  | .unsupported node => some node
  | .unknownType _ node => some node
  | _ => none

/-- Every error with which a result may fail has a property. -/
def FailsOnly {Item : Type} (result : Except Error Item) (fine : Error → Prop) : Prop :=
  ∀ error, result = .error error → fine error

namespace FailsOnly

variable {First Second : Type} {fine : Error → Prop}

theorem ok (value : First) : FailsOnly (.ok value) fine := by
  intro error failed
  simp at failed

theorem error {failure : Error} (holds : fine failure) :
    FailsOnly (.error failure : Except Error First) fine := by
  intro error failed
  obtain rfl := Except.error.inj failed
  exact holds

theorem bind {first : Except Error First} {next : First → Except Error Second}
    (fails : FailsOnly first fine)
    (each : ∀ value, first = .ok value → FailsOnly (next value) fine) :
    FailsOnly (first >>= next) fine := by
  cases first with
  | error failure => exact error (fails failure rfl)
  | ok value => exact each value rfl

theorem map {result : Except Error First} (fails : FailsOnly result fine)
    (change : First → Second) : FailsOnly (result.map change) fine := by
  cases result with
  | error failure => exact error (fails failure rfl)
  | ok value => exact ok (change value)

theorem mapM {work : First → Except Error Second} {items : List First}
    (each : ∀ item ∈ items, FailsOnly (work item) fine) : FailsOnly (items.mapM work) fine := by
  induction items with
  | nil => exact ok []
  | cons item rest ih =>
      rw [List.forall_mem_cons] at each
      rw [List.mapM_cons]
      apply each.1.bind
      intro first _
      apply (ih each.2).bind
      intro others _
      exact ok (first :: others)

end FailsOnly

/-- What the value of a keyword has to be. -/
def Expectation.Met : Expectation → Value → Prop
  | count => Schema.IsCount
  | number => Schema.IsNumber
  | string => Schema.IsText
  | object => fun value => value = .null ∨ ∃ members, value = .object members
  | strings => Schema.IsNames
  | objectOrArray => fun value =>
      (∃ members, value = .object members) ∨ ∃ items, value = .array items
  | arrayOrObject => Schema.IsClosedSet

namespace Schema

/-- Whether a node has a name for its type, alone or among others. -/
def HasType (members : List (String × Value)) (name : String) : Prop :=
  members.lookup "type" = some (.string name) ∨
    ∃ names, members.lookup "type" = some (.array names) ∧ .string name ∈ names

/-- The nodes that compilation of a node goes on to. -/
inductive Child (members : List (String × Value)) : Value → Prop
  | property {properties : List (String × Value)} {key : String} {node : Value}
      (kind : HasType members "object")
      (given : members.lookup "properties" = some (.object properties))
      (inside : (key, node) ∈ properties) : Child members node
  | items {element : List (String × Value)} (kind : HasType members "array")
      (given : members.lookup "items" = some (.object element)) : Child members (.object element)
  | position {nodes : List Value} {node : Value} (kind : HasType members "array")
      (given : members.lookup "items" = some (.array nodes)) (inside : node ∈ nodes) :
      Child members node

/-- The nodes that compilation of a schema comes to. -/
inductive Visited (schema : Value) : Value → Prop
  | root : Visited schema schema
  | child {members : List (String × Value)} {node : Value}
      (visited : Visited schema (.object members)) (child : Child members node) :
      Visited schema node

/-- A child of a node is nested in it. -/
theorem Child.nested {members : List (String × Value)} {node : Value}
    (child : Child members node) : Nested members node := by
  cases child with
  | property _ given inside => exact .property given inside
  | items _ given => exact .items given
  | position _ given inside => exact .position given inside

/-- What is visited from a child is visited from its parent. -/
theorem Visited.under {members : List (String × Value)} {node place : Value}
    (child : Child members node) (visited : Visited node place) :
    Visited (.object members) place := by
  induction visited with
  | root => exact .child .root child
  | child _ next ih => exact .child ih next

def textKeywords : List (String × Expectation) :=
  [("minLength", .count), ("maxLength", .count), ("pattern", .string), ("format", .string)]

def boundKeywords : List (String × Expectation) := [("minimum", .number), ("maximum", .number)]

def fieldKeywords : List (String × Expectation) :=
  [("required", .strings), ("description", .string)]

def sizeKeywords : List (String × Expectation) := [("minItems", .count), ("maxItems", .count)]

/-- The keywords that matter for one name of a type, with what they have to be. -/
inductive Reads (members : List (String × Value)) : String → String × Expectation → Prop
  | closedSet : Reads members "string" ("enum", .arrayOrObject)
  | text {keyword : String × Expectation} (absent : members.lookup "enum" = none)
      (listed : keyword ∈ textKeywords) : Reads members "string" keyword
  | number {keyword : String × Expectation} (listed : keyword ∈ boundKeywords) :
      Reads members "number" keyword
  | integer {keyword : String × Expectation} (listed : keyword ∈ boundKeywords) :
      Reads members "integer" keyword
  | properties : Reads members "object" ("properties", .object)
  | field {properties : List (String × Value)} {keyword : String × Expectation}
      (given : members.lookup "properties" = some (.object properties))
      (nonempty : properties ≠ []) (listed : keyword ∈ fieldKeywords) :
      Reads members "object" keyword
  | items : Reads members "array" ("items", .objectOrArray)
  | size {keyword : String × Expectation}
      (noTuple : ∀ nodes, members.lookup "items" ≠ some (.array nodes))
      (listed : keyword ∈ sizeKeywords) : Reads members "array" keyword

/-- The faults of a node's own keywords for one name of its type. -/
inductive FaultAs (registry : Registry) (members : List (String × Value)) : String → Error → Prop
  | keyword {name keyword : String} {expected : Expectation} {value : Value}
      (reads : Reads members name (keyword, expected))
      (given : members.lookup keyword = some value) (unmet : ¬expected.Met value) :
      FaultAs registry members name (.badKeyword keyword expected)
  | pattern {source : String} (absent : members.lookup "enum" = none)
      (given : members.lookup "pattern" = some (.string source))
      (unread : Pattern.ofSource? source = none) :
      FaultAs registry members "string" (.badPattern source)
  | format {name : String} (absent : members.lookup "enum" = none)
      (given : members.lookup "format" = some (.string name))
      (unknown : registry.format? name = none) :
      FaultAs registry members "string" (.unknownFormat name)
  | custom {name : String} (free : Kind.isReserved name = false)
      (unknown : registry.type? name = none) :
      FaultAs registry members name (.unknownType name (.object members))

/-- The `type` keyword holds a name or a list of names. -/
def IsTypeField (value : Value) : Prop :=
  (∃ name, value = .string name) ∨ ∃ names : List String, value = .array (names.map .string)

/-- The faults of a node that have nothing to do with the nodes inside it. -/
inductive OwnFault (registry : Registry) : Value → Error → Prop
  | shape {found : Value} (noMembers : found.members? = none) :
      OwnFault registry found (.notAnObject found)
  | type {members : List (String × Value)} {value : Value}
      (given : members.lookup "type" = some value) (unmet : ¬IsTypeField value) :
      OwnFault registry (.object members) (.unsupported (.object members))
  | named {members : List (String × Value)} {name : String} {error : Error}
      (kind : HasType members name) (fault : FaultAs registry members name error) :
      OwnFault registry (.object members) error

/-- An error that shows a part of a schema shows the node that it is about. -/
theorem OwnFault.node?_eq {registry : Registry} {node shown : Value} {error : Error}
    (fault : OwnFault registry node error) (shows_ : error.node? = some shown) : shown = node := by
  cases fault with
  | shape noMembers => exact (Option.some.inj shows_).symm
  | type given unmet => exact (Option.some.inj shows_).symm
  | named kind fault =>
      cases fault with
      | custom free unknown => exact (Option.some.inj shows_).symm
      | keyword | pattern | format => simp [Error.node?] at shows_

section Keywords

variable {node : Node} {keyword : String} {error : Error}

/-- The keyword `properties` is read if it is absent or an object. -/
theorem properties_succeeds_iff :
    (∃ properties, node.properties = .ok properties) ↔
      Optionally node "properties" Expectation.object.Met := by
  unfold Optionally Node.properties
  cases node.get? "properties" with
  | none => simp
  | some value => cases value <;> simp [Expectation.Met]

/-- The keyword `items` is read if it is absent, an object or an array. -/
theorem items_succeeds_iff :
    (∃ items, node.items = .ok items) ↔
      Optionally node "items" Expectation.objectOrArray.Met := by
  unfold Optionally Node.items
  cases node.get? "items" with
  | none => simp
  | some value => cases value <;> simp [Expectation.Met]

/-- A keyword that fails as a count expected a count. -/
theorem count_eq_error (failed : node.count keyword = .error error) :
    error = .badKeyword keyword .count := by
  unfold Node.count at failed
  split at failed
  · simp at failed
  · split at failed <;> simp_all

/-- A keyword that fails as a number expected a number. -/
theorem number_eq_error (failed : node.number keyword = .error error) :
    error = .badKeyword keyword .number := by
  unfold Node.number at failed
  split at failed
  · simp at failed
  · split at failed <;> simp_all

/-- A keyword that fails as a string expected a string. -/
theorem string_eq_error (failed : node.string keyword = .error error) :
    error = .badKeyword keyword .string := by
  unfold Node.string at failed
  split at failed
  · simp at failed
  · split at failed <;> simp_all

/-- The keyword `properties` fails since it expected an object. -/
theorem properties_eq_error (failed : node.properties = .error error) :
    error = .badKeyword "properties" .object := by
  unfold Node.properties at failed
  split at failed <;> simp_all

/-- The keyword `required` fails since it expected strings. -/
theorem required_eq_error (failed : node.required = .error error) :
    error = .badKeyword "required" .strings := by
  unfold Node.required at failed
  split at failed
  · simp at failed
  · simp at failed
  · split at failed <;> simp_all
  · simp_all

/-- The keyword `items` fails since it expected an object or an array. -/
theorem items_eq_error (failed : node.items = .error error) :
    error = .badKeyword "items" .objectOrArray := by
  unfold Node.items at failed
  split at failed <;> simp_all

variable {registry : Registry} {members : List (String × Value)} {name : String}

/-- A keyword that a type reads fails only for a value that is not as it has to be. -/
theorem failsOnly_keyword {Item : Type} {result : Except Error Item} {expected : Expectation}
    (reads : Reads members name (keyword, expected))
    (succeeds : (∃ item, result = .ok item) ↔ Optionally ⟨members⟩ keyword expected.Met)
    (named : ∀ error, result = .error error → error = .badKeyword keyword expected) :
    FailsOnly result (FaultAs registry members name) := by
  intro error failed
  obtain rfl := named error failed
  have unmet : ¬Optionally ⟨members⟩ keyword expected.Met := by
    rw [← succeeds, failed]
    simp
  unfold Optionally at unmet
  push Not at unmet
  obtain ⟨value, given, unmet⟩ := unmet
  exact .keyword reads given unmet

/-- Reading a count fails only for a fault of the keyword. -/
theorem failsOnly_count (reads : Reads members name (keyword, .count)) :
    FailsOnly (Node.count ⟨members⟩ keyword) (FaultAs registry members name) :=
  failsOnly_keyword reads count_succeeds_iff fun _ => count_eq_error

/-- Reading a number fails only for a fault of the keyword. -/
theorem failsOnly_number (reads : Reads members name (keyword, .number)) :
    FailsOnly (Node.number ⟨members⟩ keyword) (FaultAs registry members name) :=
  failsOnly_keyword reads number_succeeds_iff fun _ => number_eq_error

/-- Reading a string fails only for a fault of the keyword. -/
theorem failsOnly_string (reads : Reads members name (keyword, .string)) :
    FailsOnly (Node.string ⟨members⟩ keyword) (FaultAs registry members name) :=
  failsOnly_keyword reads string_succeeds_iff fun _ => string_eq_error

/-- The pattern of a string fails only for a fault of the node. -/
theorem failsOnly_patternConstraint {source : Option String}
    (absent : members.lookup "enum" = none)
    (read : Node.string ⟨members⟩ "pattern" = .ok source) :
    FailsOnly (patternConstraint source) (FaultAs registry members "string") := by
  unfold patternConstraint
  split
  · exact .ok []
  · rename_i written
    split
    · exact .ok _
    · rename_i unread
      have given := (string_eq_ok read written).mp rfl
      exact .error (.pattern absent given unread)

/-- The format of a string fails only for a fault of the node. -/
theorem failsOnly_formatConstraint {format : Option String}
    (absent : members.lookup "enum" = none)
    (read : Node.string ⟨members⟩ "format" = .ok format) :
    FailsOnly (formatConstraint registry format) (FaultAs registry members "string") := by
  unfold formatConstraint
  split
  · exact .ok []
  · rename_i written
    split
    · exact .ok _
    · rename_i unknown
      have given := (string_eq_ok read written).mp rfl
      exact .error (.format absent given unknown)

/-- Types of strings fail only for a fault of the node. -/
theorem failsOnly_stringType :
    FailsOnly (stringType registry ⟨members⟩) (FaultAs registry members "string") := by
  unfold stringType
  split
  · rename_i keyword given
    split
    · exact .ok _
    · rename_i noChoices
      apply FailsOnly.error
      apply FaultAs.keyword .closedSet given
      intro met
      cases keyword <;> simp_all [Expectation.Met, IsClosedSet, Choice.ofKeyword?]
  · rename_i absent
    have reads (keyword : String × Expectation) (listed : keyword ∈ textKeywords) :
        Reads members "string" keyword := .text absent listed
    apply (failsOnly_count (reads ("minLength", .count) (by decide))).bind
    intro minLength _
    apply (failsOnly_count (reads ("maxLength", .count) (by decide))).bind
    intro maxLength _
    apply (failsOnly_string (reads ("pattern", .string) (by decide))).bind
    intro source readSource
    apply (failsOnly_patternConstraint absent readSource).bind
    intro pattern _
    apply (failsOnly_string (reads ("format", .string) (by decide))).bind
    intro format readFormat
    apply (failsOnly_formatConstraint absent readFormat).bind
    intro constraints _
    exact .ok _

/-- The bounds of numbers fail only for a fault of the node. -/
theorem failsOnly_bounds
    (reads : ∀ keyword ∈ boundKeywords, Reads members name keyword) :
    FailsOnly (bounds ⟨members⟩) (FaultAs registry members name) := by
  unfold bounds
  apply (failsOnly_number (reads ("minimum", .number) (by decide))).bind
  intro minimum _
  apply (failsOnly_number (reads ("maximum", .number) (by decide))).bind
  intro maximum _
  exact .ok _

/-- Types of numbers fail only for a fault of the node. -/
theorem failsOnly_numberType :
    FailsOnly (numberType ⟨members⟩) (FaultAs registry members "number") := by
  unfold numberType
  apply (failsOnly_bounds fun _ => Reads.number).bind
  intro constraints _
  exact .ok _

/-- Types of integers fail only for a fault of the node. -/
theorem failsOnly_integerType :
    FailsOnly (integerType ⟨members⟩) (FaultAs registry members "integer") := by
  unfold integerType
  apply (failsOnly_bounds fun _ => Reads.integer).bind
  intro constraints _
  exact .ok _

/-- The bounds of lists fail only for a fault of the node. -/
theorem failsOnly_bounded (base : Descriptor)
    (noTuple : ∀ nodes, members.lookup "items" ≠ some (.array nodes)) :
    FailsOnly (arrayType.bounded ⟨members⟩ base) (FaultAs registry members "array") := by
  have reads (keyword : String × Expectation) (listed : keyword ∈ sizeKeywords) :
      Reads members "array" keyword := .size noTuple listed
  unfold arrayType.bounded
  apply (failsOnly_count (reads ("minItems", .count) (by decide))).bind
  intro minItems _
  apply (failsOnly_count (reads ("maxItems", .count) (by decide))).bind
  intro maxItems _
  exact .ok _

end Keywords

section Nodes

variable {registry : Registry} {members : List (String × Value)} {name : String}

/-- A fault of a node for one name of its type, or the failure of one of its children. -/
def FaultOrBelow (registry : Registry) (members : List (String × Value)) (name : String)
    (error : Error) : Prop :=
  FaultAs registry members name error ∨
    ∃ child, Child members child ∧ compile registry child = .error error

/-- A fault of the node is one of the node or of a node below. -/
theorem failsOnly_own {Item : Type} {result : Except Error Item}
    (fails : FailsOnly result (FaultAs registry members name)) :
    FailsOnly result (FaultOrBelow registry members name) :=
  fun error failed => .inl (fails error failed)

/-- The failure of a child is a failure of its parent. -/
theorem failsOnly_child {node : Value} (child : Child members node) :
    FailsOnly (compile registry node) (FaultOrBelow registry members name) :=
  fun _ failed => .inr ⟨node, child, failed⟩

/-- The types of properties fail only for a fault below. -/
theorem failsOnly_propertyTypes (kind : HasType members "object") :
    FailsOnly (propertyTypes registry members) (FaultOrBelow registry members name) := by
  rw [propertyTypes_eq_lookup]
  split
  · rename_i properties given
    rw [compileMembers_eq_mapM]
    apply FailsOnly.mapM
    intro property inside
    exact (failsOnly_child (.property kind given inside)).map _
  · exact .ok []

/-- Types of objects fail only for a fault of the node or below. -/
theorem failsOnly_objectType (kind : HasType members "object") :
    FailsOnly (objectType ⟨members⟩ fun _ => propertyTypes registry members)
      (FaultOrBelow registry members "object") := by
  unfold objectType
  apply (failsOnly_own (failsOnly_keyword .properties properties_succeeds_iff
    fun _ => properties_eq_error)).bind
  intro properties readProperties
  split
  · exact .ok _
  · exact .ok _
  · rename_i found _ nonempty
    have reads (keyword : String × Expectation) (listed : keyword ∈ fieldKeywords) :
        Reads members "object" keyword :=
      .field (properties_eq_some.mp readProperties) (fun empty => nonempty (by rw [empty])) listed
    apply (failsOnly_own (failsOnly_keyword (reads ("required", .strings) (by decide))
      required_succeeds_iff fun _ => required_eq_error)).bind
    intro required _
    apply (failsOnly_propertyTypes kind).bind
    intro types _
    apply (failsOnly_own (failsOnly_string (reads ("description", .string) (by decide)))).bind
    intro label _
    exact .ok _

/-- The types of items fail only for a fault below. -/
theorem failsOnly_itemTypes (kind : HasType members "array") {items : Option Items}
    (read : Node.items ⟨members⟩ = .ok items) :
    FailsOnly (itemTypes registry members) (FaultOrBelow registry members name) := by
  rw [itemTypes_eq_lookup]
  split
  · exact .ok _
  · rename_i nodes given
    rw [compileAll_eq_mapM]
    apply FailsOnly.map
    apply FailsOnly.mapM
    intro node inside
    exact failsOnly_child (.position kind given inside)
  · rename_i node noTuple given
    apply FailsOnly.map
    cases node with
    | object element => exact failsOnly_child (.items kind given)
    | array nodes => exact absurd rfl (noTuple nodes)
    | _ => simp [Node.items, Node.get?, given] at read

/-- The items are no tuple if their types are not. -/
theorem no_tuple_of_itemTypes {types : ItemTypes}
    (made : itemTypes registry members = .ok types)
    (noTuple : ∀ elements, types ≠ .tuple elements) :
    ∀ nodes, members.lookup "items" ≠ some (.array nodes) := by
  intro nodes given
  rw [itemTypes_eq_lookup, given, map_eq_ok] at made
  obtain ⟨elements, -, same⟩ := made
  exact noTuple elements same.symm

/-- Types of arrays fail only for a fault of the node or below. -/
theorem failsOnly_arrayType (kind : HasType members "array") :
    FailsOnly (arrayType ⟨members⟩ fun _ => itemTypes registry members)
      (FaultOrBelow registry members "array") := by
  unfold arrayType
  apply (failsOnly_own (failsOnly_keyword .items items_succeeds_iff fun _ => items_eq_error)).bind
  intro items readItems
  apply (failsOnly_itemTypes kind readItems).bind
  intro types made
  have bounded (base : Descriptor) (noTuple : ∀ elements, types ≠ .tuple elements) :
      FailsOnly (arrayType.bounded ⟨members⟩ base) (FaultOrBelow registry members "array") :=
    failsOnly_own (failsOnly_bounded base (no_tuple_of_itemTypes made noTuple))
  cases types with
  | tuple elements => exact .ok _
  | single element => exact bounded _ (by simp)
  | any => exact bounded _ (by simp)

/-- One name of a type fails for the keywords of the node, or because a child fails. -/
theorem failsOnly_typeFor (kind : HasType members name) :
    FailsOnly (typeFor registry members name) (FaultOrBelow registry members name) := by
  unfold typeFor
  cases read : TypeName.ofText name with
  | custom custom =>
      obtain ⟨free, rfl⟩ := ofText_eq_custom.mp read
      unfold namedType
      dsimp only
      cases known : registry.type? name with
      | some target => exact .ok _
      | none => exact .error (.inl (.custom free known))
  | kind found =>
      obtain rfl := ofText_eq_kind.mp read
      cases found with
      | null => exact .ok _
      | boolean => exact .ok _
      | string => exact failsOnly_own failsOnly_stringType
      | number => exact failsOnly_own failsOnly_numberType
      | integer => exact failsOnly_own failsOnly_integerType
      | object => exact failsOnly_objectType kind
      | array => exact failsOnly_arrayType kind

/-- A list of names fails since the node is not supported. -/
theorem typeNames_eq_error {node : Node} {names : List Value} {error : Error}
    (failed : node.typeNames names = .error error) : error = node.unsupported := by
  induction names with
  | nil => simp [Node.typeNames] at failed
  | cons first rest ih =>
      cases first with
      | string text =>
          rw [Node.typeNames] at failed
          cases others : node.typeNames rest with
          | ok read => simp [others, Except.map] at failed
          | error failure =>
              rw [others] at failed
              obtain rfl := Except.error.inj failed
              exact ih others
      | _ => simpa [Node.typeNames, eq_comm] using failed

/-- Reading the keyword `type` fails only for a fault of the node. -/
theorem failsOnly_typeField :
    FailsOnly (Node.typeField ⟨members⟩) (OwnFault registry (.object members)) := by
  unfold Node.typeField
  split
  · exact .ok _
  · exact .ok _
  · rename_i names given
    apply FailsOnly.map
    intro error failed
    obtain rfl := typeNames_eq_error failed
    apply OwnFault.type given
    intro fine
    obtain ⟨name, single⟩ | ⟨texts, listed⟩ := fine
    · simp at single
    · have read : Node.typeNames ⟨members⟩ names = .ok (texts.map TypeName.ofText) :=
        typeNames_eq_ok.mpr ⟨texts, Value.array.inj listed, rfl⟩
      simp [read] at failed
  · rename_i value noString noArray given
    apply FailsOnly.error
    apply OwnFault.type given
    intro fine
    obtain ⟨name, rfl⟩ | ⟨names, rfl⟩ := fine
    · exact noString name rfl
    · exact noArray _ rfl

/-- A node fails for a fault of its own, or because one of its children fails. -/
def OwnOrBelow (registry : Registry) (members : List (String × Value)) (error : Error) : Prop :=
  OwnFault registry (.object members) error ∨
    ∃ child, Child members child ∧ compile registry child = .error error

/-- The type for a name fails only for a fault of the node or below. -/
theorem failsOnly_named (kind : HasType members name) :
    FailsOnly (typeFor registry members name) (OwnOrBelow registry members) := by
  intro error failed
  rcases failsOnly_typeFor kind error failed with fault | below
  · exact .inl (.named kind fault)
  · exact .inr below

/-- The name or names that a node was read to have are those that stand in its `type`. -/
theorem typeField_eq_ok {node : Node} {field : TypeField} (read : node.typeField = .ok field) :
    match field with
    | .absent => node.get? "type" = none
    | .one name => ∃ text, node.get? "type" = some (.string text) ∧ name = .ofText text
    | .many names => ∃ texts : List String,
        node.get? "type" = some (.array (texts.map .string)) ∧ names = texts.map .ofText := by
  unfold Node.typeField at read
  split at read
  · rename_i absent
    obtain rfl := Except.ok.inj read
    exact absent
  · rename_i text given
    obtain rfl := Except.ok.inj read
    exact ⟨text, given, rfl⟩
  · rename_i names given
    obtain ⟨found, readNames, rfl⟩ := map_eq_ok.mp read
    obtain ⟨texts, rfl, rfl⟩ := typeNames_eq_ok.mp readNames
    exact ⟨texts, given, rfl⟩
  · simp at read

/-- A schema fails only for a fault of one of its nodes. -/
theorem failsOnly_compile :
    FailsOnly (compile registry (.object members)) (OwnOrBelow registry members) := by
  rw [compile]
  apply FailsOnly.bind
  · intro error failed
    exact .inl (failsOnly_typeField error failed)
  · intro field read
    cases field with
    | absent => exact .ok _
    | one name =>
        obtain ⟨text, given, rfl⟩ := typeField_eq_ok read
        exact failsOnly_named (.inl given)
    | many names =>
        obtain ⟨texts, given, rfl⟩ := typeField_eq_ok read
        apply FailsOnly.bind
        · apply FailsOnly.mapM
          intro name inside
          obtain ⟨text, listed, rfl⟩ := List.mem_map.mp inside
          exact failsOnly_named (.inr ⟨_, given, List.mem_map_of_mem listed⟩)
        · intro types _
          exact .ok _

/-- Where a node compiles, so does each of its children. -/
theorem child_compiles {type : Descriptor} (compiled : compile registry (.object members) = .ok type)
    {child : Value} (below : Child members child) :
    ∃ childType, compile registry child = .ok childType := by
  have named (name : String) (kind : HasType members name) :
      ∃ made, typeFor registry members name = .ok made := by
    rcases compile_object_eq_ok.mp compiled with
      ⟨absent, -⟩ | ⟨single, given, made⟩ | ⟨names, alternatives, given, each, -⟩
    · simp [HasType, absent] at kind
    · obtain rfl : single = name := by simpa [HasType, given] using kind
      exact ⟨type, made⟩
    · have listed : name ∈ names := by simpa [HasType, given] using kind
      exact mapM_succeeds_iff.mp ⟨alternatives, mapM_eq_ok.mpr each⟩ name listed
  cases below with
  | property kind given inside =>
      rcases objectType_succeeds_iff.mp (named "object" kind) with
        bare | ⟨properties, found, -, -, each, -⟩
      · obtain bare | bare := bare _ given
        · simp at bare
        · simp_all
      · obtain rfl := Value.object.inj (Option.some.inj (given.symm.trans found))
        exact each _ inside
  | items kind given =>
      rcases arrayType_succeeds_iff.mp (named "array" kind) with
        ⟨absent, -⟩ | ⟨element, found, compiles, -⟩ | ⟨nodes, found, -⟩
      · simp [given] at absent
      · obtain rfl := Value.object.inj (Option.some.inj (given.symm.trans found))
        exact compiles
      · simp [given] at found
  | position kind given inside =>
      rcases arrayType_succeeds_iff.mp (named "array" kind) with
        ⟨absent, -⟩ | ⟨element, found, -⟩ | ⟨nodes, found, each⟩
      · simp [given] at absent
      · simp [given] at found
      · obtain rfl := Value.array.inj (Option.some.inj (given.symm.trans found))
        exact each _ inside

/-- Where a schema compiles, so does each node that compilation visits. -/
theorem visited_compiles {schema node : Value} (visited : Visited schema node)
    (compiles : ∃ type, compile registry schema = .ok type) :
    ∃ type, compile registry node = .ok type := by
  induction visited with
  | root => exact compiles
  | child _ below ih =>
      obtain ⟨type, compiled⟩ := ih
      exact child_compiles compiled below

end Nodes

/-- An error that a node raises for itself: it is at fault, and no child of it fails in this way. -/
structure Raises (registry : Registry) (node : Value) (error : Error) : Prop where
  fails : compile registry node = .error error
  own : OwnFault registry node error
  notBelow : ∀ members child, node = .object members → Child members child →
    compile registry child ≠ .error error
  shown : ∀ part, error.node? = some part → part = node

/-- The error of a schema is raised by a node that compilation visits. -/
theorem exists_raises {registry : Registry} {schema : Value} {error : Error}
    (failed : compile registry schema = .error error) :
    ∃ node, Visited schema node ∧ Raises registry node error := by
  induction schema using nestedInduction with
  | object members ih =>
      by_cases below : ∃ child, Child members child ∧ compile registry child = .error error
      · obtain ⟨child, inside, childFailed⟩ := below
        obtain ⟨node, visited, raises⟩ := ih child inside.nested childFailed
        exact ⟨node, visited.under inside, raises⟩
      · have own : OwnFault registry (.object members) error :=
          (failsOnly_compile error failed).resolve_right below
        refine ⟨_, .root, failed, own, ?_, fun _ => own.node?_eq⟩
        intro others child same inside childFailed
        obtain rfl := Value.object.inj same
        exact below ⟨child, inside, childFailed⟩
  | other found noMembers =>
      have fails : compile registry found = .error (.notAnObject found) := by
        cases found <;> simp_all [compile, Value.members?]
      obtain rfl := Except.error.inj (fails.symm.trans failed)
      have own : OwnFault registry found (.notAnObject found) := .shape noMembers
      refine ⟨found, .root, fails, own, ?_, fun _ => own.node?_eq⟩
      intro members child same
      simp [same, Value.members?] at noMembers

/--
A schema fails with an error of a node that compilation visits, raised for that node's own shape
or keywords and showing no other node; and it fails whenever a visited node fails by itself.
-/
theorem compile_error_raised (registry : Registry) (schema : Value) :
    (∀ error, compile registry schema = .error error →
      ∃ node, Visited schema node ∧ Raises registry node error) ∧
    ∀ node, Visited schema node → ∀ error, compile registry node = .error error →
      ∃ other, compile registry schema = .error other := by
  constructor
  · intro error failed
    exact exists_raises failed
  · intro node visited error failed
    cases compiled : compile registry schema with
    | error other => exact ⟨other, rfl⟩
    | ok type =>
        obtain ⟨found, compiles⟩ := visited_compiles visited ⟨type, compiled⟩
        simp [failed] at compiles

/-- The second position of a list inside a property names a type that is not registered. -/
theorem unknown_position_raises :
    let position := Value.object [("type", .string "Money")]
    let schema := Value.object [("type", .array [.string "null", .string "object"]),
      ("properties", .object [("pair", .object [("type", .string "array"),
        ("items", .array [.object [("type", .string "string")], position])])])]
    Raises .empty position (.unknownType "Money" position) ∧
      ∃ other, compile .empty schema = .error other := by
  intro position schema
  have failed : compile .empty schema = .error (.unknownType "Money" position) := rfl
  have alone : compile .empty position = .error (.unknownType "Money" position) := rfl
  have visited : Visited schema position := by
    apply Visited.child
    · apply Visited.child Visited.root
      exact .property (.inr ⟨_, rfl, by simp⟩) rfl (List.mem_singleton.mpr rfl)
    · exact .position (.inl rfl) rfl (by simp)
  constructor
  · obtain ⟨node, -, raises⟩ := (compile_error_raised .empty schema).1 _ failed
    obtain rfl : position = node := raises.shown position rfl
    exact raises
  · exact (compile_error_raised .empty schema).2 position visited _ alone

end Schema

end TypedJson
