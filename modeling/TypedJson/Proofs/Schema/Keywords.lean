import TypedJson.Proofs.Schema.Compile

namespace TypedJson.Schema

open Json (Value)

namespace Kind

/-- The keywords that bound numbers. -/
def bounding : List String := ["minimum", "maximum", "exclusiveMinimum", "exclusiveMaximum"]

/-- The keywords of a node that matter for one kind of type. -/
def keywords : Kind → List String
  | null => []
  | boolean => []
  | string => ["enum", "minLength", "maxLength", "pattern", "format"]
  | number => "integer" :: bounding
  | integer => bounding
  | object => ["properties", "required", "description"]
  | array => ["items", "minItems", "maxItems"]

/-- No kind reads the keyword `type`. -/
theorem type_notMem_keywords (kind : Kind) : "type" ∉ kind.keywords := by
  cases kind <;> decide

end Kind

/-- Two nodes hold the same under some keywords. -/
def Agree (keywords : List String) (first second : List (String × Value)) : Prop :=
  ∀ keyword ∈ keywords, first.lookup keyword = second.lookup keyword

section Keywords

variable {first second : Node} {keyword : String}

theorem count_congr (same : first.get? keyword = second.get? keyword) :
    first.count keyword = second.count keyword := by
  rw [Node.count, Node.count, same]

theorem number_congr (same : first.get? keyword = second.get? keyword) :
    first.number keyword = second.number keyword := by
  rw [Node.number, Node.number, same]

theorem string_congr (same : first.get? keyword = second.get? keyword) :
    first.string keyword = second.string keyword := by
  rw [Node.string, Node.string, same]

theorem flag_congr (same : first.get? keyword = second.get? keyword) :
    first.flag keyword = second.flag keyword := by
  rw [Node.flag, Node.flag, same]

theorem number?_congr (same : first.get? keyword = second.get? keyword) :
    first.number? keyword = second.number? keyword := by
  rw [Node.number?, Node.number?, same]

theorem required_congr (same : first.get? "required" = second.get? "required") :
    first.required = second.required := by
  rw [Node.required, Node.required, same]

theorem properties_congr (same : first.get? "properties" = second.get? "properties") :
    first.properties = second.properties := by
  rw [Node.properties, Node.properties, same]

theorem items_congr (same : first.get? "items" = second.get? "items") :
    first.items = second.items := by
  rw [Node.items, Node.items, same]

end Keywords

section Nodes

variable {registry : Registry} {first second : List (String × Value)}

theorem stringType_congr (same : Agree Kind.string.keywords first second) :
    stringType registry ⟨first⟩ = stringType registry ⟨second⟩ := by
  have closedSet : Node.get? ⟨first⟩ "enum" = Node.get? ⟨second⟩ "enum" := same _ (by decide)
  unfold stringType
  rw [closedSet, count_congr (same "minLength" (by decide)),
    count_congr (same "maxLength" (by decide)), string_congr (same "pattern" (by decide)),
    string_congr (same "format" (by decide))]

theorem bounds_congr (same : Agree Kind.bounding first second) :
    bounds ⟨first⟩ = bounds ⟨second⟩ := by
  have least := same "exclusiveMinimum" (by decide)
  have greatest := same "exclusiveMaximum" (by decide)
  unfold bounds
  rw [number?_congr least, flag_congr least, number?_congr greatest, flag_congr greatest,
    number_congr (same "minimum" (by decide)), number_congr (same "maximum" (by decide))]

theorem numberType_congr (same : Agree Kind.number.keywords first second) :
    numberType ⟨first⟩ = numberType ⟨second⟩ := by
  unfold numberType
  rw [bounds_congr fun keyword inside => same keyword (.tail _ inside),
    flag_congr (same "integer" (by decide))]

theorem integerType_congr (same : Agree Kind.integer.keywords first second) :
    integerType ⟨first⟩ = integerType ⟨second⟩ := by
  unfold integerType
  rw [bounds_congr same]

theorem objectType_congr (same : Agree Kind.object.keywords first second) :
    (objectType ⟨first⟩ fun _ => propertyTypes registry first) =
      objectType ⟨second⟩ fun _ => propertyTypes registry second := by
  have properties := same "properties" (by decide)
  unfold objectType
  rw [properties_congr properties, required_congr (same "required" (by decide)),
    string_congr (same "description" (by decide)), propertyTypes_eq_lookup,
    propertyTypes_eq_lookup, properties]

theorem arrayType_congr (same : Agree Kind.array.keywords first second) :
    (arrayType ⟨first⟩ fun _ => itemTypes registry first) =
      arrayType ⟨second⟩ fun _ => itemTypes registry second := by
  have items := same "items" (by decide)
  unfold arrayType arrayType.bounded
  rw [items_congr items, count_congr (same "minItems" (by decide)),
    count_congr (same "maxItems" (by decide)), itemTypes_eq_lookup, itemTypes_eq_lookup, items]

/-- A kind of type reads no keywords but its own. -/
theorem typeFor_congr {kind : Kind} (same : Agree kind.keywords first second) :
    typeFor registry first kind.name = typeFor registry second kind.name := by
  rw [typeFor, typeFor, ofText_eq_kind.mpr rfl]
  cases kind with
  | null => rfl
  | boolean => rfl
  | string => exact stringType_congr same
  | number => exact numberType_congr same
  | integer => exact integerType_congr same
  | object => exact objectType_congr same
  | array => exact arrayType_congr same

end Nodes

end TypedJson.Schema
