import TypedJson.Descriptor.Accepts

namespace TypedJson.Descriptor

open Json (Value)

/-- Types are finite trees, so a property of all parts that passes to the whole holds. -/
@[elab_as_elim]
theorem induction {motive : Descriptor → Prop}
    (primitive : ∀ kind, motive (.primitive kind))
    (enumeration : ∀ choices, motive (.enumeration choices))
    (refinement : ∀ base constraints, motive base → motive (.refinement base constraints))
    (struct : ∀ label fields, (∀ field ∈ fields, motive field.type) →
      motive (.struct label fields))
    (list : ∀ element, motive element → motive (.list element))
    (tuple : ∀ elements, (∀ element ∈ elements, motive element) → motive (.tuple elements))
    (union : ∀ alternatives, (∀ alternative ∈ alternatives, motive alternative) →
      motive (.union alternatives))
    (custom : ∀ name target, motive target → motive (.custom name target)) :
    ∀ descriptor, motive descriptor
  | .primitive kind => primitive kind
  | .enumeration choices => enumeration choices
  | .refinement base constraints =>
      refinement base constraints (induction primitive enumeration refinement struct list tuple
        union custom base)
  | .struct label fields =>
      struct label fields fun field _ => induction primitive enumeration refinement struct list
        tuple union custom field.type
  | .list element =>
      list element (induction primitive enumeration refinement struct list tuple union custom
        element)
  | .tuple elements =>
      tuple elements fun element _ => induction primitive enumeration refinement struct list
        tuple union custom element
  | .union alternatives =>
      union alternatives fun alternative _ => induction primitive enumeration refinement struct
        list tuple union custom alternative
  | .custom name target =>
      custom name target (induction primitive enumeration refinement struct list tuple union
        custom target)
termination_by descriptor => sizeOf descriptor
decreasing_by
  · rw [Descriptor.refinement.sizeOf_spec]
    omega
  · have inside := List.sizeOf_lt_of_mem ‹field ∈ fields›
    have part : sizeOf field.type < sizeOf field := by
      show sizeOf field.type < 1 + sizeOf field.key + sizeOf field.type + sizeOf field.optional
      omega
    rw [Descriptor.struct.sizeOf_spec]
    omega
  · rw [Descriptor.list.sizeOf_spec]
    omega
  · have inside := List.sizeOf_lt_of_mem ‹element ∈ elements›
    rw [Descriptor.tuple.sizeOf_spec]
    omega
  · have inside := List.sizeOf_lt_of_mem ‹alternative ∈ alternatives›
    rw [Descriptor.union.sizeOf_spec]
    omega
  · rw [Descriptor.custom.sizeOf_spec]
    omega

/-- A field holds if its member may be missed or belongs to the type of the field. -/
def fieldHolds (members : List (String × Value)) (field : Field Descriptor) : Bool :=
  (field.optional && (memberOrNull members field.key).isNull) ||
    field.type.accepts (memberOrNull members field.key)

@[simp] theorem acceptsFields_eq_all (fields : List (Field Descriptor))
    (members : List (String × Value)) :
    acceptsFields fields members = fields.all (fieldHolds members) := by
  induction fields with
  | nil => simp [acceptsFields]
  | cons field rest ih => simp [acceptsFields, fieldHolds, ih]

@[simp] theorem acceptsItems_eq_all (elements : List Descriptor) (items : List Value) :
    acceptsItems elements items =
      (elements.zip items).all fun pair => pair.1.accepts pair.2 := by
  induction elements generalizing items with
  | nil => simp [acceptsItems]
  | cons element rest ih =>
      cases items with
      | nil => simp [acceptsItems]
      | cons item others => simp [acceptsItems, ih]

@[simp] theorem acceptsAny_eq_any (alternatives : List Descriptor) (value : Value) :
    acceptsAny alternatives value =
      alternatives.any fun alternative => alternative.accepts value := by
  induction alternatives with
  | nil => simp [acceptsAny]
  | cons alternative rest ih => simp [acceptsAny, ih]

end TypedJson.Descriptor
