import TypedJson.Proofs.Registry.Session
import TypedJson.Proofs.Schema.Extension
import TypedJson.Proofs.Schema.Keywords
import TypedJson.Proofs.Schema.Satisfies
import TypedJson.Proofs.Schema.WellFormed

namespace TypedJson

open Json (Value setMember)

/-- A registry that calls have made, from nothing or from the standard formats. -/
inductive Registry.Made : Registry → Prop
  | empty (calls : List Registry.Call) : Made (Registry.Session.empty.run calls).registry
  | standard (calls : List Registry.Call) : Made (Registry.Session.standard.run calls).registry

/-- The names of registered types are free. -/
theorem Registry.Made.unreserved {registry : Registry} (made : registry.Made) {name : String}
    {type : Descriptor} (registered : registry.type? name = some type) :
    Schema.Kind.isReserved name = false := by
  have inside : name ∈ registry.typeNames :=
    (registry.type?_isSome_iff name).mp (by rw [registered]; rfl)
  cases made with
  | empty calls => exact (Registry.Session.kept_empty.run calls).unreserved name inside
  | standard calls => exact (Registry.Session.kept_standard.run calls).unreserved name inside

/-- A name is registered for the type that a schema had before under fewer or equal names. -/
def Registry.Defines (registry : Registry) (name : String) (definition : Value) : Prop :=
  ∃ earlier type, registry.Extends earlier ∧ Schema.compile earlier definition = .ok type ∧
    registry.type? name = some type

/-- Both results are failures, or both are successes with related values. -/
inductive SameOutcome {First Second : Type} (related : First → Second → Prop) :
    Except Error First → Except Error Second → Prop
  | failed (first second : Error) : SameOutcome related (.error first) (.error second)
  | made {first : First} {second : Second} (same : related first second) :
      SameOutcome related (.ok first) (.ok second)

namespace SameOutcome

theorem refl {Item : Type} {related : Item → Item → Prop} (same : ∀ item, related item item)
    (result : Except Error Item) : SameOutcome related result result := by
  cases result with
  | error error => exact .failed error error
  | ok item => exact .made (same item)

theorem of_eq {Item : Type} {related : Item → Item → Prop} (same : ∀ item, related item item)
    {first second : Except Error Item} (equal : first = second) :
    SameOutcome related first second := by
  rw [equal]
  exact refl same second

theorem trans {Item : Type} {related : Item → Item → Prop}
    (transitive : ∀ first second third, related first second → related second third →
      related first third)
    {first second third : Except Error Item} (left : SameOutcome related first second)
    (right : SameOutcome related second third) : SameOutcome related first third := by
  cases left with
  | failed =>
      cases right
      exact .failed _ _
  | made leftSame =>
      cases right with
      | made rightSame => exact .made (transitive _ _ _ leftSame rightSame)

variable {First Second FirstNext SecondNext : Type} {related : First → Second → Prop}
  {relatedNext : FirstNext → SecondNext → Prop}

theorem bind {first : Except Error First} {second : Except Error Second}
    {firstNext : First → Except Error FirstNext} {secondNext : Second → Except Error SecondNext}
    (same : SameOutcome related first second)
    (each : ∀ firstValue secondValue, related firstValue secondValue →
      SameOutcome relatedNext (firstNext firstValue) (secondNext secondValue)) :
    SameOutcome relatedNext (first >>= firstNext) (second >>= secondNext) := by
  cases same with
  | failed => exact .failed _ _
  | made values => exact each _ _ values

theorem map {first : Except Error First} {second : Except Error Second}
    {firstChange : First → FirstNext} {secondChange : Second → SecondNext}
    (same : SameOutcome related first second)
    (each : ∀ firstValue secondValue, related firstValue secondValue →
      relatedNext (firstChange firstValue) (secondChange secondValue)) :
    SameOutcome relatedNext (first.map firstChange) (second.map secondChange) := by
  cases same with
  | failed => exact .failed _ _
  | made values => exact .made (each _ _ values)

/-- Work on two lists item by item. -/
theorem mapM {firstWork : First → Except Error FirstNext}
    {secondWork : Second → Except Error SecondNext} {firsts : List First} {seconds : List Second}
    (each : List.Forall₂ (fun first second =>
      SameOutcome relatedNext (firstWork first) (secondWork second)) firsts seconds) :
    SameOutcome (List.Forall₂ relatedNext) (firsts.mapM firstWork) (seconds.mapM secondWork) := by
  induction each with
  | nil => exact .made .nil
  | cons head rest ih =>
      rw [List.mapM_cons, List.mapM_cons]
      apply head.bind
      intro first second same
      apply ih.bind
      intro others secondOthers sameOthers
      exact .made (.cons same sameOthers)

/-- Of two results with the same outcome both succeed or none does. -/
theorem succeeds_iff {first : Except Error First} {second : Except Error Second}
    (same : SameOutcome related first second) :
    (∃ value, first = .ok value) ↔ ∃ value, second = .ok value := by
  cases same with
  | failed => simp
  | made => simp

/-- Two successes with the same outcome hold related values. -/
theorem related_of_ok {first : Except Error First} {second : Except Error Second}
    (same : SameOutcome related first second) {firstValue : First} {secondValue : Second}
    (isFirst : first = .ok firstValue) (isSecond : second = .ok secondValue) :
    related firstValue secondValue := by
  cases same with
  | failed => simp at isFirst
  | made values =>
      obtain rfl := Except.ok.inj isFirst
      obtain rfl := Except.ok.inj isSecond
      exact values

end SameOutcome

namespace Descriptor

/-- Types that no schema around them can tell apart: they accept the same values, and only the
boolean type itself makes a member that is not required wanted all the same. -/
structure Interchangeable (first second : Descriptor) : Prop where
  boolean : first.isPrimitive .boolean = second.isPrimitive .boolean
  accepts : ∀ value, first.accepts value = second.accepts value

namespace Interchangeable

theorem refl (type : Descriptor) : type.Interchangeable type := ⟨rfl, fun _ => rfl⟩

theorem trans {first second third : Descriptor} (left : first.Interchangeable second)
    (right : second.Interchangeable third) : first.Interchangeable third where
  boolean := left.boolean.trans right.boolean
  accepts value := (left.accepts value).trans (right.accepts value)

/-- Lists of interchangeable elements are interchangeable. -/
theorem list {first second : Descriptor} (same : first.Interchangeable second) :
    (Descriptor.list first).Interchangeable (.list second) where
  boolean := rfl
  accepts value := by
    have items : first.accepts = second.accepts := funext same.accepts
    rw [Descriptor.accepts, Descriptor.accepts, items]

/-- Places with interchangeable types accept the same items. -/
theorem acceptsItems_eq {firsts seconds : List Descriptor}
    (same : List.Forall₂ Interchangeable firsts seconds) (items : List Value) :
    acceptsItems firsts items = acceptsItems seconds items := by
  induction same generalizing items with
  | nil => rfl
  | cons head rest ih =>
      cases items with
      | nil => rfl
      | cons item others => rw [acceptsItems, acceptsItems, head.accepts, ih]

/-- Tuples of interchangeable elements are interchangeable. -/
theorem tuple {firsts seconds : List Descriptor}
    (same : List.Forall₂ Interchangeable firsts seconds) :
    (Descriptor.tuple firsts).Interchangeable (.tuple seconds) where
  boolean := rfl
  accepts value := by
    rw [Descriptor.accepts, Descriptor.accepts, same.length_eq]
    simp only [acceptsItems_eq same]

/-- Unions of interchangeable alternatives are interchangeable. -/
theorem union {firsts seconds : List Descriptor}
    (same : List.Forall₂ Interchangeable firsts seconds) :
    (Descriptor.union firsts).Interchangeable (.union seconds) where
  boolean := rfl
  accepts value := by
    rw [Descriptor.accepts, Descriptor.accepts]
    induction same with
    | nil => rfl
    | cons head rest ih => rw [acceptsAny, acceptsAny, head.accepts, ih]

/-- Fields of one key that are both optional or both not, of interchangeable types. -/
structure Fields (first second : Field Descriptor) : Prop where
  key : first.key = second.key
  optional : first.optional = second.optional
  type : first.type.Interchangeable second.type

/-- Structures of interchangeable fields are interchangeable. -/
theorem struct {firsts seconds : List (Field Descriptor)} (same : List.Forall₂ Fields firsts seconds)
    (label secondLabel : Option String) :
    (Descriptor.struct label firsts).Interchangeable (.struct secondLabel seconds) where
  boolean := rfl
  accepts value := by
    have fields (members : List (String × Value)) :
        acceptsFields firsts members = acceptsFields seconds members := by
      induction same with
      | nil => rfl
      | cons head rest ih =>
          rw [acceptsFields, acceptsFields, head.key, head.optional, head.type.accepts, ih]
    rw [Descriptor.accepts, Descriptor.accepts]
    simp only [fields]

/-- The same constraints keep types interchangeable. -/
theorem refine {first second : Descriptor} (same : first.Interchangeable second)
    (constraints : List Constraint) :
    (first.refine constraints).Interchangeable (second.refine constraints) := by
  unfold Descriptor.refine
  split
  · constructor
    · rfl
    · intro value
      rw [Descriptor.accepts, Descriptor.accepts, same.accepts]
  · exact same

end Interchangeable

end Descriptor

open Descriptor (Interchangeable)

namespace Schema

/-- Two schemas that can stand for each other wherever a schema may stand. -/
structure Alike (registry : Registry) (first second : Value) : Prop where
  objects : first.members?.isSome = second.members?.isSome
  outcome : SameOutcome Interchangeable (compile registry first) (compile registry second)

/-- Properties of the same keys in the same order, whose schemas are alike. -/
def AlikeProperties (registry : Registry) : List (String × Value) → List (String × Value) → Prop :=
  List.Forall₂ fun first second => first.1 = second.1 ∧ Alike registry first.2 second.2

/-- Two nodes that differ at most in the schemas inside them, and in these are alike. -/
structure AlikeNodes (registry : Registry) (first second : Node) : Prop where
  keyword : ∀ keyword, keyword ≠ "properties" → keyword ≠ "items" →
    first.get? keyword = second.get? keyword
  properties : first.get? "properties" = second.get? "properties" ∨
    ∃ firsts seconds, first.get? "properties" = some (.object firsts) ∧
      second.get? "properties" = some (.object seconds) ∧
      AlikeProperties registry firsts seconds
  items : first.get? "items" = second.get? "items" ∨
    (∃ element other, first.get? "items" = some (.object element) ∧
      second.get? "items" = some (.object other) ∧
      Alike registry (.object element) (.object other)) ∨
    ∃ nodes others, first.get? "items" = some (.array nodes) ∧
      second.get? "items" = some (.array others) ∧ List.Forall₂ (Alike registry) nodes others

section Keywords

variable {first second : Node}

/-- Whether a list of names is read does not depend on the node. -/
theorem typeNames_sameOutcome (first second : Node) (names : List Value) :
    SameOutcome Eq (first.typeNames names) (second.typeNames names) := by
  induction names with
  | nil => exact .made rfl
  | cons name rest ih =>
      cases name with
      | string text =>
          rw [Node.typeNames, Node.typeNames]
          apply ih.map
          intro found other same
          rw [same]
      | _ =>
          simp only [Node.typeNames]
          exact .failed _ _

/-- The errors show the nodes, which differ; the names do not. -/
theorem typeField_sameOutcome (same : first.get? "type" = second.get? "type") :
    SameOutcome Eq first.typeField second.typeField := by
  rw [Node.typeField, Node.typeField, same]
  cases second.get? "type" with
  | none => exact .made rfl
  | some value =>
      cases value with
      | string name => exact .made rfl
      | array names =>
          apply (typeNames_sameOutcome first second names).map
          intro found other same
          rw [same]
      | _ => exact .failed _ _

end Keywords

section Nodes

variable {registry : Registry} {first second : List (String × Value)}

/-- Alike nodes agree on keywords with no nested schemas. -/
theorem AlikeNodes.agree (alike : AlikeNodes registry ⟨first⟩ ⟨second⟩) {keywords : List String}
    (noProperties : "properties" ∉ keywords) (noItems : "items" ∉ keywords) :
    Agree keywords first second := by
  intro keyword inside
  apply alike.keyword keyword
  · rintro rfl
    exact noProperties inside
  · rintro rfl
    exact noItems inside

/-- Members of the same keys in the same order, of interchangeable types. -/
def AlikeMembers : List (String × Descriptor) → List (String × Descriptor) → Prop :=
  List.Forall₂ fun first second => first.1 = second.1 ∧ first.2.Interchangeable second.2

/-- Alike properties compile alike. -/
theorem compileMembers_sameOutcome {firsts seconds : List (String × Value)}
    (alike : AlikeProperties registry firsts seconds) :
    SameOutcome AlikeMembers (compileMembers registry firsts) (compileMembers registry seconds) := by
  rw [compileMembers_eq_mapM, compileMembers_eq_mapM]
  apply SameOutcome.mapM
  apply alike.imp
  intro firstProperty secondProperty both
  obtain ⟨key, schemas⟩ := both
  apply schemas.outcome.map
  intro type other same
  exact ⟨key, same⟩

/-- Alike types of properties make interchangeable fields. -/
theorem fieldOf_alike (required : List String) {types others : List (String × Descriptor)}
    (alike : AlikeMembers types others) :
    List.Forall₂ Interchangeable.Fields
      (types.map fun member => fieldOf required member.1 member.2)
      (others.map fun member => fieldOf required member.1 member.2) := by
  rw [List.forall₂_map_left_iff, List.forall₂_map_right_iff]
  apply alike.imp
  intro member other both
  obtain ⟨key, same⟩ := both
  constructor
  · exact key
  · rw [fieldOf, fieldOf, key, same.boolean]
  · exact same

/-- Alike nodes make interchangeable types of objects. -/
theorem objectType_sameOutcome (alike : AlikeNodes registry ⟨first⟩ ⟨second⟩) :
    SameOutcome Interchangeable
      (objectType ⟨first⟩ fun _ => propertyTypes registry first)
      (objectType ⟨second⟩ fun _ => propertyTypes registry second) := by
  have required := required_congr (alike.keyword "required" (by decide) (by decide))
  have label := string_congr (alike.keyword "description" (by decide) (by decide))
  rcases alike.properties with same | ⟨firsts, seconds, ofFirst, ofSecond, properties⟩
  · have types : propertyTypes registry first = propertyTypes registry second := by
      rw [Node.get?, Node.get?] at same
      rw [propertyTypes_eq_lookup, propertyTypes_eq_lookup, same]
    apply SameOutcome.of_eq Interchangeable.refl
    unfold objectType
    rw [Node.properties, Node.properties, same, required, label, types]
  · have types : SameOutcome AlikeMembers (propertyTypes registry first)
        (propertyTypes registry second) := by
      rw [Node.get?] at ofFirst ofSecond
      rw [propertyTypes_eq_lookup, propertyTypes_eq_lookup, ofFirst, ofSecond]
      exact compileMembers_sameOutcome properties
    unfold objectType
    rw [properties_eq_some.mpr ofFirst, properties_eq_some.mpr ofSecond, required, label]
    cases properties with
    | nil => exact .made (.refl _)
    | cons head rest =>
        change SameOutcome _ (Node.required ⟨second⟩ >>= _) (Node.required ⟨second⟩ >>= _)
        apply (SameOutcome.refl (fun _ => rfl) (Node.required ⟨second⟩)).bind
        intro names _ sameNames
        apply types.bind
        intro firstTypes secondTypes sameTypes
        apply (SameOutcome.refl (fun _ => rfl) _).bind
        intro text otherText _
        apply SameOutcome.made
        rw [sameNames]
        exact Interchangeable.struct (fieldOf_alike _ sameTypes) text otherText

/-- Types of items that are all absent, both single, or one for each of as many positions. -/
inductive AlikeItems : ItemTypes → ItemTypes → Prop
  | any : AlikeItems .any .any
  | single {type other : Descriptor} (same : type.Interchangeable other) :
      AlikeItems (.single type) (.single other)
  | tuple {types others : List Descriptor} (same : List.Forall₂ Interchangeable types others) :
      AlikeItems (.tuple types) (.tuple others)

theorem AlikeItems.refl (types : ItemTypes) : AlikeItems types types := by
  cases types with
  | any => exact .any
  | single type => exact .single (.refl type)
  | tuple types => exact .tuple (List.forall₂_same.mpr fun type _ => .refl type)

/-- Alike schemas compile to interchangeable types, place by place. -/
theorem compileAll_sameOutcome {nodes others : List Value}
    (alike : List.Forall₂ (Alike registry) nodes others) :
    SameOutcome (List.Forall₂ Interchangeable) (compileAll registry nodes)
      (compileAll registry others) := by
  rw [compileAll_eq_mapM, compileAll_eq_mapM]
  apply SameOutcome.mapM
  apply alike.imp
  intro node other schemas
  exact schemas.outcome

/-- Alike nodes have alike types of items. -/
theorem itemTypes_sameOutcome (alike : AlikeNodes registry ⟨first⟩ ⟨second⟩) :
    SameOutcome AlikeItems (itemTypes registry first) (itemTypes registry second) := by
  rw [itemTypes_eq_lookup, itemTypes_eq_lookup]
  rcases alike.items with same | ⟨element, other, ofFirst, ofSecond, schemas⟩ |
    ⟨nodes, others, ofFirst, ofSecond, schemas⟩
  · rw [Node.get?, Node.get?] at same
    rw [same]
    exact .refl AlikeItems.refl _
  · rw [Node.get?] at ofFirst ofSecond
    rw [ofFirst, ofSecond]
    apply schemas.outcome.map
    intro type otherType same
    exact .single same
  · rw [Node.get?] at ofFirst ofSecond
    rw [ofFirst, ofSecond]
    apply (compileAll_sameOutcome schemas).map
    intro types otherTypes same
    exact .tuple same

/-- Alike nodes both have items that can be read or neither has. -/
theorem items_sameOutcome (alike : AlikeNodes registry ⟨first⟩ ⟨second⟩) :
    SameOutcome (fun _ _ => True) (Node.items ⟨first⟩) (Node.items ⟨second⟩) := by
  rw [Node.items, Node.items]
  rcases alike.items with same | ⟨element, other, ofFirst, ofSecond, -⟩ |
    ⟨nodes, others, ofFirst, ofSecond, -⟩
  · rw [same]
    exact .refl (fun _ => trivial) _
  · rw [ofFirst, ofSecond]
    exact .made trivial
  · rw [ofFirst, ofSecond]
    exact .made trivial

/-- Bounds from alike nodes keep lists interchangeable. -/
theorem bounded_sameOutcome (alike : AlikeNodes registry ⟨first⟩ ⟨second⟩)
    {base other : Descriptor} (same : base.Interchangeable other) :
    SameOutcome Interchangeable (arrayType.bounded ⟨first⟩ base)
      (arrayType.bounded ⟨second⟩ other) := by
  unfold arrayType.bounded
  rw [count_congr (alike.keyword "minItems" (by decide) (by decide)),
    count_congr (alike.keyword "maxItems" (by decide) (by decide))]
  apply (SameOutcome.refl (fun _ => rfl) _).bind
  intro least _ sameLeast
  apply (SameOutcome.refl (fun _ => rfl) _).bind
  intro greatest _ sameGreatest
  rw [sameLeast, sameGreatest]
  exact .made (same.refine _)

/-- Alike nodes make interchangeable types of arrays. -/
theorem arrayType_sameOutcome (alike : AlikeNodes registry ⟨first⟩ ⟨second⟩) :
    SameOutcome Interchangeable (arrayType ⟨first⟩ fun _ => itemTypes registry first)
      (arrayType ⟨second⟩ fun _ => itemTypes registry second) := by
  unfold arrayType
  apply (items_sameOutcome alike).bind
  intro items otherItems _
  apply (itemTypes_sameOutcome alike).bind
  intro types otherTypes same
  cases same with
  | any => exact bounded_sameOutcome alike (.refl _)
  | single same => exact bounded_sameOutcome alike same.list
  | tuple same => exact .made (.tuple same)

/-- Alike nodes make interchangeable types of every name. -/
theorem namedType_sameOutcome (alike : AlikeNodes registry ⟨first⟩ ⟨second⟩) (name : TypeName) :
    SameOutcome Interchangeable
      (namedType registry ⟨first⟩ (fun _ => propertyTypes registry first)
        (fun _ => itemTypes registry first) name)
      (namedType registry ⟨second⟩ (fun _ => propertyTypes registry second)
        (fun _ => itemTypes registry second) name) := by
  cases name with
  | custom custom =>
      unfold namedType
      dsimp only
      cases registry.type? custom with
      | some target => exact .made (.refl _)
      | none => exact .failed _ _
  | kind kind =>
      cases kind with
      | null => exact .made (.refl _)
      | boolean => exact .made (.refl _)
      | string =>
        exact .of_eq Interchangeable.refl (stringType_congr (alike.agree (by decide) (by decide)))
      | number =>
        exact .of_eq Interchangeable.refl (numberType_congr (alike.agree (by decide) (by decide)))
      | integer =>
        exact .of_eq Interchangeable.refl (integerType_congr (alike.agree (by decide) (by decide)))
      | object => exact objectType_sameOutcome alike
      | array => exact arrayType_sameOutcome alike

/-- A node whose nested schemas are exchanged for alike ones is alike itself. -/
theorem AlikeNodes.alike (alike : AlikeNodes registry ⟨first⟩ ⟨second⟩) :
    Alike registry (.object first) (.object second) where
  objects := rfl
  outcome := by
    have named := namedType_sameOutcome alike
    rw [compile, compile]
    apply (typeField_sameOutcome (alike.keyword "type" (by decide) (by decide))).bind
    intro field _ sameField
    rw [← sameField]
    cases field with
    | absent => exact .made (.refl _)
    | one name => exact named name
    | many names =>
        have all : List.Forall₂ (fun name other => SameOutcome Interchangeable
            (namedType registry ⟨first⟩ (fun _ => propertyTypes registry first)
              (fun _ => itemTypes registry first) name)
            (namedType registry ⟨second⟩ (fun _ => propertyTypes registry second)
              (fun _ => itemTypes registry second) other)) names names :=
          List.forall₂_same.mpr fun name _ => named name
        apply (SameOutcome.mapM all).bind
        intro types others same
        exact .made (.union same)

end Nodes

/--
One schema is another one in which nodes whose type is a name are replaced by a definition. The
nodes are the schema itself, or stand as properties, items or positions, to any depth.
-/
inductive Replaced (name : String) (definition : Value) : Value → Value → Prop
  | same (schema : Value) : Replaced name definition schema schema
  | node {members : List (String × Value)}
      (given : members.lookup "type" = some (.string name)) :
      Replaced name definition (.object members) definition
  | property {members before after : List (String × Value)} {key : String} {schema other : Value}
      (given : members.lookup "properties" = some (.object (before ++ (key, schema) :: after)))
      (replaced : Replaced name definition schema other) :
      Replaced name definition (.object members)
        (.object (setMember "properties" (.object (before ++ (key, other) :: after)) members))
  | items {members element : List (String × Value)} {other : Value}
      (given : members.lookup "items" = some (.object element))
      (replaced : Replaced name definition (.object element) other) :
      Replaced name definition (.object members) (.object (setMember "items" other members))
  | position {members : List (String × Value)} {before after : List Value} {schema other : Value}
      (given : members.lookup "items" = some (.array (before ++ schema :: after)))
      (replaced : Replaced name definition schema other) :
      Replaced name definition (.object members)
        (.object (setMember "items" (.array (before ++ other :: after)) members))
  | trans {first second third : Value} (left : Replaced name definition first second)
      (right : Replaced name definition second third) : Replaced name definition first third

namespace Alike

variable {registry : Registry}

theorem refl (schema : Value) : Alike registry schema schema := ⟨rfl, .refl .refl _⟩

theorem trans {first second third : Value} (left : Alike registry first second)
    (right : Alike registry second third) : Alike registry first third where
  objects := left.objects.trans right.objects
  outcome := left.outcome.trans (fun _ _ _ => .trans) right.outcome

/-- A node that names a type is alike to the definition of the type. -/
theorem definition {name : String} {definition : Value} {type : Descriptor}
    {members : List (String × Value)} (given : members.lookup "type" = some (.string name))
    (free : Kind.isReserved name = false) (registered : registry.type? name = some type)
    (compiled : compile registry definition = .ok type)
    (notBoolean : definition.member? "type" ≠ some (.string "boolean")) :
    Alike registry (.object members) definition where
  objects := by cases definition <;> simp_all [compile, Value.members?]
  outcome := by
    have custom : compile registry (.object members) = .ok (.custom name type) := by
      apply compile_object_eq_ok.mpr
      right
      left
      refine ⟨name, given, ?_⟩
      rw [typeFor, ofText_eq_custom.mpr ⟨free, rfl⟩, namedType, registered]
    rw [custom, compiled]
    apply SameOutcome.made
    constructor
    · have plain := mt (isBoolean_of_compile compiled).mp notBoolean
      rw [Bool.not_eq_true] at plain
      rw [plain]
      rfl
    · intro value
      rw [Descriptor.accepts]

/-- Replacing a property by one that is alike leaves the schema alike. -/
theorem property {members before after : List (String × Value)} {key : String}
    {schema other : Value}
    (given : members.lookup "properties" = some (.object (before ++ (key, schema) :: after)))
    (alike : Alike registry schema other) :
    Alike registry (.object members)
      (.object (setMember "properties" (.object (before ++ (key, other) :: after)) members)) := by
  apply AlikeNodes.alike
  constructor
  · intro keyword notProperties _
    exact (Json.lookup_setMember_of_ne notProperties _ _).symm
  · right
    refine ⟨_, _, given, Json.lookup_setMember _ _ _, ?_⟩
    have others (properties : List (String × Value)) :
        AlikeProperties registry properties properties :=
      List.forall₂_same.mpr fun property _ => ⟨rfl, refl property.2⟩
    exact List.rel_append (others before) (.cons ⟨rfl, alike⟩ (others after))
  · left
    exact (Json.lookup_setMember_of_ne (by decide) _ _).symm

/-- Replacing the items by one that is alike leaves the schema alike. -/
theorem items {members element : List (String × Value)} {other : Value}
    (given : members.lookup "items" = some (.object element))
    (alike : Alike registry (.object element) other) :
    Alike registry (.object members) (.object (setMember "items" other members)) := by
  obtain ⟨otherElement, rfl⟩ : ∃ otherElement, other = .object otherElement := by
    have objects := alike.objects
    cases other <;> simp_all [Value.members?]
  apply AlikeNodes.alike
  constructor
  · intro keyword _ notItems
    exact (Json.lookup_setMember_of_ne notItems _ _).symm
  · left
    exact (Json.lookup_setMember_of_ne (by decide) _ _).symm
  · right
    left
    exact ⟨element, otherElement, given, Json.lookup_setMember _ _ _, alike⟩

/-- Replacing one of a list of items by one that is alike leaves the schema alike. -/
theorem position {members : List (String × Value)} {before after : List Value}
    {schema other : Value}
    (given : members.lookup "items" = some (.array (before ++ schema :: after)))
    (alike : Alike registry schema other) :
    Alike registry (.object members)
      (.object (setMember "items" (.array (before ++ other :: after)) members)) := by
  apply AlikeNodes.alike
  constructor
  · intro keyword _ notItems
    exact (Json.lookup_setMember_of_ne notItems _ _).symm
  · left
    exact (Json.lookup_setMember_of_ne (by decide) _ _).symm
  · right
    right
    refine ⟨_, _, given, Json.lookup_setMember _ _ _, ?_⟩
    have others (nodes : List Value) : List.Forall₂ (Alike registry) nodes nodes :=
      List.forall₂_same.mpr fun node _ => refl node
    exact List.rel_append (others before) (.cons alike (others after))

end Alike

/-- Replacement keeps what a schema stands for, if the definition is alike to each of its names. -/
theorem Replaced.alike {registry : Registry} {name : String} {definition schema other : Value}
    (replaced : Replaced name definition schema other)
    (named : ∀ members, members.lookup "type" = some (.string name) →
      Alike registry (.object members) definition) : Alike registry schema other := by
  induction replaced with
  | same schema => exact .refl schema
  | node given => exact named _ given
  | property given _ ih => exact .property given ih
  | items given _ ih => exact .items given ih
  | position given _ ih => exact .position given ih
  | trans _ _ left right => exact left.trans right

/--
The name of a registered type may be replaced by the definition of the type, unless that is the
boolean schema: whether the schema compiles and which values its type accepts stays the same.
-/
theorem accepts_of_replaced {registry : Registry} (made : registry.Made) {name : String}
    {definition : Value} (defines : registry.Defines name definition)
    (notBoolean : definition.member? "type" ≠ some (.string "boolean")) {schema other : Value}
    (replaced : Replaced name definition schema other) :
    ((∃ type, compile registry schema = .ok type) ↔
        ∃ type, compile registry other = .ok type) ∧
      ∀ type otherType, compile registry schema = .ok type →
        compile registry other = .ok otherType →
          ∀ value, type.accepts value = otherType.accepts value := by
  obtain ⟨earlier, type, extension, compiledEarlier, registered⟩ := defines
  have compiled : compile registry definition = .ok type :=
    (persists_compile extension definition).eq_ok compiledEarlier
  have alike : Alike registry schema other := by
    apply replaced.alike
    intro members given
    exact .definition given (made.unreserved registered) registered compiled notBoolean
  constructor
  · exact alike.outcome.succeeds_iff
  · intro type otherType isType isOther
    exact (alike.outcome.related_of_ok isType isOther).accepts

/-- A price that is a property and a list of prices, each written out instead of named. -/
theorem accepts_of_replaced_price :
    let price := Value.object [("type", .string "number"), ("minimum", .number (.integer 0 (by decide)))]
    let named := Value.object [("type", .string "Price")]
    let record := fun first second => Value.object [("type", .string "object"),
      ("properties", .object [("now", first), ("past", .object [("type", .string "array"),
        ("items", second)])])]
    let type := (Descriptor.primitive .number).refine [.minimum (.ofInt 0)]
    let registry : Registry := (Registry.Session.empty.run [.registerType "Price" type]).registry
    Replaced "Price" price (record named named) (record price price) ∧
      (∃ type, compile registry (record price price) = .ok type) ∧
      ∀ type otherType, compile registry (record named named) = .ok type →
        compile registry (record price price) = .ok otherType →
          ∀ value, type.accepts value = otherType.accepts value := by
  intro price named record type registry
  have defines : registry.Defines "Price" price := by
    refine ⟨.empty, type, ⟨?_, ?_⟩, rfl, rfl⟩
    · intro name format found
      simp [Registry.empty, Registry.format?] at found
    · intro name type found
      simp [Registry.empty, Registry.type?] at found
  have replaced : Replaced "Price" price (record named named) (record price price) := by
    have first : Replaced "Price" price (record named named) (record price named) :=
      @Replaced.property _ _ _ [] _ "now" named price rfl (.node rfl)
    have list : Replaced "Price" price (.object [("type", .string "array"), ("items", named)])
        (.object [("type", .string "array"), ("items", price)]) := .items rfl (.node rfl)
    have second : Replaced "Price" price (record price named) (record price price) :=
      @Replaced.property _ _ _ [("now", price)] [] "past" _ _ rfl list
    exact first.trans second
  have notBoolean : price.member? "type" ≠ some (.string "boolean") := by
    simp [price, Value.member?]
  have result := accepts_of_replaced (.empty _) defines notBoolean replaced
  exact ⟨replaced, result.1.mp ⟨_, rfl⟩, result.2⟩

end Schema

end TypedJson
