import Mathlib.Data.List.TakeWhile
import TypedJson.Descriptor.Describe
import TypedJson.Proofs.Binary64.Text
import TypedJson.Proofs.Descriptor.Alike
import TypedJson.Proofs.Pattern.Source
import TypedJson.Proofs.Result

namespace TypedJson

open Json (Value)

namespace Constraint

/-- The text of a constraint up to its argument. -/
def keyword : Constraint → String
  | minLength _ => "minLength("
  | maxLength _ => "maxLength("
  | pattern _ => "pattern("
  | format _ => "format("
  | minimum _ => ">= "
  | exclusiveMinimum _ => "> "
  | maximum _ => "<= "
  | exclusiveMaximum _ => "< "
  | integral => "integral"
  | minItems _ => "minItems("
  | maxItems _ => "maxItems("

/-- The text of a constraint from its argument on. -/
def argument : Constraint → String
  | minLength count => toString count ++ ")"
  | maxLength count => toString count ++ ")"
  | pattern search => search.text ++ ")"
  | format named => named.name ++ ")"
  | minimum bound => bound.text .bound
  | exclusiveMinimum bound => bound.text .bound
  | maximum bound => bound.text .bound
  | exclusiveMaximum bound => bound.text .bound
  | integral => ""
  | minItems count => toString count ++ ")"
  | maxItems count => toString count ++ ")"

/-- The text of a constraint is its keyword and its argument. -/
theorem text_eq_append (constraint : Constraint) :
    constraint.text = constraint.keyword ++ constraint.argument := by
  cases constraint <;> simp [text, keyword, argument, String.append_assoc]

def keywords : List String :=
  ["minLength(", "maxLength(", "pattern(", "format(", ">= ", "> ", "<= ", "< ", "integral",
    "minItems(", "maxItems("]

/-- There are no other keywords. -/
theorem keyword_mem (constraint : Constraint) : constraint.keyword ∈ keywords := by
  cases constraint <;> simp [keyword, keywords]

/-- No keyword is the start of another one. -/
theorem keywords_apart : ∀ left ∈ keywords, ∀ right ∈ keywords,
    left.toList <+: right.toList → left = right := by
  decide

/-- The text of a constraint tells its keyword. -/
theorem keyword_eq_of_text {left right : Constraint} (same : left.text = right.text) :
    left.keyword = right.keyword := by
  have chars : left.keyword.toList ++ left.argument.toList =
      right.keyword.toList ++ right.argument.toList := by
    rw [← String.toList_append, ← String.toList_append, ← text_eq_append, ← text_eq_append, same]
  have starts : left.keyword.toList <+: right.keyword.toList ++ right.argument.toList :=
    ⟨_, chars⟩
  rcases List.prefix_or_prefix_of_prefix starts (List.prefix_append _ _) with shorter | longer
  · exact keywords_apart _ left.keyword_mem _ right.keyword_mem shorter
  · exact (keywords_apart _ right.keyword_mem _ left.keyword_mem longer).symm

/-- The text of a constraint tells its argument. -/
theorem argument_eq_of_text {left right : Constraint} (same : left.text = right.text) :
    left.argument = right.argument := by
  have keywords := keyword_eq_of_text same
  rw [text_eq_append, text_eq_append, keywords] at same
  exact (String.append_right_inj _).mp same

/-- The text of a count tells the count. -/
theorem count_eq_of_text {left right : Nat} (same : toString left ++ ")" = toString right ++ ")") :
    left = right := by
  have digits := congrArg String.toList ((String.append_left_inj ")").mp same)
  have counts := congrArg (fun digits => Nat.ofDigitChars 10 digits 0) digits
  simpa using counts

/--
Constraints that are known by what is shown of them: patterns are made from a source, and formats
of one name make one check.
-/
structure Known (occurring : Constraint → Prop) : Prop where
  patterns : ∀ search, occurring (.pattern search) →
    ∃ source, Pattern.ofSource? source = some search
  formats : ∀ left right : Format, occurring (.format left) → occurring (.format right) →
    left.name = right.name → left.check = right.check

/-- The text of a constraint says which values satisfy it. -/
theorem alike_of_text {occurring : Constraint → Prop} (known : Known occurring)
    {left right : Constraint} (occurs : occurring left) (occursToo : occurring right)
    (same : left.text = right.text) : left.Alike right := by
  refine ⟨same, fun value => ?_⟩
  have keywords := keyword_eq_of_text same
  have arguments := argument_eq_of_text same
  cases left with
  | minLength count =>
      cases right with
      | minLength other => rw [count_eq_of_text arguments]
      | _ => simp [keyword] at keywords
  | maxLength count =>
      cases right with
      | maxLength other => rw [count_eq_of_text arguments]
      | _ => simp [keyword] at keywords
  | pattern search =>
      cases right with
      | pattern other =>
          obtain ⟨source, read⟩ := known.patterns search occurs
          obtain ⟨otherSource, readOther⟩ := known.patterns other occursToo
          have texts := (String.append_left_inj ")").mp arguments
          rw [holds, holds, Pattern.isMatch_eq_of_text read readOther texts]
      | _ => simp [keyword] at keywords
  | format named =>
      cases right with
      | format other =>
          have names := (String.append_left_inj ")").mp arguments
          rw [holds, holds, known.formats named other occurs occursToo names]
      | _ => simp [keyword] at keywords
  | minimum bound =>
      cases right with
      | minimum other => rw [Binary64.text_bound_injective arguments]
      | _ => simp [keyword] at keywords
  | exclusiveMinimum bound =>
      cases right with
      | exclusiveMinimum other => rw [Binary64.text_bound_injective arguments]
      | _ => simp [keyword] at keywords
  | maximum bound =>
      cases right with
      | maximum other => rw [Binary64.text_bound_injective arguments]
      | _ => simp [keyword] at keywords
  | exclusiveMaximum bound =>
      cases right with
      | exclusiveMaximum other => rw [Binary64.text_bound_injective arguments]
      | _ => simp [keyword] at keywords
  | integral =>
      cases right with
      | integral => rfl
      | _ => simp [keyword] at keywords
  | minItems count =>
      cases right with
      | minItems other => rw [count_eq_of_text arguments]
      | _ => simp [keyword] at keywords
  | maxItems count =>
      cases right with
      | maxItems other => rw [count_eq_of_text arguments]
      | _ => simp [keyword] at keywords

end Constraint

namespace Descriptor

/-- A constraint narrows some part of a type. -/
inductive Narrows (constraint : Constraint) : Descriptor → Prop
  | here {base : Descriptor} {constraints : Constraints} (inside : constraint ∈ constraints.list) :
    Narrows constraint (.refinement base constraints)
  | base {base : Descriptor} {constraints : Constraints} (part : Narrows constraint base) :
    Narrows constraint (.refinement base constraints)
  | field {label : Option String} {fields : List (Field Descriptor)} {field : Field Descriptor}
    (inside : field ∈ fields) (part : Narrows constraint field.type) :
    Narrows constraint (.struct label fields)
  | element {element : Descriptor} (part : Narrows constraint element) :
    Narrows constraint (.list element)
  | position {elements : List Descriptor} {element : Descriptor} (inside : element ∈ elements)
    (part : Narrows constraint element) : Narrows constraint (.tuple elements)
  | alternative {alternatives : List Descriptor} {alternative : Descriptor}
    (inside : alternative ∈ alternatives) (part : Narrows constraint alternative) :
    Narrows constraint (.union alternatives)
  | target {name : String} {target : Descriptor} (part : Narrows constraint target) :
    Narrows constraint (.custom name target)

/-- Elements are described one by one. -/
theorem describeAll_eq_map (elements : List Descriptor) :
    describeAll elements = elements.map describe := by
  induction elements with
  | nil => rfl
  | cons element rest ih => rw [describeAll, ih, List.map_cons]

/-- Fields are described one by one. -/
theorem describeFields_eq_map (fields : List (Field Descriptor)) :
    describeFields fields = fields.map fun field => (field.key,
      .object [("optional", .boolean field.optional), ("type", field.type.describe)]) := by
  induction fields with
  | nil => rfl
  | cons field rest ih => rw [describeFields, ih, List.map_cons]

/-- The description of a choice tells the choice. -/
theorem describeChoice_injective : Function.Injective describeChoice := by
  rintro ⟨value, label⟩ ⟨other, otherLabel⟩ same
  simp only [describeChoice, Value.object.injEq, List.cons.injEq, Prod.mk.injEq, Value.string.injEq,
    true_and, and_true] at same
  rw [same.1, same.2]

/-! ### Shapes -/

section Shapes

attribute [local simp] describe

variable {second : Descriptor}

/-- Nothing else is described like a primitive type. -/
theorem of_describe_primitive {kind : Primitive}
    (same : (primitive kind).describe = second.describe) : second = primitive kind := by
  cases second with
  | primitive other => cases kind <;> cases other <;> simp [Primitive.name] at same ⊢
  | _ => simp at same

/-- Nothing else is described like a closed set. -/
theorem of_describe_enumeration {choices : List Choice}
    (same : (enumeration choices).describe = second.describe) : second = enumeration choices := by
  cases second with
  | enumeration others =>
      simp only [describe, Value.object.injEq, List.cons.injEq, Prod.mk.injEq, Value.array.injEq,
        true_and, and_true] at same
      rw [List.map_injective_iff.mpr describeChoice_injective same]
  | _ => simp at same

/-- What is described like a refinement is one, with a base and constraints described alike. -/
theorem of_describe_refinement {base : Descriptor} {constraints : Constraints}
    (same : (refinement base constraints).describe = second.describe) :
    ∃ other others, second = refinement other others ∧ base.describe = other.describe ∧
      List.Forall₂ (fun left right : Constraint => left.text = right.text) constraints.list
        others.list := by
  cases second with
  | refinement other others =>
      simp only [describe, Value.object.injEq, List.cons_append, List.cons.injEq, Prod.mk.injEq,
        Value.array.injEq, true_and] at same
      refine ⟨other, others, rfl, same.1, ?_⟩
      exact (forall₂_of_map_eq same.2.1).imp fun _ _ texts => Value.string.inj texts
  | _ => simp at same

/-- What is described like a structure is one, with fields described alike. -/
theorem of_describe_struct {label : Option String} {fields : List (Field Descriptor)}
    (same : (struct label fields).describe = second.describe) :
    ∃ others, second = struct label others ∧ List.Forall₂ (fun left right : Field Descriptor =>
      left.key = right.key ∧ left.optional = right.optional ∧
        left.type.describe = right.type.describe) fields others := by
  cases second with
  | struct otherLabel others =>
      simp only [describe, Value.object.injEq, List.cons_append, List.nil_append, List.cons.injEq,
        Prod.mk.injEq, true_and] at same
      obtain ⟨members, labels⟩ := same
      rw [describeFields_eq_map, describeFields_eq_map] at members
      have sameLabel : label = otherLabel := by
        cases label <;> cases otherLabel <;> simp [describeLabel] at labels ⊢
        exact labels
      refine ⟨others, by rw [sameLabel], ?_⟩
      exact (forall₂_of_map_eq members).imp fun left right fields => by simpa using fields
  | _ => simp at same

/-- What is described like a list is one, with an element described alike. -/
theorem of_describe_list {element : Descriptor}
    (same : (list element).describe = second.describe) :
    ∃ other, second = list other ∧ element.describe = other.describe := by
  cases second with
  | list other => exact ⟨other, rfl, by simpa using same⟩
  | _ => simp at same

/-- What is described like a tuple is one, with elements described alike. -/
theorem of_describe_tuple {elements : List Descriptor}
    (same : (tuple elements).describe = second.describe) :
    ∃ others, second = tuple others ∧
      List.Forall₂ (fun left right => left.describe = right.describe) elements others := by
  cases second with
  | tuple others =>
      refine ⟨others, rfl, forall₂_of_map_eq ?_⟩
      simpa [describeAll_eq_map] using same
  | _ => simp at same

/-- What is described like a union is one, with alternatives described alike. -/
theorem of_describe_union {alternatives : List Descriptor}
    (same : (union alternatives).describe = second.describe) :
    ∃ others, second = union others ∧
      List.Forall₂ (fun left right => left.describe = right.describe) alternatives others := by
  cases second with
  | union others =>
      refine ⟨others, rfl, forall₂_of_map_eq ?_⟩
      simpa [describeAll_eq_map] using same
  | _ => simp at same

/-- What is described like a named type is one, with a target described alike. -/
theorem of_describe_custom {name : String} {target : Descriptor}
    (same : (custom name target).describe = second.describe) :
    ∃ other, second = custom name other ∧ target.describe = other.describe := by
  cases second with
  | custom otherName other =>
      simp only [describe, Value.object.injEq, List.cons.injEq, Prod.mk.injEq, Value.string.injEq,
        true_and, and_true] at same
      exact ⟨other, by rw [same.1], same.2⟩
  | _ => simp at same

end Shapes

/-! ### Types -/

/-- Types of one description are alike, if their constraints are known by their texts. -/
theorem alike_of_known {occurring : Constraint → Prop} (known : Constraint.Known occurring)
    {first second : Descriptor}
    (occurs : ∀ constraint, first.Narrows constraint → occurring constraint)
    (occursToo : ∀ constraint, second.Narrows constraint → occurring constraint)
    (same : first.describe = second.describe) : first.Alike second := by
  induction first using Descriptor.induction generalizing second with
  | primitive kind =>
      obtain rfl := of_describe_primitive same
      exact Alike.refl _
  | enumeration choices =>
      obtain rfl := of_describe_enumeration same
      exact Alike.refl _
  | refinement base constraints part =>
      obtain ⟨other, others, rfl, sameBase, texts⟩ := of_describe_refinement same
      apply Alike.refinement
      · exact part (fun constraint inside => occurs constraint (.base inside))
          (fun constraint inside => occursToo constraint (.base inside)) sameBase
      · refine forall₂_of_mem texts fun left inside right insideToo sameText => ?_
        exact Constraint.alike_of_text known (occurs left (.here inside))
          (occursToo right (.here insideToo)) sameText
  | struct label fields parts =>
      obtain ⟨others, rfl, sameFields⟩ := of_describe_struct same
      refine Alike.struct label (forall₂_of_mem sameFields ?_)
      rintro left inside right insideToo ⟨sameKey, sameOptional, sameType⟩
      refine ⟨sameKey, sameOptional, parts left inside ?_ ?_ sameType⟩
      · exact fun constraint part => occurs constraint (.field inside part)
      · exact fun constraint part => occursToo constraint (.field insideToo part)
  | list element part =>
      obtain ⟨other, rfl, sameElement⟩ := of_describe_list same
      exact Alike.list (part (fun constraint inside => occurs constraint (.element inside))
        (fun constraint inside => occursToo constraint (.element inside)) sameElement)
  | tuple elements parts =>
      obtain ⟨others, rfl, sameElements⟩ := of_describe_tuple same
      refine Alike.tuple (forall₂_of_mem sameElements ?_)
      intro left inside right insideToo sameElement
      exact parts left inside (fun constraint part => occurs constraint (.position inside part))
        (fun constraint part => occursToo constraint (.position insideToo part)) sameElement
  | union alternatives parts =>
      obtain ⟨others, rfl, sameAlternatives⟩ := of_describe_union same
      refine Alike.union (forall₂_of_mem sameAlternatives ?_)
      intro left inside right insideToo sameAlternative
      exact parts left inside (fun constraint part => occurs constraint (.alternative inside part))
        (fun constraint part => occursToo constraint (.alternative insideToo part)) sameAlternative
  | custom name target part =>
      obtain ⟨other, rfl, sameTarget⟩ := of_describe_custom same
      exact Alike.custom name (part (fun constraint inside => occurs constraint (.target inside))
        (fun constraint inside => occursToo constraint (.target inside)) sameTarget)

/--
A description loses nothing that matters: types with one description have one name, accept the same
values and give the same violations.
-/
theorem same_of_describe {first second : Descriptor}
    (known : Constraint.Known fun constraint =>
      first.Narrows constraint ∨ second.Narrows constraint)
    (same : first.describe = second.describe) :
    first.name = second.name ∧ (∀ value, first.accepts value = second.accepts value) ∧
      ∀ value, first.validate value = second.validate value := by
  have alike : first.Alike second :=
    alike_of_known known (fun _ => .inl) (fun _ => .inr) same
  refine ⟨alike.name, alike.accepts, fun value => ?_⟩
  rw [validate, validate, alike.report]

/-- A structure with a code that is to match a pattern, and be written as an address. -/
def codeStruct (search : Pattern) : Descriptor :=
  .struct none [⟨"code", .refinement (.primitive .string)
    ⟨[.pattern search, .format ⟨"email", Format.isMailAddress⟩], by simp⟩, false⟩]

/-- One pattern may be written in two ways, and both types are the same. -/
theorem same_of_describe_written_twice :
    ∃ bare delimited : Pattern, Pattern.ofSource? "a+" = some bare ∧
      Pattern.ofSource? "/a+/" = some delimited ∧ bare.source ≠ delimited.source ∧
        (codeStruct bare).describe = (codeStruct delimited).describe ∧
          (codeStruct bare).name = (codeStruct delimited).name ∧
          (∀ value, (codeStruct bare).accepts value = (codeStruct delimited).accepts value) ∧
          ∀ value, (codeStruct bare).validate value = (codeStruct delimited).validate value := by
  have made : (Pattern.Parts.matcher? ⟨['a', '+'], []⟩).isSome = true := rfl
  obtain ⟨matcher, isMatcher⟩ := Option.isSome_iff_exists.mp made
  have bare : Pattern.ofSource? "a+" = some ⟨"a+", ⟨['a', '+'], []⟩, matcher⟩ := by
    have parts : Pattern.Parts.ofSource "a+".toList = ⟨['a', '+'], []⟩ := by decide
    rw [Pattern.ofSource?, parts, isMatcher]
    rfl
  have delimited : Pattern.ofSource? "/a+/" = some ⟨"/a+/", ⟨['a', '+'], []⟩, matcher⟩ := by
    have parts : Pattern.Parts.ofSource "/a+/".toList = ⟨['a', '+'], []⟩ := by decide
    rw [Pattern.ofSource?, parts, isMatcher]
    rfl
  refine ⟨_, _, bare, delimited, by simp, rfl, ?_⟩
  have narrows {search : Pattern} {constraint : Constraint}
      (inside : (codeStruct search).Narrows constraint) :
      constraint = .pattern search ∨ constraint = .format ⟨"email", Format.isMailAddress⟩ := by
    cases inside with
    | field inside part =>
        obtain rfl := List.mem_singleton.mp inside
        cases part with
        | here inside => simpa using inside
        | base part => cases part
  refine same_of_describe ⟨?_, ?_⟩ ?_
  · rintro search (inside | inside)
    · rcases narrows inside with same | same
      · obtain rfl := Constraint.pattern.inj same
        exact ⟨_, bare⟩
      · cases same
    · rcases narrows inside with same | same
      · obtain rfl := Constraint.pattern.inj same
        exact ⟨_, delimited⟩
      · cases same
  · have mail {named : Format} {search : Pattern}
        (inside : (codeStruct search).Narrows (.format named)) :
        named.check = Format.isMailAddress := by
      rcases narrows inside with same | same
      · cases same
      · rw [Constraint.format.inj same]
    rintro left right (inside | inside) (insideToo | insideToo) -
    all_goals rw [mail inside, mail insideToo]
  · rfl

end Descriptor

end TypedJson
