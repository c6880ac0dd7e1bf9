import Mathlib.Logic.Relation
import TypedJson.Proofs.Json.Members
import TypedJson.Proofs.Schema.Satisfies
import TypedJson.Proofs.Result

namespace TypedJson

open Json (Value setMember)

/-- What is less is no greater. -/
theorem Binary64.le_of_lt {left right : Binary64} (less : left < right) : left ≤ right :=
  (le_iff left right).mpr (Int.le_of_lt ((lt_iff left right).mp less))

namespace Schema

/-- One schema asks for all that another one asks for, and is boolean if that one is. -/
structure Narrower (registry : Registry) (other schema : Value) : Prop where
  boolean : IsBoolean schema → IsBoolean other
  values : ∀ value, Satisfies registry other value → Satisfies registry schema value

/-- Items that are asked for in addition, or are narrowed where they are. -/
inductive NarrowerItems (registry : Registry) : Option Value → Option Value → Prop
  | added {other : Option Value} (noList : ∀ nodes, other ≠ some (.array nodes)) :
      NarrowerItems registry other none
  | positions {others nodes : List Value}
      (all : List.Forall₂ (Narrower registry) others nodes) :
      NarrowerItems registry (some (.array others)) (some (.array nodes))
  | single {other element : Value} (otherNoList : ∀ nodes, other ≠ .array nodes)
      (noList : ∀ nodes, element ≠ .array nodes) (narrower : Narrower registry other element) :
      NarrowerItems registry (some other) (some element)

/-- A node that has all keywords of another one, with schemas inside that are narrower. -/
structure NarrowerNode (registry : Registry) (other node : Node) : Prop where
  keyword : ∀ keyword value, keyword ≠ "properties" → keyword ≠ "items" →
    node.get? keyword = some value → other.get? keyword = some value
  noSet : node.get? "enum" = none → other.get? "enum" = none
  properties : ∀ members, node.get? "properties" = some (.object members) →
    ∃ others, other.get? "properties" = some (.object others) ∧
      List.Forall₂ (fun one two => one.1 = two.1 ∧ Narrower registry one.2 two.2) others members
  items : NarrowerItems registry (other.get? "items") (node.get? "items")

theorem Narrower.refl (registry : Registry) (schema : Value) : Narrower registry schema schema :=
  ⟨id, fun _ => id⟩

theorem Narrower.trans {registry : Registry} {first second third : Value}
    (left : Narrower registry first second) (right : Narrower registry second third) :
    Narrower registry first third :=
  ⟨left.boolean ∘ right.boolean, fun value => right.values value ∘ left.values value⟩

namespace NarrowerNode

variable {registry : Registry} {other node : Node} (narrower : NarrowerNode registry other node)

include narrower

section Keywords

variable {keyword : String} (plain : keyword ≠ "properties" ∧ keyword ≠ "items")

include plain

/-- A count stays with further keywords. -/
theorem count_kept {bound : Nat} (read : node.count keyword = .ok (some bound)) :
    other.count keyword = .ok (some bound) := by
  unfold Node.count at read ⊢
  split at read
  · simp at read
  · next value given =>
      rw [narrower.keyword keyword value plain.1 plain.2 given]
      exact read

/-- A number stays with further keywords. -/
theorem number?_kept {bound : Binary64} (read : node.number? keyword = some bound) :
    other.number? keyword = some bound := by
  unfold Node.number? at read ⊢
  cases given : node.get? keyword with
  | none => simp [given] at read
  | some value => rwa [narrower.keyword keyword value plain.1 plain.2 given, ← given]

/-- A keyword that is truthy is read as it is in the narrower node. -/
theorem flag_kept (truthy : node.flag keyword = true) :
    other.flag keyword = true ∧ other.number? keyword = node.number? keyword := by
  unfold Node.flag Node.number? at *
  cases given : node.get? keyword with
  | none => simp [given] at truthy
  | some value =>
      rw [narrower.keyword keyword value plain.1 plain.2 given]
      rw [given] at truthy
      exact ⟨truthy, rfl⟩

end Keywords

/-- Sizes within the counts of more keywords are within those of fewer. -/
theorem withinCounts {least greatest : String} (plain : least ≠ "properties" ∧ least ≠ "items")
    (plainToo : greatest ≠ "properties" ∧ greatest ≠ "items") {size : Nat}
    (within : WithinCounts other least greatest size) : WithinCounts node least greatest size :=
  ⟨fun bound read => within.1 bound (narrower.count_kept plain read),
    fun bound read => within.2 bound (narrower.count_kept plainToo read)⟩

/-- Texts that fit more keywords fit fewer. -/
theorem textFits {text : String} (fits : TextFits registry other text) :
    TextFits registry node text where
  length := narrower.withinCounts (by decide) (by decide) fits.length
  pattern source given :=
    fits.pattern source (narrower.keyword _ _ (by decide) (by decide) given)
  format name given := fits.format name (narrower.keyword _ _ (by decide) (by decide) given)

/-- Strings that fit more keywords fit fewer, unless an enumeration is added. -/
theorem stringFits {value : Value} (fits : StringFits registry other value) :
    StringFits registry node value := by
  unfold StringFits at fits ⊢
  cases given : node.get? "enum" with
  | none =>
      rw [narrower.noSet given] at fits
      obtain ⟨text, same, fitsText⟩ := fits
      exact ⟨text, same, narrower.textFits fitsText⟩
  | some keyword =>
      rw [narrower.keyword _ _ (by decide) (by decide) given] at fits
      cases keyword <;> exact fits

/-- A further exclusive keyword makes a bound strict, or adds a bound of its own. -/
theorem boundFits {keyword exclusive : String} {weak strict : Binary64 → Prop}
    (weaker : ∀ bound, strict bound → weak bound)
    (plain : keyword ≠ "properties" ∧ keyword ≠ "items")
    (plainToo : exclusive ≠ "properties" ∧ exclusive ≠ "items")
    (fits : BoundFits other keyword exclusive weak strict) :
    BoundFits node keyword exclusive weak strict where
  weakly bound read _ := by
    have readToo := narrower.number?_kept plain read
    by_cases strictly : other.number? exclusive = none ∧ other.flag exclusive = true
    · exact weaker bound (fits.strictly bound readToo strictly.1 strictly.2)
    · exact fits.weakly bound readToo strictly
  strictly bound read noNumber truthy := by
    obtain ⟨truthyToo, same⟩ := narrower.flag_kept plainToo truthy
    exact fits.strictly bound (narrower.number?_kept plain read) (same.trans noNumber) truthyToo
  further bound read := fits.further bound (narrower.number?_kept plainToo read)

/-- Numbers that fit more keywords fit fewer. -/
theorem numberFits {number : Binary64} (fits : NumberFits other number) : NumberFits node number where
  least := narrower.boundFits (fun _ below => Binary64.le_of_lt below) (by decide) (by decide) fits.least
  greatest := narrower.boundFits (fun _ above => Binary64.le_of_lt above) (by decide) (by decide)
    fits.greatest

/-- What fewer keywords require is required by more. -/
theorem requires {key : String} (required : Requires node key) : Requires other key := by
  obtain ⟨names, given, inside⟩ := required
  exact ⟨names, narrower.keyword _ _ (by decide) (by decide) given, inside⟩

/-- A property of a narrower schema holds of the wider one. -/
theorem propertyHolds {found : List (String × Value)} {property otherProperty : String × Value}
    (sameKey : otherProperty.1 = property.1)
    (inner : Narrower registry otherProperty.2 property.2)
    (holds : PropertyHolds registry other found otherProperty) :
    PropertyHolds registry node found property := by
  unfold PropertyHolds at holds ⊢
  rw [sameKey] at holds
  obtain ⟨null, notRequired, notBoolean⟩ | satisfied := holds
  · exact .inl ⟨null, mt narrower.requires notRequired, mt inner.boolean notBoolean⟩
  · exact .inr (inner.values _ satisfied)

end NarrowerNode

/-- A list that fits narrower schemas place by place fits the wider ones. -/
theorem satisfies_positions {registry : Registry} {others nodes : List Value}
    (all : List.Forall₂ (Narrower registry) others nodes) {found : List Value}
    (each : ∀ pair ∈ others.zip found, Satisfies registry pair.1 pair.2) :
    ∀ pair ∈ nodes.zip found, Satisfies registry pair.1 pair.2 := by
  induction all generalizing found with
  | nil => simp
  | cons narrower rest ih =>
      cases found with
      | nil => simp
      | cons item found =>
          rw [List.zip_cons_cons, List.forall_mem_cons] at each ⊢
          exact ⟨narrower.values item each.1, ih each.2⟩

namespace NarrowerNode

variable {registry : Registry} {members others : List (String × Value)}
  (narrower : NarrowerNode registry ⟨others⟩ ⟨members⟩)

include narrower

/-- Objects that satisfy the narrower node satisfy the wider one. -/
theorem satisfies_object {name : String} (read : TypeName.ofText name = .kind .object) {value : Value}
    (satisfied : SatisfiesAs registry others name value) :
    SatisfiesAs registry members name value := by
  rw [satisfiesAs_object read] at satisfied ⊢
  obtain ⟨found, rfl, each⟩ := satisfied
  refine ⟨found, rfl, fun properties given property inside => ?_⟩
  obtain ⟨otherProperties, givenToo, all⟩ := narrower.properties properties given
  obtain ⟨otherProperty, insideToo, sameKey, inner⟩ := exists_left_of_forall₂ all inside
  exact narrower.propertyHolds sameKey inner (each otherProperties givenToo otherProperty insideToo)

/-- Arrays that satisfy the narrower node satisfy the wider one. -/
theorem satisfies_array {name : String} (read : TypeName.ofText name = .kind .array) {value : Value}
    (satisfied : SatisfiesAs registry others name value) :
    SatisfiesAs registry members name value := by
  rw [satisfiesAs_array read] at satisfied ⊢
  obtain ⟨found, rfl, holds⟩ := satisfied
  refine ⟨found, rfl, ?_⟩
  have counts (within : WithinCounts ⟨others⟩ "minItems" "maxItems" found.length) :
      WithinCounts ⟨members⟩ "minItems" "maxItems" found.length :=
    narrower.withinCounts (by decide) (by decide) within
  have items : NarrowerItems registry (others.lookup "items") (members.lookup "items") :=
    narrower.items
  generalize others.lookup "items" = otherItems at items holds
  generalize members.lookup "items" = items' at items
  cases items with
  | added noList =>
      split at holds
      · exact absurd rfl (noList _)
      · exact counts holds.1
      · exact counts holds
  | positions all =>
      exact ⟨holds.1.trans all.length_eq, satisfies_positions all holds.2⟩
  | single otherNoList noList inner =>
      split at holds
      · next same => exact absurd (Option.some.inj same) (otherNoList _)
      · next same =>
          obtain rfl := Option.some.inj same
          exact ⟨counts holds.1, fun item inside => inner.values item (holds.2 item inside)⟩
      · next same => cases same

/-- Values that satisfy the narrower node as a name satisfy the wider one so. -/
theorem satisfiesAs {name : String} {value : Value}
    (satisfied : SatisfiesAs registry others name value) :
    SatisfiesAs registry members name value := by
  cases read : TypeName.ofText name with
  | custom custom =>
      rw [SatisfiesAs, read] at satisfied ⊢
      exact satisfied
  | kind kind =>
      cases kind with
      | null =>
          rw [SatisfiesAs, read] at satisfied ⊢
          exact satisfied
      | boolean =>
          rw [SatisfiesAs, read] at satisfied ⊢
          exact satisfied
      | string =>
          rw [SatisfiesAs, read] at satisfied ⊢
          exact narrower.stringFits satisfied
      | number =>
          rw [SatisfiesAs, read] at satisfied ⊢
          obtain ⟨number, same, fits, whole⟩ := satisfied
          exact ⟨number, same, narrower.numberFits fits, fun flag =>
            whole (narrower.flag_kept (by decide) flag).1⟩
      | integer =>
          rw [SatisfiesAs, read] at satisfied ⊢
          obtain ⟨number, same, fits, whole⟩ := satisfied
          exact ⟨number, same, narrower.numberFits fits, whole⟩
      | object => exact narrower.satisfies_object read satisfied
      | array => exact narrower.satisfies_array read satisfied

/-- A node with all keywords of another one, and narrower schemas inside, asks for more. -/
theorem object : Narrower registry (.object others) (.object members) where
  boolean given := narrower.keyword _ _ (by decide) (by decide) given
  values value satisfied := by
    rw [Satisfies] at satisfied ⊢
    cases given : members.lookup "type" with
    | none => trivial
    | some type =>
        have givenToo : others.lookup "type" = some type :=
          narrower.keyword _ _ (by decide) (by decide) given
        rw [givenToo] at satisfied
        cases type with
        | string name => exact narrower.satisfiesAs satisfied
        | array names =>
            obtain ⟨name, inside, satisfied⟩ := satisfied
            exact ⟨name, inside, narrower.satisfiesAs satisfied⟩
        | _ => exact satisfied

end NarrowerNode

/--
One keyword is added to a node that does not have it: to the schema itself, or to a node that its
properties or items nest. Sets of values and lists of items are left out.
-/
inductive Extended : Value → Value → Prop
  | keyword (before after : List (String × Value)) {key : String} {item : Value}
      (fresh : key ∉ (before ++ after).map Prod.fst) (noSet : key ≠ "enum")
      (noList : key = "items" → ∀ nodes, item ≠ .array nodes) :
      Extended (.object (before ++ after)) (.object (before ++ (key, item) :: after))
  | property {members before after : List (String × Value)} {key : String} {schema other : Value}
      (given : members.lookup "properties" = some (.object (before ++ (key, schema) :: after)))
      (extended : Extended schema other) :
      Extended (.object members)
        (.object (setMember "properties" (.object (before ++ (key, other) :: after)) members))
  | items {members element : List (String × Value)} {other : Value}
      (given : members.lookup "items" = some (.object element))
      (extended : Extended (.object element) other) :
      Extended (.object members) (.object (setMember "items" other members))
  | position {members : List (String × Value)} {before after : List Value} {schema other : Value}
      (given : members.lookup "items" = some (.array (before ++ schema :: after)))
      (extended : Extended schema other) :
      Extended (.object members)
        (.object (setMember "items" (.array (before ++ other :: after)) members))

namespace Narrower

variable {registry : Registry}

/-- Items are as narrow as themselves. -/
theorem items_refl (items : Option Value) : NarrowerItems registry items items := by
  cases items with
  | none => exact .added (by simp)
  | some items =>
      by_cases list : ∃ nodes, items = .array nodes
      · obtain ⟨nodes, rfl⟩ := list
        exact .positions (List.forall₂_same.mpr fun node _ => refl registry node)
      · rw [not_exists] at list
        exact .single list list (refl registry items)

/-- Properties are as narrow as themselves. -/
theorem properties_refl (members : List (String × Value)) :
    List.Forall₂ (fun one two => one.1 = two.1 ∧ Narrower registry one.2 two.2) members members :=
  List.forall₂_same.mpr fun member _ => ⟨rfl, refl registry member.2⟩

/-- A further keyword makes a schema narrower, apart from an enumeration and a list of items. -/
theorem keyword (before after : List (String × Value)) {key : String} {item : Value}
    (fresh : key ∉ (before ++ after).map Prod.fst) (noSet : key ≠ "enum")
    (noList : key = "items" → ∀ nodes, item ≠ .array nodes) :
    Narrower registry (.object (before ++ (key, item) :: after)) (.object (before ++ after)) := by
  have missing : (before ++ after).lookup key = none := lookup_of_notMem fresh
  have there : (before ++ (key, item) :: after).lookup key = some item :=
    lookup_middle fun inside => fresh (by simp [inside])
  have others {name : String} (different : name ≠ key) :
      (before ++ (key, item) :: after).lookup name = (before ++ after).lookup name :=
    lookup_middle_of_ne different
  apply NarrowerNode.object
  constructor
  · intro name value _ _ given
    rw [Node.get?] at given ⊢
    by_cases same : name = key
    · rw [same, missing] at given
      cases given
    · rw [others same, given]
  · intro none
    rw [Node.get?] at none ⊢
    rw [others (Ne.symm noSet), none]
  · intro properties given
    rw [Node.get?] at given ⊢
    by_cases same : "properties" = key
    · rw [same, missing] at given
      cases given
    · exact ⟨properties, (others same).trans given, properties_refl properties⟩
  · rw [Node.get?, Node.get?]
    by_cases same : "items" = key
    · rw [same, missing, there]
      exact .added fun nodes given => noList same.symm nodes (Option.some.inj given)
    · rw [others same]
      exact items_refl _

/-- A schema with a narrower property is narrower. -/
theorem property {members before after : List (String × Value)} {key : String}
    {schema other : Value}
    (given : members.lookup "properties" = some (.object (before ++ (key, schema) :: after)))
    (narrower : Narrower registry other schema) :
    Narrower registry
      (.object (setMember "properties" (.object (before ++ (key, other) :: after)) members))
      (.object members) := by
  apply NarrowerNode.object
  constructor
  · intro keyword value notProperties _ here
    exact (Json.lookup_setMember_of_ne notProperties _ _).trans here
  · intro none
    exact (Json.lookup_setMember_of_ne (by decide) _ _).trans none
  · intro properties here
    obtain rfl := Value.object.inj (Option.some.inj (here.symm.trans given))
    refine ⟨_, Json.lookup_setMember _ _ _, ?_⟩
    exact List.rel_append (properties_refl before) (.cons ⟨rfl, narrower⟩ (properties_refl after))
  · rw [Node.get?, Node.get?, Json.lookup_setMember_of_ne (by decide)]
    exact items_refl _

/-- Other items of a node change nothing but the items. -/
theorem ofItems {members : List (String × Value)} {items : Value}
    (narrower : NarrowerItems registry (some items) (members.lookup "items")) :
    Narrower registry (.object (setMember "items" items members)) (.object members) := by
  apply NarrowerNode.object
  constructor
  · intro keyword value _ notItems here
    exact (Json.lookup_setMember_of_ne notItems _ _).trans here
  · intro none
    exact (Json.lookup_setMember_of_ne (by decide) _ _).trans none
  · intro properties here
    exact ⟨properties, (Json.lookup_setMember_of_ne (by decide) _ _).trans here,
      properties_refl properties⟩
  · rw [Node.get?, Node.get?, Json.lookup_setMember]
    exact narrower

end Narrower

namespace Extended

/-- A schema with further keywords is an object. -/
theorem isObject {schema other : Value} (extended : Extended schema other) :
    ∃ members, other = .object members := by
  cases extended <;> exact ⟨_, rfl⟩

/-- A keyword asks for more, wherever it is added. -/
theorem narrower (registry : Registry) {schema other : Value} (extended : Extended schema other) :
    Narrower registry other schema := by
  induction extended with
  | keyword before after fresh noSet noList => exact .keyword before after fresh noSet noList
  | property given _ ih => exact .property given ih
  | items given extended ih =>
      obtain ⟨members, rfl⟩ := extended.isObject
      apply Narrower.ofItems
      rw [given]
      exact .single (by simp) (by simp) ih
  | position given _ ih =>
      apply Narrower.ofItems
      rw [given]
      have others (nodes : List Value) : List.Forall₂ (Narrower registry) nodes nodes :=
        List.forall₂_same.mpr fun node _ => .refl registry node
      exact .positions (List.rel_append (others _) (.cons ih (others _)))

/-- Whatever is added, what the extended schema asks for includes what the schema asks for. -/
theorem narrower_of_run (registry : Registry) {schema other : Value}
    (extended : Relation.ReflTransGen Extended schema other) : Narrower registry other schema := by
  induction extended with
  | refl => exact .refl registry schema
  | tail _ step ih => exact (step.narrower registry).trans ih

end Extended

/--
Keywords that are added to a schema one after another only narrow it: what the type of the extended
schema accepts, the type of the schema accepts too. The schemas in between need not compile.
-/
theorem accepts_of_extended {registry : Registry} {schema other : Value}
    (extended : Relation.ReflTransGen Extended schema other) {type otherType : Descriptor}
    (compiled : compile registry schema = .ok type)
    (compiledOther : compile registry other = .ok otherType) {value : Value}
    (accepted : otherType.accepts value = true) : type.accepts value = true := by
  have narrower := Extended.narrower_of_run registry extended
  rw [accepts_iff_satisfies compiled]
  rw [accepts_iff_satisfies compiledOther] at accepted
  exact narrower.values value accepted

/-- A property gets a type, and its least number becomes an exclusive one, one after the other. -/
theorem accepts_of_extended_price :
    let zero : Value := .number (.integer 0 (by decide))
    let one : Value := .number (.integer 1 (by decide))
    let record := fun price : List (String × Value) => Value.object [("type", .string "object"),
      ("properties", .object [("price", .object price)])]
    let schema := record [("minimum", zero)]
    let strict := record [("minimum", zero), ("exclusiveMinimum", .boolean true),
      ("type", .string "number")]
    ∃ type otherType, Relation.ReflTransGen Extended schema strict ∧
      compile .empty schema = .ok type ∧ compile .empty strict = .ok otherType ∧
      otherType.accepts (.object [("price", one)]) = true ∧
      type.accepts (.object [("price", one)]) = true := by
  intro zero one record schema strict
  let typed := record [("minimum", zero), ("type", .string "number")]
  have first : Extended schema typed :=
    @Extended.property _ [] [] "price" _ _ rfl
      (.keyword [("minimum", zero)] [] (by decide) (by decide) (by simp))
  have second : Extended typed strict :=
    @Extended.property _ [] [] "price" _ _ rfl
      (.keyword [("minimum", zero)] [("type", .string "number")] (by decide) (by decide) (by simp))
  have extended : Relation.ReflTransGen Extended schema strict := .tail (.single first) second
  obtain ⟨type, compiled⟩ : ∃ type, compile .empty schema = .ok type := ⟨_, rfl⟩
  obtain ⟨otherType, compiledOther, accepted⟩ : ∃ otherType, compile .empty strict = .ok otherType ∧
      otherType.accepts (.object [("price", one)]) = true := ⟨_, rfl, by decide +kernel⟩
  exact ⟨type, otherType, extended, compiled, compiledOther, accepted,
    accepts_of_extended extended compiled compiledOther accepted⟩

end Schema

end TypedJson
