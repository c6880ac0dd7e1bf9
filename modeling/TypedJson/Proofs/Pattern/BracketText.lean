import TypedJson.Proofs.Pattern.Bracket

namespace TypedJson.Pattern

open TypedJson.Regex (ClassExpression)
open TypedJson.Regex.Reader (Atom OpenClass classAtom classItem classOpen classRest bracketClass
  leadingHyphens)

/-- Before some text the reader of a class turns another text into items. -/
def ReadsAs (text : List Char) (items : List ClassExpression) (follow : List Char) : Prop :=
  ∀ fuel negated pending, (text ++ follow).length < fuel →
    ∃ left, follow.length < left ∧ classRest false fuel negated pending (text ++ follow) =
      classRest false left negated (pushAll pending items) follow

/-- A text that makes no range of a character before it. -/
def EndsAtom (follow : List Char) : Prop :=
  ∃ next others, follow = next :: others ∧ (next = '-' → others.head? = some ']')

/-- A closing bracket ends an item. -/
theorem endsAtom_closing (after : List Char) : EndsAtom (']' :: after) :=
  ⟨']', after, rfl, fun same => absurd same (by decide)⟩

theorem ReadsAs.append {text other follow : List Char} {items more : List ClassExpression}
    (first : ReadsAs text items (other ++ follow)) (second : ReadsAs other more follow) :
    ReadsAs (text ++ other) (items ++ more) follow := by
  intro fuel negated pending enough
  rw [List.append_assoc] at enough ⊢
  obtain ⟨left, enough, read⟩ := first fuel negated pending enough
  obtain ⟨last, enough, read'⟩ := second left negated _ enough
  refine ⟨last, enough, ?_⟩
  have same : pushAll (pushAll pending items) more = pushAll pending (items ++ more) := by
    simp [pushAll]
  rw [read, read', same]

/-- Nothing is read as nothing. -/
theorem readsAs_nil (follow : List Char) : ReadsAs [] [] follow :=
  fun fuel _ _ enough => ⟨fuel, enough, rfl⟩

/-- What is no bracket and no operator starts an item. -/
theorem classRest_plain {char : Char} {others : List Char} (closing : char ≠ ']')
    (opening : char ≠ '[')
    (single : char = '&' ∨ char = '-' ∨ char = '~' → others.head? ≠ some char)
    (fuel : Nat) (negated : Bool) (pending : OpenClass) :
    classRest false (fuel + 1) negated pending (char :: others) =
      match classItem false (char :: others) with
      | some (item, rest) => classRest false fuel negated (pending.push item) rest
      | none => none := by
  rw [classRest, Regex.Reader.skip]
  simp only [Bool.false_eq_true, if_false]
  split
  · next empty => exact absurd empty (List.cons_ne_nil _ _)
  · next same => exact absurd (List.cons.inj same).1 closing
  · next same =>
      obtain ⟨rfl, rfl⟩ := List.cons.inj same
      exact absurd rfl (single (.inl rfl))
  · next same =>
      obtain ⟨rfl, rfl⟩ := List.cons.inj same
      exact absurd rfl (single (.inr (.inl rfl)))
  · next same =>
      obtain ⟨rfl, rfl⟩ := List.cons.inj same
      exact absurd rfl (single (.inr (.inr rfl)))
  · next same => exact absurd (List.cons.inj same).1 opening
  · rfl

/-- What is read as one item. -/
theorem readsAs_item {text follow : List Char} {item : ClassExpression} {char : Char}
    {others : List Char} (shape : text = char :: others) (closing : char ≠ ']')
    (opening : char ≠ '[')
    (single : char = '&' ∨ char = '-' ∨ char = '~' → (others ++ follow).head? ≠ some char)
    (reads : classItem false (text ++ follow) = some (item, follow)) :
    ReadsAs text [item] follow := by
  subst shape
  intro fuel negated pending enough
  rw [List.cons_append] at enough reads ⊢
  cases fuel with
  | zero => exact absurd enough (Nat.not_lt_zero _)
  | succ fuel =>
      refine ⟨fuel, ?_, ?_⟩
      · simp only [List.length_cons, List.length_append] at enough
        omega
      · rw [classRest_plain closing opening single, reads]
        rfl

/-- A character before a text that makes no range of it. -/
theorem classItem_atom {text follow : List Char} {atom : Atom} {item : ClassExpression}
    (reads : classAtom false (text ++ follow) = some (atom, follow))
    (member : atom.toClass? = some item) (ends : EndsAtom follow) :
    classItem false (text ++ follow) = some (item, follow) := by
  obtain ⟨next, others, rfl, hyphen⟩ := ends
  simp only [classItem, reads, member, Option.bind_eq_bind, Option.bind_some, Option.pure_def,
    Regex.Reader.skip, Bool.false_eq_true, if_false]
  split
  · next empty => exact absurd empty (List.cons_ne_nil _ _)
  · next same =>
      obtain ⟨rfl, rfl⟩ := List.cons.inj same
      simp [Regex.Reader.afterHyphen, hyphen rfl]
  · rfl

/-- A bare character is read as itself. -/
theorem classAtom_bare {char : Char} (single : char ≠ '\\') (rest : List Char) :
    classAtom false (char :: rest) = some (.literal char false, rest) := by
  rw [classAtom]
  exact single

/-- Two characters with a hyphen between them are read as a range. -/
theorem classItem_range {first last : Char} (firstAllowed : isBracketLiteral first = true)
    (lastAllowed : isBracketLiteral last = true) (ordered : first ≤ last) (follow : List Char) :
    classItem false ([first, '-', last] ++ follow) =
      some (.range first false last false, follow) := by
  have single {char : Char} (allowed : isBracketLiteral char = true) : char ≠ '\\' :=
    ne_of_test allowed (by decide)
  have closed : last ≠ ']' := ne_of_test lastAllowed (by decide)
  have hyphen : last ≠ '-' := ne_of_test lastAllowed (by decide)
  simp [classItem, classAtom_bare (single firstAllowed), classAtom_bare (single lastAllowed),
    Regex.Reader.skip, Regex.Reader.afterHyphen, closed, hyphen, ordered]

/-! ### Items -/

/-- The text of a range is read as the range. -/
theorem readsAs_range {first last : Char} (firstAllowed : isBracketLiteral first = true)
    (lastAllowed : isBracketLiteral last = true) (ordered : first ≤ last) (opening : first ≠ '[')
    (follow : List Char) :
    ReadsAs [first, '-', last] [.range first false last false] follow := by
  apply readsAs_item rfl _ opening _ (classItem_range firstAllowed lastAllowed ordered follow)
  · exact ne_of_test firstAllowed (by decide)
  · intro operator
    obtain rfl | rfl | rfl := operator
    · simp
    · exact absurd firstAllowed (by decide)
    · simp

/-- The class of digits is read as its items. -/
theorem readsAs_digits (follow : List Char) : ReadsAs "0-9".toList digitItems follow :=
  readsAs_range (by decide) (by decide) (by decide) (by decide) follow

/-- The class of word characters is read as its items. -/
theorem readsAs_word {follow : List Char} (ends : EndsAtom follow) :
    ReadsAs Token.wordMembers wordItems follow := by
  have upper (follow : List Char) : ReadsAs ['A', '-', 'Z'] [.range 'A' false 'Z' false] follow :=
    readsAs_range (by decide) (by decide) (by decide) (by decide) follow
  have lower (follow : List Char) : ReadsAs ['a', '-', 'z'] [.range 'a' false 'z' false] follow :=
    readsAs_range (by decide) (by decide) (by decide) (by decide) follow
  have underscore : ReadsAs ['_'] [.literal '_' false] follow :=
    readsAs_item rfl (by decide) (by decide) (by simp)
      (classItem_atom (classAtom_bare (by decide) follow) rfl ends)
  exact (upper _).append ((lower _).append ((readsAs_digits _).append underscore))

/-- The end of a class. -/
theorem classRest_closing {fuel : Nat} (enough : 0 < fuel) (negated : Bool) (pending : OpenClass)
    (after : List Char) :
    classRest false fuel negated pending (']' :: after) =
      some (.bracketed negated pending.close, after) := by
  obtain ⟨fuel, rfl⟩ := Nat.exists_eq_add_of_lt enough
  simp [classRest, Regex.Reader.skip]

/-- A negated class inside of a class, whatever follows it. -/
theorem readsAs_nested {text follow : List Char} {items : List ClassExpression}
    (reads : ReadsAs text items (']' :: follow)) (starts : StartsClass text) :
    ReadsAs ('[' :: '^' :: text ++ [']']) [.bracketed true (.ofItems items)] follow := by
  intro fuel negated pending enough
  have shape : '[' :: '^' :: text ++ [']'] ++ follow = '[' :: '^' :: (text ++ ']' :: follow) := by
    simp
  rw [shape] at enough ⊢
  cases fuel with
  | zero => exact absurd enough (Nat.not_lt_zero _)
  | succ fuel =>
      have inner : (text ++ ']' :: follow).length < fuel := by
        simp only [List.length_cons] at enough
        omega
      obtain ⟨left, left_enough, read⟩ := reads fuel true ⟨none, []⟩ inner
      rw [classRest_closing (Nat.zero_lt_of_lt left_enough)] at read
      have unnamed : Regex.Reader.asciiClass ('^' :: (text ++ ']' :: follow)) = none := by
        simp [Regex.Reader.asciiClass]
      refine ⟨fuel, ?_, ?_⟩
      · simp only [List.length_append, List.length_cons] at inner
        omega
      · simp only [classRest, Regex.Reader.skip, Bool.false_eq_true, if_false, unnamed,
          classOpen_negated (starts.append _), read]
        simp [OpenClass.close, pushAll, OpenClass.push]

namespace AsciiKind

def items : AsciiKind → List ClassExpression
  | digit => digitItems
  | word => wordItems

end AsciiKind

namespace BracketItem

/-- What an item reads as. -/
def expressions (byCode : Bool) : BracketItem → List ClassExpression
  | literal char _ => [.literal char false]
  | range first last _ _ _ => [.range first false last false]
  | shorthand escape =>
    if escape.negated then [.bracketed true (.ofItems escape.kind.items)] else escape.kind.items
  | backspace => [.literal '\x08' byCode]
  | quoted char _ => [.literal char false]
  | hyphen => [.literal '-' false]

/-- The text of an item starts as its image does, as far as operators are concerned. -/
theorem image_starts (byCode : Bool) (item : BracketItem) :
    ∃ char rest, item.image byCode = char :: rest ∧ char ≠ ']' ∧
      ∀ mark ∈ ['&', '~', '-', '^'], char = mark → item.text.head? = some mark := by
  have start (char : Char) (rest : List Char) (shape : item.image byCode = char :: rest)
      (plain : char ≠ ']' ∧ char ∉ ['&', '~', '-', '^']) :
      ∃ char rest, item.image byCode = char :: rest ∧ char ≠ ']' ∧
        ∀ mark ∈ ['&', '~', '-', '^'], char = mark → item.text.head? = some mark :=
    ⟨char, rest, shape, plain.1, fun mark inside same => absurd (same ▸ inside) plain.2⟩
  have same (char : Char) (rest : List Char) (shape : item.image byCode = char :: rest)
      (written : item.text.head? = some char) (plain : char ≠ ']') :
      ∃ char rest, item.image byCode = char :: rest ∧ char ≠ ']' ∧
        ∀ mark ∈ ['&', '~', '-', '^'], char = mark → item.text.head? = some mark :=
    ⟨char, rest, shape, plain, fun mark _ same => same ▸ written⟩
  have closed {char : Char} (allowed : isBracketLiteral char = true) : char ≠ ']' :=
    ne_of_test allowed (by decide)
  cases item with
  | literal char allowed => exact same char [] rfl rfl (closed allowed)
  | range first last firstAllowed lastAllowed ordered =>
      exact same first _ rfl rfl (closed firstAllowed)
  | shorthand escape =>
      obtain ⟨negated, kind⟩ := escape
      cases kind <;> cases negated <;> exact start _ _ rfl (by decide)
  | backspace => cases byCode <;> exact start _ _ rfl (by decide)
  | quoted char allowed => exact start _ _ rfl (by decide)
  | hyphen => exact same _ _ rfl rfl (by decide)

/-- Only a hyphen starts with a hyphen. -/
theorem eq_hyphen {item : BracketItem} (starts : item.text.head? = some '-') : item = hyphen := by
  cases item with
  | literal char allowed =>
      obtain rfl := Option.some.inj starts
      exact absurd allowed (by decide)
  | range first last firstAllowed lastAllowed ordered =>
      obtain rfl := Option.some.inj starts
      exact absurd firstAllowed (by decide)
  | shorthand escape => exact absurd (Option.some.inj starts) (by decide)
  | backspace => exact absurd (Option.some.inj starts) (by decide)
  | quoted char allowed => exact absurd (Option.some.inj starts) (by decide)
  | hyphen => rfl

/-- The rest of a class after some items. -/
def follow (byCode : Bool) (others : List BracketItem) (after : List Char) : List Char :=
  others.flatMap (image byCode) ++ ']' :: after

/-- No operator is made of a character and the items after it unless one is written. -/
theorem follow_head_ne {byCode : Bool} {others : List BracketItem} {after : List Char} {mark : Char}
    (known : mark ∈ ['&', '~', '-', '^']) (apart : (others.flatMap text).head? ≠ some mark) :
    (follow byCode others after).head? ≠ some mark := by
  cases others with
  | nil =>
      intro same
      rw [← Option.some.inj same] at known
      exact absurd known (by decide)
  | cons item rest =>
      obtain ⟨char, more, shape, -, marks⟩ := item.image_starts byCode
      intro same
      rw [follow, List.flatMap_cons, shape] at same
      have written := marks mark known (Option.some.inj same)
      rw [List.flatMap_cons, List.head?_append, written] at apart
      exact apart rfl

/-- A hyphen after a single character makes no range only at the end. -/
theorem endsAtom_follow {byCode : Bool} {others : List BracketItem} {after : List Char}
    (last : ∀ rest, others = hyphen :: rest → rest = []) :
    EndsAtom (follow byCode others after) := by
  cases others with
  | nil => exact endsAtom_closing after
  | cons item rest =>
      obtain ⟨char, more, shape, -, marks⟩ := item.image_starts byCode
      refine ⟨char, more ++ follow byCode rest after, ?_, ?_⟩
      · rw [follow, List.flatMap_cons, shape, follow]
        simp
      · rintro rfl
        obtain rfl := eq_hyphen (marks '-' (by decide) rfl)
        obtain rfl := last rest rfl
        obtain ⟨-, rfl⟩ := List.cons.inj shape
        rfl

/-- A single character reads as itself where it makes no operator and no range. -/
theorem readsAs_single {char : Char} {others : List BracketItem} {byCode : Bool}
    {after : List Char} (allowed : isBracketLiteral char = true) (opening : char ≠ '[')
    (apart : char = '&' ∨ char = '~' → (others.flatMap text).head? ≠ some char)
    (ends : EndsAtom (follow byCode others after)) :
    ReadsAs [char] [.literal char false] (follow byCode others after) := by
  have single : char ≠ '\\' := ne_of_test allowed (by decide)
  apply readsAs_item rfl _ opening _ (classItem_atom (classAtom_bare single _) rfl ends)
  · exact ne_of_test allowed (by decide)
  · intro operator
    obtain rfl | rfl | rfl := operator
    · exact follow_head_ne (by decide) (apart (.inl rfl))
    · exact absurd allowed (by decide)
    · exact follow_head_ne (by decide) (apart (.inr rfl))

/-- An item that keeps its meaning before others reads as itself. -/
theorem readsAs_image (byCode : Bool) {item : BracketItem} {others : List BracketItem}
    (stands : item.standsBefore others = true) (after : List Char) :
    ReadsAs (item.image byCode) (item.expressions byCode) (follow byCode others after) := by
  simp only [standsBefore, Bool.and_eq_true, bne_iff_ne, ne_eq, Bool.not_eq_true'] at stands
  obtain ⟨⟨opening, apart⟩, bare⟩ := stands
  have ends (isBare : item.endsBare = true) : EndsAtom (follow byCode others after) := by
    apply endsAtom_follow
    rintro rest rfl
    cases rest with
    | nil => rfl
    | cons next more => simp [isBare] at bare
  have quote {text : List Char} {atom : Atom} {found : ClassExpression}
      (reads : ∀ rest, classAtom false ('\\' :: text ++ rest) = some (atom, rest))
      (member : atom.toClass? = some found) (isBare : item.endsBare = true) :
      ReadsAs ('\\' :: text) [found] (follow byCode others after) :=
    readsAs_item rfl (by decide) (by decide) (by simp)
      (classItem_atom (reads _) member (ends isBare))
  cases item with
  | literal char allowed =>
      refine readsAs_single allowed (fun same => opening (by simp [text, same])) ?_ (ends rfl)
      intro operator
      simpa [doubles, operator] using apart
  | range first last firstAllowed lastAllowed ordered =>
      exact readsAs_range firstAllowed lastAllowed ordered
        (fun same => opening (by simp [text, same])) _
  | shorthand escape =>
      obtain ⟨negated, kind⟩ := escape
      cases kind with
      | digit =>
          cases negated with
          | false => exact readsAs_digits _
          | true => exact readsAs_nested (readsAs_digits _) ⟨'0', _, rfl, by decide⟩
      | word =>
          cases negated with
          | false => exact readsAs_word (ends rfl)
          | true => exact readsAs_nested (readsAs_word (endsAtom_closing _)) ⟨'A', _, rfl, by decide⟩
  | backspace =>
      cases byCode with
      | true => exact quote (fun _ => rfl) rfl rfl
      | false =>
          exact readsAs_item rfl (by decide) (by decide) (by simp)
            (classItem_atom (classAtom_bare (by decide) _) rfl (ends rfl))
  | quoted char allowed =>
      have known := of_contains Regex.Reader.isEscapable (by decide) allowed
      exact quote (fun rest => escape_escapable known rest) rfl rfl
  | hyphen =>
      have alone : (others.flatMap text).head? ≠ some '-' := by simpa [doubles] using apart
      have ends : EndsAtom (follow byCode others after) := by
        apply endsAtom_follow
        rintro rest rfl
        exact absurd rfl alone
      exact readsAs_item rfl (by decide) (by decide)
        (fun _ => follow_head_ne (by decide) alone)
        (classItem_atom (classAtom_bare (by decide) _) rfl ends)

/-- Items that all keep their meaning read one after the other up to the closing bracket. -/
theorem readsAs_images (byCode : Bool) {items : List BracketItem}
    (apart : readApart items = true) (after : List Char) :
    ReadsAs (items.flatMap (image byCode)) (items.flatMap (expressions byCode)) (']' :: after) := by
  induction items with
  | nil => exact readsAs_nil _
  | cons item others ih =>
      rw [readApart, Bool.and_eq_true] at apart
      exact (readsAs_image byCode apart.1 after).append (ih apart.2)

end BracketItem

/-! ### Brackets -/

/-- Hyphens at the front are read as themselves. -/
theorem leadingHyphens_replicate {count fuel : Nat} (enough : count ≤ fuel) {rest : List Char}
    (ends : rest.head? ≠ some '-') :
    leadingHyphens false fuel (List.replicate count '-' ++ rest) =
      (List.replicate count (.literal '-' false), rest) := by
  induction count generalizing fuel with
  | zero =>
      cases fuel with
      | zero => rfl
      | succ fuel =>
          rw [List.replicate_zero, List.nil_append, leadingHyphens]
          · rfl
          · rintro others rfl
            exact ends rfl
  | succ count ih =>
      obtain ⟨fuel, rfl⟩ := Nat.exists_eq_add_of_lt enough
      have later := ih (Nat.le_add_right count fuel)
      rw [List.replicate_succ, List.cons_append, leadingHyphens]
      simp [Regex.Reader.skip, later, List.replicate_succ]

/-- Hyphens at the start of a class stand for themselves. -/
theorem classOpen_hyphens (negated : Bool) (count : Nat) {rest : List Char}
    (caret : negated = false → (List.replicate count '-' ++ rest).head? ≠ some '^')
    (ends : rest.head? ≠ some '-') (closing : count = 0 → rest.head? ≠ some ']') :
    classOpen false (negation negated ++ (List.replicate count '-' ++ rest)) =
      (negated, ⟨none, List.replicate count (.literal '-' false)⟩, rest) := by
  have leading : leadingHyphens false (List.replicate count '-' ++ rest).length
      (List.replicate count '-' ++ rest) = (List.replicate count (.literal '-' false), rest) :=
    leadingHyphens_replicate (by simp) ends
  cases count with
  | zero =>
      cases rest with
      | nil => cases negated <;> rfl
      | cons char others =>
          have plain : char ≠ '-' ∧ char ≠ ']' :=
            ⟨fun same => ends (by rw [same]; rfl), fun same => closing rfl (by rw [same]; rfl)⟩
          cases negated with
          | false =>
              have uncaret : char ≠ '^' := fun same => caret rfl (by rw [same]; rfl)
              simp [classOpen, negation, Regex.Reader.skip, leadingHyphens, plain, uncaret]
          | true => simp [classOpen, negation, Regex.Reader.skip, leadingHyphens, plain]
  | succ count =>
      have reversed : (List.replicate (count + 1) (ClassExpression.literal '-' false)).reverse =
          List.replicate (count + 1) (.literal '-' false) := List.reverse_replicate
      rw [List.replicate_succ, List.cons_append] at leading ⊢
      rw [List.replicate_succ] at reversed
      cases negated <;>
        simp [classOpen, negation, Regex.Reader.skip, leading, reversed, -List.length_cons,
          -List.reverse_cons, List.replicate_succ]

/-- An item has a first character. -/
theorem BracketItem.text_starts (item : BracketItem) : ∃ char rest, item.text = char :: rest := by
  cases item <;> exact ⟨_, _, rfl⟩

/-- The hyphens at the start of a bracket and the rest. -/
theorem BracketItem.leading (items : List BracketItem) :
    ∃ count, items = List.replicate count hyphen ++ items.dropWhile isHyphen ∧
      ((items.dropWhile isHyphen).flatMap text).head? ≠ some '-' := by
  induction items with
  | nil => exact ⟨0, rfl, by simp⟩
  | cons item others ih =>
      cases hyphened : item.isHyphen with
      | true =>
          obtain ⟨count, parts, starts⟩ := ih
          have same : item = hyphen := by
            cases item <;> first | rfl | exact absurd hyphened (by simp [isHyphen])
          refine ⟨count + 1, ?_, ?_⟩
          · rw [List.dropWhile_cons_of_pos hyphened, List.replicate_succ, List.cons_append, ← parts,
              same]
          · rwa [List.dropWhile_cons_of_pos hyphened]
      | false =>
          rw [List.dropWhile_cons_of_neg (by simp [hyphened])]
          refine ⟨0, rfl, ?_⟩
          intro same
          obtain ⟨char, rest, shape⟩ := item.text_starts
          rw [List.flatMap_cons, shape] at same
          have known : item.text.head? = some '-' := by rw [shape]; exact same
          rw [eq_hyphen known] at hyphened
          exact absurd hyphened (by decide)

/-- A bracket whose items all keep their meaning reads as them. -/
theorem bracketClass_image (byCode : Bool) {bracket : Bracket}
    (apart : bracket.readsApart = true) (after : List Char) :
    bracketClass false (negation bracket.negated ++
        BracketItem.follow byCode bracket.items after) =
      some (.bracketed bracket.negated
        (.ofItems (bracket.items.flatMap (BracketItem.expressions byCode))), after) := by
  obtain ⟨negated, items, filled, caret⟩ := bracket
  obtain ⟨count, parts, starts⟩ := BracketItem.leading items
  rw [Bracket.readsApart] at apart
  dsimp only at apart ⊢
  generalize items.dropWhile BracketItem.isHyphen = others at parts starts apart
  have split : BracketItem.follow byCode items after =
      List.replicate count '-' ++ BracketItem.follow byCode others after := by
    rw [BracketItem.follow, parts, List.flatMap_append, List.flatMap_replicate]
    simp [BracketItem.follow, BracketItem.image]
  have expressions : items.flatMap (BracketItem.expressions byCode) =
      List.replicate count (.literal '-' false) ++
        others.flatMap (BracketItem.expressions byCode) := by
    rw [parts, List.flatMap_append, List.flatMap_replicate]
    simp [BracketItem.expressions]
  have closing : count = 0 → (BracketItem.follow byCode others after).head? ≠ some ']' := by
    rintro rfl
    rw [List.replicate_zero, List.nil_append] at parts
    obtain ⟨item, more, rfl⟩ := List.exists_cons_of_ne_nil (parts ▸ filled)
    obtain ⟨char, rest, shape, unclosed, -⟩ := item.image_starts byCode
    rw [BracketItem.follow, List.flatMap_cons, shape]
    exact fun same => unclosed (Option.some.inj same)
  have hyphens : (BracketItem.follow byCode others after).head? ≠ some '-' :=
    BracketItem.follow_head_ne (by decide) starts
  have opened := classOpen_hyphens negated count
    (fun plain => split ▸ BracketItem.follow_head_ne (by decide) (caret plain)) hyphens closing
  obtain ⟨left, enough, read⟩ := BracketItem.readsAs_images byCode apart after
    ((negation negated ++ BracketItem.follow byCode items after).length + 1) negated
    ⟨none, List.replicate count (.literal '-' false)⟩ (by
      rw [split, BracketItem.follow]
      simp
      omega)
  rw [classRest_closing (Nat.zero_lt_of_lt enough)] at read
  rw [bracketClass, split, opened, ← split]
  refine read.trans ?_
  simp [pushAll, OpenClass.close, expressions]

end TypedJson.Pattern
