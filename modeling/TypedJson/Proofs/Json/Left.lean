import TypedJson.Json.Reader
import TypedJson.Proofs.Schema.Compile

namespace TypedJson.Json

namespace Cursor

/-- Skipping drops so many characters. -/
theorem rest_skipMany (cursor : Cursor) (count : Nat) :
    (cursor.skipMany count).rest = cursor.rest.drop count := by
  induction count generalizing cursor with
  | zero => rfl
  | succ count ih =>
      rw [skipMany, ih]
      obtain ⟨rest, place⟩ := cursor
      cases rest <;> simp [skip]

/-- Skipping blanks drops the blanks at the start. -/
theorem rest_skipBlanks (cursor : Cursor) :
    cursor.skipBlanks.rest = cursor.rest.dropWhile isBlank := by
  have go (place : Place) (chars : List Char) :
      (skipBlanks.go place chars).rest = chars.dropWhile isBlank := by
    induction chars generalizing place with
    | nil => rfl
    | cons char rest ih =>
        rw [skipBlanks.go, List.dropWhile_cons]
        split
        · exact ih _
        · rfl
  exact go cursor.place cursor.rest

end Cursor

/-- What is left at the second cursor is an end of what was left at the first. -/
def Cursor.Reaches (cursor after : Cursor) : Prop := after.rest <:+ cursor.rest

namespace Cursor.Reaches

theorem refl (cursor : Cursor) : cursor.Reaches cursor := List.suffix_refl _

theorem trans {first second third : Cursor} (left : first.Reaches second)
    (right : second.Reaches third) : first.Reaches third := List.IsSuffix.trans right left

/-- Skipping reaches a later place. -/
theorem skipMany (cursor : Cursor) (count : Nat) : cursor.Reaches (cursor.skipMany count) := by
  rw [Reaches, rest_skipMany]
  exact List.drop_suffix _ _

/-- Skipping one character reaches a later place. -/
theorem skip (cursor : Cursor) : cursor.Reaches cursor.skip := skipMany cursor 1

/-- Skipping blanks reaches a later place. -/
theorem skipBlanks (cursor : Cursor) : cursor.Reaches cursor.skipBlanks := by
  rw [Reaches, rest_skipBlanks]
  exact List.dropWhile_suffix _

/-- At a later place no more is left. -/
theorem length_le {cursor after : Cursor} (reaches : cursor.Reaches after) :
    after.rest.length ≤ cursor.rest.length := List.IsSuffix.length_le reaches

/-- A character is taken off what is left. -/
theorem length_skip_lt {cursor after : Cursor} {char : Char} {chars : List Char}
    (reaches : cursor.Reaches after) (ahead : after.rest = char :: chars) :
    after.skip.rest.length < cursor.rest.length := by
  have shorter := reaches.length_le
  simp only [Cursor.skip, ahead, List.length_cons] at shorter ⊢
  omega

end Cursor.Reaches

namespace Reader

variable {cursor after : Cursor}

/-- A word leaves an end of the text. -/
theorem reaches_word {letters : List Char} (read : word letters cursor = .ok after) :
    cursor.Reaches after := by
  induction letters generalizing cursor with
  | nil =>
      obtain rfl := Except.ok.inj read
      exact .refl _
  | cons letter more ih =>
      unfold word at read
      split at read
      · simp [Cursor.failHere] at read
      · split at read
        · exact .trans (.skip cursor) (ih read)
        · simp [Cursor.failNext] at read

/-- A code leaves an end of the text. -/
theorem reaches_hexUnit {unit : Nat} (read : hexUnit cursor = .ok (unit, after)) :
    cursor.Reaches after := by
  unfold hexUnit at read
  split at read
  · simp at read
  · split at read
    · split at read
      · obtain ⟨-, rfl⟩ := Prod.mk.inj (Except.ok.inj read)
        exact .skipMany cursor 4
      · simp at read
    · simp at read

/-- A character between two codes leaves an end of the text. -/
theorem reaches_expectInPair {expected : Char}
    (read : expectInPair expected cursor = .ok after) : cursor.Reaches after := by
  unfold expectInPair at read
  split at read
  · simp [Cursor.failHere] at read
  · split at read
    · obtain rfl := Except.ok.inj read
      exact .skip cursor
    · simp [Cursor.failNext] at read

/-- An escape by code leaves an end of the text. -/
theorem reaches_unicodeEscape {char : Char} (read : unicodeEscape cursor = .ok (char, after)) :
    cursor.Reaches after := by
  obtain ⟨⟨unit, second⟩, first, read⟩ := bind_eq_ok.mp read
  have start := reaches_hexUnit first
  dsimp only at read
  split at read
  · simp [Cursor.failHere] at read
  · split at read
    · obtain ⟨third, slash, read⟩ := bind_eq_ok.mp read
      obtain ⟨fourth, letter, read⟩ := bind_eq_ok.mp read
      obtain ⟨⟨low, last⟩, digits, read⟩ := bind_eq_ok.mp read
      have pair := (start.trans (reaches_expectInPair slash)).trans (reaches_expectInPair letter)
      dsimp only at read
      split at read
      · obtain ⟨-, rfl⟩ := Prod.mk.inj (Except.ok.inj read)
        exact pair.trans (reaches_hexUnit digits)
      · simp [Cursor.failHere] at read
    · obtain ⟨-, rfl⟩ := Prod.mk.inj (Except.ok.inj read)
      exact start

/-- An escape leaves an end of the text. -/
theorem reaches_escape {char : Char} (read : escape cursor = .ok (char, after)) :
    cursor.Reaches after := by
  have single {found : Char} (read : Except.ok (found, cursor.skip) =
      (Except.ok (char, after) : Except Failure (Char × Cursor))) : cursor.Reaches after := by
    obtain ⟨-, rfl⟩ := Prod.mk.inj (Except.ok.inj read)
    exact .skip cursor
  unfold escape at read
  split at read
  · simp [Cursor.failHere] at read
  all_goals first
    | exact single read
    | exact .trans (.skip cursor) (reaches_unicodeEscape read)
    | simp [Cursor.failNext] at read

/-- The rest of a string leaves an end of the text. -/
theorem reaches_stringBody {fuel : Nat} {done : List Char} {text : String}
    (read : stringBody fuel done cursor = .ok (text, after)) : cursor.Reaches after := by
  induction fuel generalizing done cursor with
  | zero => simp [stringBody, Cursor.failHere] at read
  | succ fuel ih =>
      unfold stringBody at read
      split at read
      · simp [Cursor.failHere] at read
      · obtain ⟨-, rfl⟩ := Prod.mk.inj (Except.ok.inj read)
        exact .skip cursor
      · split at read
        · rename_i escaped
          exact .trans (.skip cursor) (.trans (reaches_escape escaped) (ih read))
        · simp at read
      · split at read
        · simp [Cursor.failNext] at read
        · exact .trans (.skip cursor) (ih read)

/-- Before the next key an end of the text is left. -/
theorem reaches_nextKey {first : Bool} (read : nextKey first cursor = .ok (some after)) :
    cursor.Reaches after := by
  have start := Cursor.Reaches.skipBlanks cursor
  unfold nextKey at read
  dsimp only at read
  split at read
  · simp [Cursor.failNext] at read
  · simp at read
  · split at read
    · split at read
      · obtain rfl := Option.some.inj (Except.ok.inj read)
        exact start.trans (.skip _)
      · simp [Cursor.failNext] at read
    · split at read
      · split at read
        · simp [Cursor.failNext] at read
        · obtain rfl := Option.some.inj (Except.ok.inj read)
          exact start.trans (.trans (.skip _) (.trans (.skipBlanks _) (.skip _)))
        · simp [Cursor.failNext] at read
        · simp [Cursor.failNext] at read
      · simp [Cursor.failNext] at read

/-- The next key leaves an end of the text. -/
theorem reaches_nextMember {first : Bool} {key : String}
    (read : nextMember first cursor = .ok (some (key, after))) : cursor.Reaches after := by
  unfold nextMember at read
  split at read
  · simp at read
  · simp at read
  · rename_i found
    split at read
    · simp at read
    · rename_i text
      obtain rfl := Option.some.inj (Except.ok.inj read)
      exact .trans (reaches_nextKey found) (reaches_stringBody text)

/-- At least the colon is taken. -/
theorem length_colon_lt (read : colon cursor = .ok after) :
    after.rest.length < cursor.rest.length := by
  unfold colon at read
  dsimp only at read
  split at read
  · simp [Cursor.failNext] at read
  · rename_i ahead
    obtain rfl := Except.ok.inj read
    exact (Cursor.Reaches.skipBlanks cursor).length_skip_lt ahead
  · simp [Cursor.failNext] at read

/-- Before the next item an end of the text is left. -/
theorem reaches_nextItem {first : Bool} (read : nextItem first cursor = .ok (some after)) :
    cursor.Reaches after := by
  have start := Cursor.Reaches.skipBlanks cursor
  unfold nextItem at read
  dsimp only at read
  split at read
  · simp [Cursor.failNext] at read
  · simp at read
  · split at read
    · obtain rfl := Option.some.inj (Except.ok.inj read)
      exact start
    · split at read
      · split at read
        · simp [Cursor.failNext] at read
        · simp [Cursor.failNext] at read
        · obtain rfl := Option.some.inj (Except.ok.inj read)
          exact start.trans (.trans (.skip _) (.skipBlanks _))
      · simp [Cursor.failNext] at read

/-- At least the comma is taken. -/
theorem length_nextItem_lt (read : nextItem false cursor = .ok (some after)) :
    after.rest.length < cursor.rest.length := by
  unfold nextItem at read
  dsimp only at read
  split at read
  · simp [Cursor.failNext] at read
  · simp at read
  · rename_i ahead
    have shorter := (Cursor.Reaches.skipBlanks cursor).length_skip_lt ahead
    split at read
    · contradiction
    · split at read
      · split at read
        · simp [Cursor.failNext] at read
        · simp [Cursor.failNext] at read
        · obtain rfl := Option.some.inj (Except.ok.inj read)
          exact Nat.lt_of_le_of_lt (Cursor.Reaches.skipBlanks _).length_le shorter
      · simp [Cursor.failNext] at read

/-- Where a list ends, there is no next item. -/
theorem nextItem_of_endItems (closed : endItems cursor = .ok after) (first : Bool) :
    nextItem first cursor = .ok none := by
  unfold endItems at closed
  unfold nextItem
  dsimp only at closed ⊢
  split at closed
  · simp [Cursor.failNext] at closed
  · rename_i ahead
    simp [ahead]
  · split at closed
    · simp [Cursor.failNext] at closed
    · simp [Cursor.failNext] at closed
  · simp [Cursor.failNext] at closed

/-- At least the bracket is taken. -/
theorem length_endItems_lt (closed : endItems cursor = .ok after) :
    after.rest.length < cursor.rest.length := by
  unfold endItems at closed
  dsimp only at closed
  split at closed
  · simp [Cursor.failNext] at closed
  · rename_i ahead
    obtain rfl := Except.ok.inj closed
    exact (Cursor.Reaches.skipBlanks cursor).length_skip_lt ahead
  · split at closed
    · simp [Cursor.failNext] at closed
    · simp [Cursor.failNext] at closed
  · simp [Cursor.failNext] at closed

/-- At least the brace is taken. -/
theorem length_endMembers_lt (closed : endMembers cursor = .ok after) :
    after.rest.length < cursor.rest.length := by
  unfold endMembers at closed
  dsimp only at closed
  split at closed
  · simp [Cursor.failNext] at closed
  · rename_i ahead
    obtain rfl := Except.ok.inj closed
    exact (Cursor.Reaches.skipBlanks cursor).length_skip_lt ahead
  · simp [Cursor.failNext] at closed
  · simp [Cursor.failNext] at closed

end Reader

namespace Numeral

variable {cursor after : Cursor} {negative : Bool} {significand : Nat} {number : Number}

/-- There are no more digits than characters. -/
theorem length_digits_le (chars : List Char) : (digits chars).1.length ≤ chars.length := by
  induction chars with
  | nil => simp [digits]
  | cons char rest ih =>
      unfold digits
      split
      · simpa using ih
      · simp

/-- Making a float moves nowhere. -/
theorem reaches_scaled {exponent : Int}
    (read : scaled negative significand exponent cursor = .ok (number, after)) :
    cursor.Reaches after := by
  unfold scaled at read
  cases made : Binary64.ofScaled? significand exponent with
  | none => simp [made, Cursor.failHere] at read
  | some value =>
      simp only [made, Option.elim_some, Except.ok.injEq, Prod.mk.injEq] at read
      obtain ⟨-, rfl⟩ := read
      exact .refl _

/-- The digits of an exponent leave an end of the text. -/
theorem reaches_afterExponentSign {scale : Int} {downward : Bool}
    (read : afterExponentSign negative significand scale downward cursor = .ok (number, after)) :
    cursor.Reaches after := by
  unfold afterExponentSign at read
  split at read
  · split at read <;> simp [Cursor.failHere, Cursor.failNext] at read
  · split at read
    · exact .trans (.skipMany cursor _) (reaches_scaled read)
    · split at read
      · simp [Cursor.failHere] at read
      · simp only [Except.ok.injEq, Prod.mk.injEq] at read
        obtain ⟨-, rfl⟩ := read
        exact .skipMany cursor _

/-- An exponent leaves an end of the text. -/
theorem reaches_afterExponentLetter {scale : Int}
    (read : afterExponentLetter negative significand scale cursor = .ok (number, after)) :
    cursor.Reaches after := by
  unfold afterExponentLetter at read
  split at read
  · exact .trans (.skip cursor) (reaches_afterExponentSign read)
  · exact .trans (.skip cursor) (reaches_afterExponentSign read)
  · exact reaches_afterExponentSign read

/-- What follows the digits of a fraction leaves an end of the text. -/
theorem reaches_beforeExponent {scale : Int}
    (read : beforeExponent negative significand scale cursor = .ok (number, after)) :
    cursor.Reaches after := by
  unfold beforeExponent at read
  split at read
  · exact .trans (.skip cursor) (reaches_afterExponentLetter read)
  · exact .trans (.skip cursor) (reaches_afterExponentLetter read)
  · exact reaches_scaled read

/-- A fraction leaves an end of the text. -/
theorem reaches_afterPoint {scale : Int}
    (read : afterPoint negative significand scale cursor = .ok (number, after)) :
    cursor.Reaches after := by
  unfold afterPoint at read
  split at read
  · split at read <;> simp [Cursor.failNext] at read
  · exact .trans (.skipMany cursor _) (reaches_beforeExponent read)

/-- Making an integer moves nowhere. -/
theorem reaches_whole (read : whole negative significand cursor = .ok (number, after)) :
    cursor.Reaches after := by
  unfold whole at read
  dsimp only at read
  have stays {made : Number} (read : (.ok (made, cursor) : Except Failure (Number × Cursor)) =
      .ok (number, after)) : cursor.Reaches after := by
    simp only [Except.ok.injEq, Prod.mk.injEq] at read
    obtain ⟨-, rfl⟩ := read
    exact .refl _
  split at read
  · exact stays read
  · split at read
    · exact stays read
    · exact stays read

/-- What follows the digits before a point leaves an end of the text. -/
theorem reaches_afterWhole {scale : Nat}
    (read : afterWhole negative significand scale cursor = .ok (number, after)) :
    cursor.Reaches after := by
  unfold afterWhole at read
  split at read
  · exact .trans (.skip cursor) (reaches_afterPoint read)
  · exact .trans (.skip cursor) (reaches_afterExponentLetter read)
  · exact .trans (.skip cursor) (reaches_afterExponentLetter read)
  · split at read
    · exact reaches_whole read
    · exact reaches_scaled read

/-- At least one digit is taken. -/
theorem length_read_lt (read : Numeral.read negative cursor = .ok (number, after)) :
    after.rest.length < cursor.rest.length := by
  have within := length_digits_le cursor.rest
  unfold Numeral.read at read
  split at read
  · split at read <;> simp [Cursor.failHere, Cursor.failNext] at read
  · simp [Cursor.failNext] at read
  · rename_i found rest notEmpty _ digitsFound
    have some : 0 < found.length := List.length_pos_iff.mpr notEmpty
    have past := (reaches_afterWhole read).length_le
    rw [Cursor.rest_skipMany, List.length_drop] at past
    rw [digitsFound] at within
    dsimp only at within
    omega

end Numeral

namespace Reader

variable {cursor after : Cursor} {depth : Nat}

/-- A scalar takes what its own reader takes. -/
theorem length_scalar_lt {Item : Type} {toValue : Item → Value}
    {result : Except Failure (Item × Cursor)} {value : Value}
    (takes : ∀ item, result = .ok (item, after) → after.rest.length < cursor.rest.length)
    (read : (do let (item, cursor) ← result; return (toValue item, cursor)) =
      .ok (value, after)) : after.rest.length < cursor.rest.length := by
  obtain ⟨⟨item, past⟩, made, read⟩ := bind_eq_ok.mp read
  obtain ⟨-, rfl⟩ := Prod.mk.inj (Except.ok.inj read)
  exact takes item made

/-- A value that is one word takes a character. -/
theorem length_word_lt {past : Cursor} {letters : List Char} {result value : Value}
    (shorter : past.rest.length < cursor.rest.length)
    (read : (do let cursor ← word letters past; return (result, cursor)) = .ok (value, after)) :
    after.rest.length < cursor.rest.length := by
  obtain ⟨last, made, read⟩ := bind_eq_ok.mp read
  obtain ⟨-, rfl⟩ := Prod.mk.inj (Except.ok.inj read)
  exact Nat.lt_of_le_of_lt (reaches_word made).length_le shorter

/-- What is read with some fuel takes at least one character. -/
structure TakesWith (fuel : Nat) : Prop where
  value : ∀ {depth cursor read after}, value fuel depth cursor = .ok (read, after) →
    after.rest.length < cursor.rest.length
  items : ∀ {depth done cursor read after}, items fuel depth done cursor = .ok (read, after) →
    after.rest.length < cursor.rest.length
  members : ∀ {depth done cursor read after}, members fuel depth done cursor = .ok (read, after) →
    after.rest.length < cursor.rest.length

/-- Items take a character if, with less fuel, values and items do. -/
theorem length_items_succ_lt {fuel : Nat} (takes : TakesWith fuel) {done : List Value}
    {found : Value} (read : items (fuel + 1) depth done cursor = .ok (found, after)) :
    after.rest.length < cursor.rest.length := by
  unfold items at read
  split at read
  · simp at read
  · split at read
    · simp at read
    · rename_i closed
      obtain ⟨-, rfl⟩ := Prod.mk.inj (Except.ok.inj read)
      exact length_endItems_lt closed
  · rename_i next
    have reached := (reaches_nextItem next).length_le
    split at read
    · simp at read
    · rename_i made
      have first := takes.value made
      have others := takes.items read
      omega

/-- Members take a character if, with less fuel, values and members do. -/
theorem length_members_succ_lt {fuel : Nat} (takes : TakesWith fuel)
    {done : List (String × Value)} {found : Value}
    (read : members (fuel + 1) depth done cursor = .ok (found, after)) :
    after.rest.length < cursor.rest.length := by
  unfold members at read
  split at read
  · simp at read
  · split at read
    · simp at read
    · rename_i closed
      obtain ⟨-, rfl⟩ := Prod.mk.inj (Except.ok.inj read)
      exact length_endMembers_lt closed
  · rename_i next
    have reached := (reaches_nextMember next).length_le
    split at read
    · simp at read
    · rename_i atColon
      have colon := length_colon_lt atColon
      split at read
      · simp at read
      · rename_i made
        have first := takes.value made
        have others := takes.members read
        omega

/-- Values take a character if, with less fuel, items and members do. -/
theorem length_value_succ_lt {fuel : Nat} (takes : TakesWith fuel) {found : Value}
    (read : value (fuel + 1) depth cursor = .ok (found, after)) :
    after.rest.length < cursor.rest.length := by
  have start := Cursor.Reaches.skipBlanks cursor
  unfold value at read
  dsimp only at read
  split at read
  · simp [Cursor.failNext] at read
  · rename_i ahead
    exact length_word_lt (start.length_skip_lt ahead) read
  · rename_i ahead
    exact length_word_lt (start.length_skip_lt ahead) read
  · rename_i ahead
    exact length_word_lt (start.length_skip_lt ahead) read
  · rename_i ahead
    have shorter := start.length_skip_lt ahead
    exact length_scalar_lt (fun _ made => Nat.lt_trans (Numeral.length_read_lt made) shorter) read
  · rename_i ahead
    have shorter := start.length_skip_lt ahead
    exact length_scalar_lt
      (fun _ made => Nat.lt_of_le_of_lt (reaches_stringBody made).length_le shorter) read
  · rename_i ahead
    have shorter := start.length_skip_lt ahead
    split at read
    · simp [Cursor.failNext] at read
    · exact Nat.lt_trans (takes.items read) shorter
  · rename_i ahead
    have shorter := start.length_skip_lt ahead
    split at read
    · simp [Cursor.failNext] at read
    · exact Nat.lt_trans (takes.members read) shorter
  · split at read
    · exact length_scalar_lt
        (fun _ made => Nat.lt_of_lt_of_le (Numeral.length_read_lt made) start.length_le) read
    · simp [Cursor.failNext] at read

/-- Whatever is read takes a character, by induction on the fuel. -/
theorem takesWith (fuel : Nat) : TakesWith fuel := by
  induction fuel with
  | zero =>
      constructor
      · intro depth cursor read after made
        simp [value, Cursor.failHere] at made
      · intro depth done cursor read after made
        simp [items, Cursor.failHere] at made
      · intro depth done cursor read after made
        simp [members, Cursor.failHere] at made
  | succ fuel ih =>
      constructor
      · exact length_value_succ_lt ih
      · exact length_items_succ_lt ih
      · exact length_members_succ_lt ih

/-- A string needs one unit of fuel for each character and one for the end. -/
theorem stringBody_enough {fuel larger : Nat} {done : List Char} {found : String × Cursor}
    (enough : cursor.rest.length < larger) (read : stringBody fuel done cursor = .ok found) :
    stringBody larger done cursor = .ok found := by
  induction fuel generalizing larger done cursor with
  | zero => simp [stringBody, Cursor.failHere] at read
  | succ fuel ih =>
      obtain ⟨less, rfl⟩ : ∃ less, larger = less + 1 := ⟨larger - 1, by omega⟩
      unfold stringBody at read ⊢
      split at read
      · simp [Cursor.failHere] at read
      · exact read
      · rename_i ahead
        have shorter := (Cursor.Reaches.refl cursor).length_skip_lt ahead
        split at read
        · rename_i escaped
          have reached := (reaches_escape escaped).length_le
          exact ih (by omega) read
        · simp at read
      · rename_i ahead
        have shorter := (Cursor.Reaches.refl cursor).length_skip_lt ahead
        split at read
        · simp [Cursor.failNext] at read
        · rename_i visible
          rw [if_neg visible]
          exact ih (by omega) read

/--
A reading with some fuel, if it succeeds, is the same with more, and with as much as the text may
need: two units for each character, and a few at the end.
-/
structure KeptWith (fuel : Nat) : Prop where
  value : ∀ larger depth cursor read, fuel ≤ larger ∨ 2 * cursor.rest.length + 2 ≤ larger →
    value fuel depth cursor = .ok read → Reader.value larger depth cursor = .ok read
  items : ∀ larger depth done cursor read,
    fuel ≤ larger ∨ 2 * cursor.rest.length + 3 ≤ larger →
    items fuel depth done cursor = .ok read → Reader.items larger depth done cursor = .ok read
  members : ∀ larger depth done cursor read,
    fuel ≤ larger ∨ 2 * cursor.rest.length + 3 ≤ larger →
    members fuel depth done cursor = .ok read → Reader.members larger depth done cursor = .ok read

/-- Items are read with more fuel if values and items are. -/
theorem kept_items_succ {fuel larger : Nat}
    (enough : fuel ≤ larger ∨ 2 * cursor.rest.length + 2 ≤ larger) (kept : KeptWith fuel)
    (depth : Nat) (done : List Value) {found : Value × Cursor}
    (read : items (fuel + 1) depth done cursor = .ok found) :
    items (larger + 1) depth done cursor = .ok found := by
  unfold items at read ⊢
  split at read
  · simp at read
  · exact read
  · rename_i next
    have reached := (reaches_nextItem next).length_le
    split at read
    · simp at read
    · rename_i made
      have taken := (takesWith fuel).value made
      rw [kept.value _ _ _ _ (by omega) made]
      exact kept.items _ _ _ _ _ (by omega) read

/-- Members are read with more fuel if values and members are. -/
theorem kept_members_succ {fuel larger : Nat}
    (enough : fuel ≤ larger ∨ 2 * cursor.rest.length + 2 ≤ larger) (kept : KeptWith fuel)
    (depth : Nat) (done : List (String × Value)) {found : Value × Cursor}
    (read : members (fuel + 1) depth done cursor = .ok found) :
    members (larger + 1) depth done cursor = .ok found := by
  unfold members at read ⊢
  split at read
  · simp at read
  · exact read
  · rename_i next
    have reached := (reaches_nextMember next).length_le
    split at read
    · simp at read
    · rename_i atColon
      have colon := length_colon_lt atColon
      split at read
      · simp at read
      · rename_i made
        have taken := (takesWith fuel).value made
        rw [kept.value _ _ _ _ (by omega) made]
        exact kept.members _ _ _ _ _ (by omega) read

/-- Values are read with more fuel if items and members are. -/
theorem kept_value_succ {fuel larger : Nat}
    (enough : fuel ≤ larger ∨ 2 * cursor.rest.length + 1 ≤ larger) (kept : KeptWith fuel)
    (depth : Nat) {found : Value × Cursor}
    (read : value (fuel + 1) depth cursor = .ok found) :
    value (larger + 1) depth cursor = .ok found := by
  have start := Cursor.Reaches.skipBlanks cursor
  unfold value at read ⊢
  dsimp only at read ⊢
  split at read
  · exact read
  · exact read
  · exact read
  · exact read
  · exact read
  · exact read
  · rename_i ahead
    have shorter := start.length_skip_lt ahead
    split at read
    · simp [Cursor.failNext] at read
    · exact kept.items _ _ _ _ _ (by omega) read
  · rename_i ahead
    have shorter := start.length_skip_lt ahead
    split at read
    · simp [Cursor.failNext] at read
    · exact kept.members _ _ _ _ _ (by omega) read
  · exact read

/-- Whatever is read is read with more fuel, by induction on the fuel. -/
theorem keptWith (fuel : Nat) : KeptWith fuel := by
  induction fuel with
  | zero =>
      constructor
      · intro larger depth cursor read enough made
        simp [value, Cursor.failHere] at made
      · intro larger depth done cursor read enough made
        simp [items, Cursor.failHere] at made
      · intro larger depth done cursor read enough made
        simp [members, Cursor.failHere] at made
  | succ fuel ih =>
      constructor
      · intro larger depth cursor read enough made
        obtain ⟨less, rfl⟩ : ∃ less, larger = less + 1 := ⟨larger - 1, by omega⟩
        exact kept_value_succ (by omega) ih depth made
      · intro larger depth done cursor read enough made
        obtain ⟨less, rfl⟩ : ∃ less, larger = less + 1 := ⟨larger - 1, by omega⟩
        exact kept_items_succ (by omega) ih depth done made
      · intro larger depth done cursor read enough made
        obtain ⟨less, rfl⟩ : ∃ less, larger = less + 1 := ⟨larger - 1, by omega⟩
        exact kept_members_succ (by omega) ih depth done made

end Reader

end TypedJson.Json
