import TypedJson.Proofs.Json.Bytes
import TypedJson.Proofs.Registry.Document

namespace TypedJson.RegistryFile

open Json (Value Cursor Failure Common CommonAfter Halt IsIdle Tails)

open Json.Reader (carriedWith carried_colon carried_endItems carried_endMembers carried_nextItem
  carried_nextMember carried_word keptWith)

variable {left right : List Char} {here there cursor after : Cursor}

/-- A value of the wrong shape is a failure in both texts. -/
theorem carried_wrongShape {First Second : Type} {related : First → Second → Prop}
    (wanted : String) (cursor : Cursor) (other : Except Failure Second) :
    Json.Carried related (wrongShape wanted cursor) other :=
  fun item made => absurd made (wrongShape_ne_ok wanted item)

/-- A truth value is read the same in both texts. -/
theorem carried_readBoolean (tails : Tails left right) (common : Common left right here there) :
    Json.Carried (CommonAfter left right) (readBoolean here) (readBoolean there) := by
  have past := common.skipBlanks tails
  unfold readBoolean
  generalize here.skipBlanks = here at past
  generalize there.skipBlanks = there at past
  apply past.carried (fun _ => ⟨_, rfl⟩) (fun _ _ => ⟨_, rfl⟩)
  intro char chars place other
  have first := Common.past char chars left right place other
  by_cases yes : char = 't'
  · subst yes
    exact (carried_word tails (by simp [IsIdle, Cursor.isBlank]) first).map
      fun _ _ both => ⟨rfl, both⟩
  by_cases no : char = 'f'
  · subst no
    exact (carried_word tails (by simp [IsIdle, Cursor.isBlank]) first).map
      fun _ _ both => ⟨rfl, both⟩
  simpa [yes, no] using carried_wrongShape _ _ _

/-- The fuel for the second text may be less than that for the first. -/
theorem carried_readTypes (tails : Tails left right) (common : Common left right here there) :
    Json.Carried (CommonAfter left right) (readTypes here) (readTypes there) := by
  have past := common.skipBlanks tails
  unfold readTypes
  generalize here.skipBlanks = here at past
  generalize there.skipBlanks = there at past
  apply past.carried (fun _ => ⟨_, rfl⟩) (fun _ _ => ⟨_, rfl⟩)
  intro char chars place other
  have first := Common.past char chars left right place other
  by_cases brace : char = '{'
  · subst brace
    refine Json.Carried.map (?_ : Json.Carried (CommonAfter left right) _ _) ?_
    · intro item made
      obtain ⟨found, read, both⟩ :=
        (carriedWith tails _).members _ _ _ _ _ (Nat.le_refl _) first _ made
      refine ⟨found, ?_, both⟩
      exact (keptWith _).members _ _ _ _ _
        (.inr (by simp only [Cursor.skip, List.length_cons]; omega)) read
    · rintro ⟨value, here⟩ ⟨_, there⟩ ⟨rfl, common⟩
      exact ⟨rfl, common⟩
  simpa [brace] using carried_wrongShape _ _ _

/-- Naming the step changes no result. -/
theorem carried_within {First Second : Type} {related : First → Second → Prop} {step : Json.Step}
    {result : Except Failure First} {other : Except Failure Second}
    (carried : Json.Carried related result other) :
    Json.Carried related (within step result) (within step other) := by
  intro item made
  obtain ⟨found, rfl, both⟩ := carried item (withinOk made)
  exact ⟨found, rfl, both⟩

/-- A field is read the same in both texts. -/
theorem carried_readField (tails : Tails left right) (fields : Fields) (key : String)
    (common : Common left right here there) :
    Json.Carried (CommonAfter left right) (readField fields key here) (readField fields key there) := by
  unfold readField
  split
  · split
    · exact .error _ _
    · apply (carried_colon tails common).bind
      intro here there common
      apply (carried_within (carried_readBoolean tails common)).bind
      rintro ⟨standard, here⟩ ⟨_, there⟩ ⟨rfl, common⟩
      exact .ok ⟨rfl, common⟩
  · split
    · split
      · exact .error _ _
      · apply (carried_colon tails common).bind
        intro here there common
        apply (carried_within (carried_readTypes tails common)).bind
        rintro ⟨types, here⟩ ⟨_, there⟩ ⟨rfl, common⟩
        exact .ok ⟨rfl, common⟩
    · exact .error _ _

/-- Fields in an object are read the same in both texts. -/
theorem carried_readFields (tails : Tails left right) {rounds larger : Nat}
    (enough : rounds ≤ larger) (first : Bool) (fields : Fields)
    (common : Common left right here there) :
    Json.Carried Eq (readFields rounds first fields here) (readFields larger first fields there) := by
  induction rounds generalizing larger first fields here there with
  | zero => exact .error _ _
  | succ rounds ih =>
      obtain ⟨larger, rfl⟩ : ∃ less, larger = less + 1 := ⟨larger - 1, by omega⟩
      have next := carried_nextMember tails first common
      unfold readFields
      split
      · exact .error _ _
      · rename_i found
        obtain ⟨_, other, both⟩ := next _ found
        cases both
        rw [other]
        exact (carried_endMembers tails common).map fun _ _ _ => rfl
      · rename_i found
        obtain ⟨_, other, both⟩ := next _ found
        cases both with
        | some both =>
            rename_i after
            obtain ⟨key, there⟩ := after
            obtain ⟨rfl, common⟩ := both
            have field := carried_readField tails fields key common
            rw [other]
            dsimp only
            split
            · exact .error _ _
            · rename_i read
              obtain ⟨⟨_, there⟩, other, rfl, common⟩ := field _ read
              rw [other]
              exact ih (Nat.le_of_succ_le_succ enough) false _ common

/-- A field takes at least its colon. -/
theorem length_readField_lt {fields found : Fields} {key : String}
    (read : readField fields key cursor = .ok (found, after)) :
    after.rest.length < cursor.rest.length := by
  obtain ⟨past, mark, ⟨-, -, _, made, -⟩ | ⟨-, -, _, made, -⟩⟩ := readField_eq_ok read
  · have shorter := (value_of_readBoolean made 0 0).2.length_le
    exact Nat.lt_of_le_of_lt shorter (Json.Reader.length_colon_lt mark)
  · have value := value_of_readTypes made (Nat.le_refl _)
    have shorter := (Json.Reader.takesWith _).value value
    exact Nat.lt_trans shorter (Json.Reader.length_colon_lt mark)

/-- A round for each character is enough. -/
theorem readFields_enough {rounds larger : Nat} {first : Bool} {fields : Fields}
    {file : RegistryFile} (enough : cursor.rest.length < larger)
    (read : readFields rounds first fields cursor = .ok file) :
    readFields larger first fields cursor = .ok file := by
  induction rounds generalizing larger first fields cursor with
  | zero => simp [readFields, Cursor.failHere] at read
  | succ rounds ih =>
      obtain ⟨larger, rfl⟩ : ∃ less, larger = less + 1 := ⟨larger - 1, by omega⟩
      unfold readFields at read ⊢
      split at read
      · simp at read
      · exact read
      · rename_i next
        have reached := (Json.Reader.reaches_nextMember next).length_le
        split at read
        · simp at read
        · rename_i field
          have taken := length_readField_lt field
          exact ih (by omega) read

/-- Fields in a list are read the same in both texts. -/
theorem carried_readItems (tails : Tails left right) (common : Common left right here there) :
    Json.Carried Eq (readItems here) (readItems there) := by
  unfold readItems
  apply (carried_nextItem tails true common).bind
  · intro cursor halt
    obtain ⟨rest, place⟩ := cursor
    cases halt <;> exact ⟨_, rfl⟩
  intro _ _ both
  cases both with
  | none => exact (carried_endItems tails common).bind fun _ _ _ => .ok rfl
  | some common =>
      apply (carried_within (carried_readBoolean tails common)).bind
      rintro ⟨standard, here⟩ ⟨_, there⟩ ⟨rfl, common⟩
      apply (carried_nextItem tails false common).bind
      · intro cursor halt
        obtain ⟨rest, place⟩ := cursor
        cases halt <;> exact ⟨_, rfl⟩
      intro _ _ both
      cases both with
      | none => exact (carried_endItems tails common).bind fun _ _ _ => .ok rfl
      | some common =>
          apply (carried_within (carried_readTypes tails common)).bind
          rintro ⟨types, here⟩ ⟨_, there⟩ ⟨rfl, common⟩
          exact (carried_endItems tails common).bind fun _ _ _ => .ok rfl

/-- A file that loads from the first text loads the same from the second one. -/
theorem carried_read (tails : Tails left right) {text other : String}
    (common : Common left right (.start text) (.start other)) :
    Json.Carried Eq (read text) (read other) := by
  have past := common.skipBlanks tails
  unfold read
  generalize (Cursor.start text).skipBlanks = here at past
  generalize (Cursor.start other).skipBlanks = there at past
  apply past.carried (fun _ => ⟨_, rfl⟩) (fun _ _ => ⟨_, rfl⟩)
  intro char chars place other
  have first := Common.past char chars left right place other
  by_cases bracket : char = '['
  · subst bracket
    exact carried_readItems tails first
  by_cases brace : char = '{'
  · subst brace
    intro file made
    obtain ⟨found, read, rfl⟩ := carried_readFields tails (Nat.le_refl _) true _ first _ made
    refine ⟨file, ?_, rfl⟩
    exact readFields_enough (by simp only [Cursor.skip, List.length_cons]; omega) read
  simpa [bracket, brace] using carried_wrongShape _ _ _

/-- A file is read of bytes exactly if it is read of the text that they start with: whether what
follows is a text is of no matter. -/
theorem readBytes_eq_ok_iff {text : String} {stray : ByteArray} (isStray : Utf8.Stray stray)
    {file : RegistryFile} :
    readBytes (text.toUTF8 ++ stray) = .ok file ↔ read text = .ok file := by
  have barren := Json.barren_strayChars isStray
  have alone : (Cursor.start text).rest = text.toList ++ [] := (List.append_nil _).symm
  have shown : (Cursor.start (text ++ String.ofList (Json.strayChars stray))).rest =
      text.toList ++ Json.strayChars stray := by simp [Cursor.start]
  rw [readBytes, Json.ofBytes_eq_ok_iff isStray]
  constructor
  · intro made
    obtain ⟨_, found, rfl⟩ := carried_read ⟨barren, .nothing⟩ ⟨_, shown, alone⟩ _ made
    exact found
  · intro made
    obtain ⟨_, found, rfl⟩ := carried_read ⟨.blanks .nothing, barren.ends⟩ ⟨_, alone, shown⟩ _ made
    exact found

end TypedJson.RegistryFile
