import Mathlib.Data.List.TakeWhile
import TypedJson.Proofs.Json.Left
import TypedJson.Proofs.Registry.File

namespace TypedJson.RegistryFile

open Json (Value Cursor Failure)

open Json.Reader (nextItem endItems nextMember endMembers colon word)

/-- What a value says that a file holds: by its members, or by items in their order. -/
inductive Describes (file : RegistryFile) : Value → Prop
  | members {members : List (String × Value)}
      (known : ∀ member ∈ members, member.1 = formatsKey ∨ member.1 = typesKey)
      (formats : members.lookup formatsKey = some (.boolean file.standardFormats) ∨
        members.lookup formatsKey = none ∧ file.standardFormats = false)
      (types : members.lookup typesKey = some (.object file.types) ∨
        members.lookup typesKey = none ∧ file.types = []) : Describes file (.object members)
  | none (same : file = empty) : Describes file (.array [])
  | formats (noTypes : file.types = []) : Describes file (.array [.boolean file.standardFormats])
  | both : Describes file (.array [.boolean file.standardFormats, .object file.types])

variable {cursor past after : Cursor}

/-- A wrong shape is no result. -/
theorem wrongShape_ne_ok {Item : Type} (wanted : String) (item : Item) :
    wrongShape wanted cursor ≠ .ok item := by
  unfold wrongShape
  split
  · simp [Cursor.failHere]
  · simp [Cursor.failHere]
  · split
    · simp
    · simp [Cursor.failHere]

/-- A boolean of a file is read as a value is, and an end of the text is left. -/
theorem value_of_readBoolean {standard : Bool} (read : readBoolean cursor = .ok (standard, after))
    (fuel depth : Nat) :
    Json.Reader.value (fuel + 1) depth cursor = .ok (.boolean standard, after) ∧
      cursor.Reaches after := by
  have start := Cursor.Reaches.skipBlanks cursor
  unfold readBoolean at read
  unfold Json.Reader.value
  dsimp only at read ⊢
  split at read
  · simp [Cursor.failNext] at read
  · rename_i ahead
    obtain ⟨_, letters, same⟩ := map_eq_ok.mp read
    obtain ⟨rfl, rfl⟩ := Prod.mk.inj same
    refine ⟨?_, start.trans (.trans (.skip _) (Json.Reader.reaches_word letters))⟩
    simp [ahead, letters, bind, Except.bind, pure, Except.pure]
  · rename_i ahead
    obtain ⟨_, letters, same⟩ := map_eq_ok.mp read
    obtain ⟨rfl, rfl⟩ := Prod.mk.inj same
    refine ⟨?_, start.trans (.trans (.skip _) (Json.Reader.reaches_word letters))⟩
    simp [ahead, letters, bind, Except.bind, pure, Except.pure]
  · exact absurd read (wrongShape_ne_ok _ _)

/-- The types of a file are read as a value is, two levels below the top. -/
theorem value_of_readTypes {types : List (String × Value)}
    (read : readTypes cursor = .ok (types, after)) {fuel : Nat}
    (enough : 2 * cursor.rest.length + 3 ≤ fuel) :
    Json.Reader.value fuel (depthLimit + 1) cursor = .ok (.object types, after) := by
  have shorter := (Cursor.Reaches.skipBlanks cursor).length_le
  obtain ⟨fuel, rfl⟩ : ∃ less, fuel = less + 1 := ⟨fuel - 1, by omega⟩
  unfold readTypes at read
  unfold Json.Reader.value
  dsimp only at read ⊢
  split at read
  · simp [Cursor.failNext] at read
  · rename_i ahead
    obtain ⟨⟨value, _⟩, made, same⟩ := map_eq_ok.mp read
    obtain ⟨members, rfl⟩ := members_eq_object made
    obtain ⟨rfl, rfl⟩ := Prod.mk.inj same
    have kept := (Json.Reader.keptWith _).members fuel depthLimit [] _ _ (.inl (by omega)) made
    simpa [ahead, Value.members?] using kept
  · exact absurd read (wrongShape_ne_ok _ _)

/-- What was read of the fields of a file is what the members read so far say. -/
structure Fields.Hold (fields : Fields) (done : List (String × Value)) : Prop where
  known : ∀ member ∈ done, member.1 = formatsKey ∨ member.1 = typesKey
  distinct : (done.map Prod.fst).Nodup
  formats : done.lookup formatsKey = fields.standardFormats.map Value.boolean
  types : done.lookup typesKey = fields.types.map Value.object

namespace Fields.Hold

variable {fields : Fields} {done : List (String × Value)}

theorem nothing : Hold ⟨none, none⟩ [] where
  known := by simp
  distinct := List.nodup_nil
  formats := rfl
  types := rfl

/-- A key that is not looked up is no key. -/
theorem notMem_of_lookup {key : String} (absent : done.lookup key = none) :
    key ∉ done.map Prod.fst := by
  intro isKey
  obtain ⟨member, inside, rfl⟩ := List.mem_map.mp isKey
  have different := List.lookup_eq_none_iff.mp absent member inside
  simp at different

/-- The first field is held with its member. -/
theorem addFormats (hold : fields.Hold done) (absent : fields.standardFormats = none)
    (standard : Bool) :
    Hold { fields with standardFormats := some standard }
      ((formatsKey, .boolean standard) :: done) where
  known := List.forall_mem_cons.mpr ⟨.inl rfl, hold.known⟩
  distinct := by
    have new : done.lookup formatsKey = none := by rw [hold.formats, absent]; rfl
    exact List.nodup_cons.mpr ⟨notMem_of_lookup new, hold.distinct⟩
  formats := by rw [List.lookup_cons, BEq.rfl]; rfl
  types := by
    rw [List.lookup_cons, beq_false_of_ne (by decide)]
    exact hold.types

/-- The second field is held with its member. -/
theorem addTypes (hold : fields.Hold done) (absent : fields.types = none)
    (types : List (String × Value)) :
    Hold { fields with types := some types } ((typesKey, .object types) :: done) where
  known := List.forall_mem_cons.mpr ⟨.inr rfl, hold.known⟩
  distinct := by
    have new : done.lookup typesKey = none := by rw [hold.types, absent]; rfl
    exact List.nodup_cons.mpr ⟨notMem_of_lookup new, hold.distinct⟩
  formats := by
    rw [List.lookup_cons, beq_false_of_ne (by decide)]
    exact hold.formats
  types := by rw [List.lookup_cons, BEq.rfl]; rfl

/-- What the fields hold is described by the members. -/
theorem describes (hold : fields.Hold done) :
    Describes ⟨fields.standardFormats.getD false, fields.types.getD []⟩
      (.object (Json.setMembers done.reverse)) := by
  have same (key : String) : (Json.setMembers done.reverse).lookup key = done.lookup key := by
    rw [Json.lookup_setMembers, List.reverse_reverse]
  have distinct : (done.reverse.map Prod.fst).Nodup := by
    rw [List.map_reverse]
    exact List.nodup_reverse.mpr hold.distinct
  apply Describes.members
  · intro member inside
    rw [Json.setMembers_of_nodup distinct, List.mem_reverse] at inside
    exact hold.known member inside
  · rw [same, hold.formats]
    cases fields.standardFormats <;> simp
  · rw [same, hold.types]
    cases fields.types <;> simp

end Fields.Hold

/-- Naming the step changes no result. -/
theorem withinOk {Item : Type} {step : Json.Step} {result : Except Failure Item} {item : Item}
    (made : within step result = .ok item) : result = .ok item := by
  cases result with
  | error failure => simp [within, Except.mapError] at made
  | ok item => exact made

/-- The ways in which a field is read. -/
theorem readField_eq_ok {fields found : Fields} {key : String}
    (read : readField fields key cursor = .ok (found, after)) :
    ∃ past, colon cursor = .ok past ∧
      ((key = formatsKey ∧ fields.standardFormats = none ∧ ∃ standard,
          readBoolean past = .ok (standard, after) ∧
          found = { fields with standardFormats := some standard }) ∨
        (key = typesKey ∧ fields.types = none ∧ ∃ types, readTypes past = .ok (types, after) ∧
          found = { fields with types := some types })) := by
  unfold readField at read
  split at read
  · rename_i isFormats
    split at read
    · simp [Cursor.failHere] at read
    · rename_i absent
      obtain ⟨past, mark, read⟩ := bind_eq_ok.mp read
      obtain ⟨⟨standard, _⟩, made, same⟩ := bind_eq_ok.mp read
      obtain ⟨rfl, rfl⟩ := Prod.mk.inj (Except.ok.inj same)
      exact ⟨past, mark, .inl ⟨isFormats, by simpa using absent, standard, withinOk made, rfl⟩⟩
  · split at read
    · rename_i isTypes
      split at read
      · simp [Cursor.failHere] at read
      · rename_i absent
        obtain ⟨past, mark, read⟩ := bind_eq_ok.mp read
        obtain ⟨⟨types, _⟩, made, same⟩ := bind_eq_ok.mp read
        obtain ⟨rfl, rfl⟩ := Prod.mk.inj (Except.ok.inj same)
        exact ⟨past, mark, .inr ⟨isTypes, by simpa using absent, types, withinOk made, rfl⟩⟩
    · have failed := withinOk read
      simp [Cursor.failHere] at failed

/-- How many fields are still to be read. -/
def Fields.missing (fields : Fields) : Nat :=
  (if fields.standardFormats.isNone then 1 else 0) + if fields.types.isNone then 1 else 0

/-- The fields that are read are read as members of an object, too. -/
theorem members_of_readFields {rounds fuel : Nat} {first : Bool} {fields : Fields}
    {done : List (String × Value)} {file : RegistryFile}
    (read : readFields rounds first fields cursor = .ok file) (isFirst : done.isEmpty = first)
    (hold : fields.Hold done) (room : fields.missing + 1 ≤ fuel)
    (enough : fields.types = none → 2 * cursor.rest.length + 2 ≤ fuel) :
    ∃ members after, Json.Reader.members fuel (depthLimit + 1) done cursor =
        .ok (.object members, after) ∧ Describes file (.object members) := by
  induction rounds generalizing first fields done cursor fuel with
  | zero => simp [readFields, Cursor.failHere] at read
  | succ rounds ih =>
      obtain ⟨fuel, rfl⟩ : ∃ less, fuel = less + 1 := ⟨fuel - 1, by omega⟩
      unfold readFields at read
      unfold Json.Reader.members
      rw [isFirst]
      rcases found : Json.Reader.nextMember first cursor with failure | _ | ⟨key, next⟩
      · simp [found] at read
      · simp only [found] at read
        obtain ⟨after, closed, rfl⟩ := map_eq_ok.mp read
        refine ⟨_, after, ?_, hold.describes⟩
        simp [closed]
      · simp only [found] at read
        have shorter := (Json.Reader.reaches_nextMember found).length_le
        split at read
        · simp at read
        · rename_i fieldRead
          obtain ⟨past, mark, field⟩ := readField_eq_ok fieldRead
          have shorterPast := Json.Reader.length_colon_lt mark
          obtain ⟨rfl, absent, standard, made, rfl⟩ | ⟨rfl, absent, types, made, rfl⟩ := field
          · obtain ⟨less, rfl⟩ : ∃ less, fuel = less + 1 :=
              ⟨fuel - 1, by simp [Fields.missing, absent] at room; omega⟩
            obtain ⟨value, reaches⟩ := value_of_readBoolean made less (depthLimit + 1)
            have shorterAfter := reaches.length_le
            simp only [mark, value]
            apply ih read rfl (hold.addFormats absent standard)
            · simp [Fields.missing, absent] at room ⊢
              omega
            · intro noTypes
              have enough := enough noTypes
              omega
          · have enough := enough absent
            have value := value_of_readTypes made (by omega : 2 * past.rest.length + 3 ≤ fuel)
            simp only [mark, value]
            apply ih read rfl (hold.addTypes absent types)
            · simp [Fields.missing, absent] at room ⊢
              omega
            · simp

/-- A list in a file ends where the list of its items ends. -/
theorem items_of_endItems (closed : endItems cursor = .ok after) (fuel depth : Nat)
    (done : List Value) :
    Json.Reader.items (fuel + 1) depth done cursor = .ok (.array done.reverse, after) := by
  simp [Json.Reader.items, Json.Reader.nextItem_of_endItems closed, closed]

/-- A list goes on behind an item. -/
theorem items_of_value {fuel depth : Nat} {first : Bool} (done : List Value) {item : Value}
    (isFirst : done.isEmpty = first) (next : nextItem first cursor = .ok (some past))
    (read : Json.Reader.value fuel depth past = .ok (item, after)) :
    Json.Reader.items (fuel + 1) depth done cursor =
      Json.Reader.items fuel depth (item :: done) after := by
  simp [Json.Reader.items, isFirst, next, read]

/-- The fields of an array are read as items of a list, too. -/
theorem items_of_readItems {fuel : Nat} {file : RegistryFile}
    (read : readItems cursor = .ok file) (enough : 2 * cursor.rest.length + 3 ≤ fuel) :
    ∃ items after, Json.Reader.items fuel (depthLimit + 1) [] cursor =
        .ok (.array items, after) ∧ Describes file (.array items) := by
  obtain ⟨fuel, rfl⟩ : ∃ less, fuel = less + 3 := ⟨fuel - 3, by omega⟩
  obtain ⟨first, firstNext, read⟩ := bind_eq_ok.mp read
  match first with
  | none =>
      obtain ⟨after, closed, same⟩ := bind_eq_ok.mp read
      obtain rfl := Except.ok.inj same
      exact ⟨[], after, items_of_endItems closed _ _ _, .none rfl⟩
  | some start =>
      obtain ⟨⟨standard, middle⟩, standardRead, read⟩ := bind_eq_ok.mp read
      obtain ⟨second, secondNext, read⟩ := bind_eq_ok.mp read
      obtain ⟨value, reaches⟩ := value_of_readBoolean (withinOk standardRead) (fuel + 1)
        (depthLimit + 1)
      rw [items_of_value [] rfl firstNext value]
      match second with
      | none =>
          obtain ⟨after, closed, same⟩ := bind_eq_ok.mp read
          obtain rfl := Except.ok.inj same
          exact ⟨_, after, items_of_endItems closed _ _ _, .formats rfl⟩
      | some next =>
          obtain ⟨⟨types, last⟩, typesRead, read⟩ := bind_eq_ok.mp read
          obtain ⟨after, closed, same⟩ := bind_eq_ok.mp read
          obtain rfl := Except.ok.inj same
          have shorterStart := (Json.Reader.reaches_nextItem firstNext).length_le
          have shorterMiddle := reaches.length_le
          have shorterNext := Json.Reader.length_nextItem_lt secondNext
          have typesValue := value_of_readTypes (withinOk typesRead)
            (by omega : 2 * next.rest.length + 3 ≤ fuel + 1)
          rw [items_of_value [_] rfl secondNext typesValue]
          exact ⟨_, after, items_of_endItems closed _ _ _, .both⟩

/-- The file is what the first value of a text says. -/
theorem leading_of_read {text : String} {file : RegistryFile} (read : read text = .ok file) :
    ∃ value after, Json.Reader.leading (.start text) = .ok (value, after) ∧
      Describes file value := by
  have shorter := (Cursor.Reaches.skipBlanks (.start text)).length_le
  have depth : Json.Reader.depthLimit = depthLimit + 2 := rfl
  unfold RegistryFile.read at read
  unfold Json.Reader.leading Json.Reader.value
  rw [depth]
  dsimp only at read ⊢
  split at read
  · simp [Cursor.failNext] at read
  · rename_i ahead
    have within := (Cursor.Reaches.skipBlanks (.start text)).length_skip_lt ahead
    obtain ⟨items, after, made, describes⟩ := items_of_readItems read
      (by omega : _ ≤ 2 * (Cursor.start text).rest.length + 1)
    exact ⟨_, after, by simpa [ahead] using made, describes⟩
  · rename_i ahead
    have within := (Cursor.Reaches.skipBlanks (.start text)).length_skip_lt ahead
    obtain ⟨members, after, made, describes⟩ := members_of_readFields read rfl .nothing
      (by simp [Fields.missing]; omega : _ ≤ 2 * (Cursor.start text).rest.length + 1)
      (by intro; omega)
    exact ⟨_, after, by simpa [ahead] using made, describes⟩
  · exact absurd read (wrongShape_ne_ok _ _)

/-- A text is blank if nothing is left past blanks. -/
theorem blank_iff_skipBlanks (cursor : Cursor) :
    Blank cursor.rest ↔ cursor.skipBlanks.rest = [] := by
  rw [Cursor.rest_skipBlanks, List.dropWhile_eq_nil_iff]
  rfl

/-- A text is one document exactly if only blanks follow its first value. -/
theorem read_of_leading {text : String} {value : Value}
    (leading : Json.Reader.leading (.start text) = .ok (value, after)) :
    (Blank after.rest ∧ Json.read text = .ok value) ∨
      (¬Blank after.rest ∧ Json.read text =
        .error ⟨.trailingText, after.skipBlanks.nextPlace, []⟩) := by
  rw [blank_iff_skipBlanks, Json.read, leading]
  dsimp only
  cases after.skipBlanks.rest with
  | nil => exact .inl ⟨rfl, rfl⟩
  | cons char chars => exact .inr ⟨by simp, rfl⟩

/--
A file is what the first value of its text says, and what follows that value is not looked at. The
text is one document, the value, exactly if only blanks follow.
-/
theorem isDocument_iff_blank {text : String} {file : RegistryFile}
    (accepted : read text = .ok file) :
    ∃ value after, Json.Reader.leading (.start text) = .ok (value, after) ∧ Describes file value ∧
      ((∃ document, Json.read text = .ok document) ↔ Blank after.rest) ∧
      (Blank after.rest → Json.read text = .ok value) := by
  obtain ⟨value, after, leading, describes⟩ := leading_of_read accepted
  refine ⟨value, after, leading, describes, ?_⟩
  obtain ⟨blank, made⟩ | ⟨visible, failed⟩ := read_of_leading leading
  · simp [blank, made]
  · simp [visible, failed]

/-- The standard formats are asked for last, and a line feed follows. -/
theorem isDocument_of_days :
    let text := "\x7b\"types\":\x7b\"Day\":\x7b\"type\":\"string\"\x7d\x7d," ++
      "\n\"standard_formats\" : true\x7d\n"
    let file : RegistryFile := ⟨true, [("Day", .object [("type", .string "string")])]⟩
    read text = .ok file ∧ ∃ document, Json.read text = .ok document := by
  have endsWithFeed {text : String} {file : RegistryFile} (accepted : read text = .ok file)
      (feed : ∃ value place,
        Json.Reader.leading (.start text) = .ok (value, ⟨['\n'], place⟩)) :
      read text = .ok file ∧ ∃ document, Json.read text = .ok document := by
    obtain ⟨value, after, leading, -, document, -⟩ := isDocument_iff_blank accepted
    obtain ⟨_, _, feed⟩ := feed
    obtain ⟨-, rfl⟩ := Prod.mk.inj (Except.ok.inj (leading.symm.trans feed))
    exact ⟨accepted, document.mpr (by simp [Blank, Cursor.isBlank])⟩
  exact endsWithFeed rfl ⟨_, _, rfl⟩

/-- A second object in the text of a file is dropped without a word. -/
theorem read_of_two_objects :
    let text := "\x7b\"types\":\x7b\x7d\x7d\n" ++
      "\x7b\"types\":\x7b\"Money\":\x7b\"type\":\"number\"\x7d\x7d\x7d"
    read text = .ok empty ∧ Json.read text = .error ⟨.trailingText, ⟨2, 1⟩, []⟩ := by
  exact ⟨rfl, rfl⟩

end TypedJson.RegistryFile
