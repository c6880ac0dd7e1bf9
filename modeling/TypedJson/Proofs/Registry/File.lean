import TypedJson.Proofs.Json.Common
import TypedJson.Proofs.Registry.Session
import TypedJson.Proofs.Schema.Compile
import TypedJson.Registry.File

namespace TypedJson.RegistryFile

open Json (Value Cursor Failure Common Ends)

open Json.Reader (string nextKey nextMember colon endMembers)

def Blank (text : List Char) : Prop := ∀ char ∈ text, Cursor.isBlank char = true

/-- A text of one value, which nests no deeper than schemas in a file may. -/
def Reads (text : List Char) (value : Value) : Prop :=
  ∃ after, Blank after.rest ∧
    Json.Reader.value (2 * text.length + 2) depthLimit ⟨text, ⟨1, 0⟩⟩ = .ok (value, after)

/-- Nothing is blank. -/
theorem blank_nil : Blank [] := by simp [Blank]

/-- A text is read as the value that a reader makes of it, if only blanks are left. -/
theorem reads_of_rest {text left : List Char} {value : Value} {after : Cursor}
    (blank : Blank left)
    (read : Json.Reader.value (2 * text.length + 2) depthLimit ⟨text, ⟨1, 0⟩⟩ =
      .ok (value, after)) (rest : after.rest = left) : Reads text value :=
  ⟨after, rest ▸ blank, read⟩

/-- What stands before the next member of an object. -/
def lead (first : Bool) : List Char := if first then [] else [',']

/-- A text of entries as members of an object, in their order; names may repeat. -/
inductive WritesMembers : Bool → List (String × Value) → List Char → Prop
  | none {blanks : List Char} (blank : Blank blanks) : WritesMembers true [] blanks
  | last : WritesMembers false [] []
  | next {first : Bool} {name : String} {schema : Value} {rest : List (String × Value)}
      {key value text : List Char} (keyReads : Reads key (.string name))
      (valueReads : Reads value schema) (others : WritesMembers false rest text) :
      WritesMembers first ((name, schema) :: rest) (lead first ++ (key ++ ':' :: (value ++ text)))

/-- A text of the member of a file that holds the entries. -/
inductive WritesTypes (entries : List (String × Value)) : List Char → Prop
  | member {key before text after : List Char} (keyReads : Reads key (.string typesKey))
      (beforeBlank : Blank before) (members : WritesMembers true entries text)
      (afterBlank : Blank after) :
      WritesTypes entries (key ++ ':' :: (before ++ '{' :: (text ++ '}' :: after)))

/-- A text of the member of a file that asks for the standard formats, or for none. -/
inductive WritesFormats (standard : Bool) : List Char → Prop
  | member {key value : List Char} (keyReads : Reads key (.string formatsKey))
      (valueReads : Reads value (.boolean standard)) :
      WritesFormats standard (key ++ ':' :: value)

/-- A text of a file with the entries; something may follow the file. -/
inductive WritesFile : Bool → List (String × Value) → List Char → Prop
  | types {entries : List (String × Value)} {before types after : List Char}
      (beforeBlank : Blank before) (writesTypes : WritesTypes entries types) :
      WritesFile false entries (before ++ '{' :: (types ++ '}' :: after))
  | formatsTypes {standard : Bool} {entries : List (String × Value)}
      {before formats types after : List Char} (beforeBlank : Blank before)
      (writesFormats : WritesFormats standard formats) (writesTypes : WritesTypes entries types) :
      WritesFile standard entries (before ++ '{' :: (formats ++ ',' :: (types ++ '}' :: after)))
  | typesFormats {standard : Bool} {entries : List (String × Value)}
      {before types formats after : List Char} (beforeBlank : Blank before)
      (writesTypes : WritesTypes entries types) (writesFormats : WritesFormats standard formats) :
      WritesFile standard entries (before ++ '{' :: (types ++ ',' :: (formats ++ '}' :: after)))

/-- Compiles the schema of an entry with what is registered so far, and registers the type. -/
def define (registry : Registry) (entry : String × Value) : Except Error Registry := do
  let type ← Schema.compile registry entry.2
  let (result, registry) := registry.registerType entry.1 type
  result.map fun _ => registry

/-- Defines entries one by one. -/
def defineAll (standard : Bool) (entries : List (String × Value)) : Except Error Registry :=
  entries.foldlM define (if standard then .standard else .empty)

/-- Behind a schema that compiles, a definition ends as the registration of its type. -/
theorem define_of_compile {registry : Registry} {entry : String × Value} {type : Descriptor}
    (compiled : Schema.compile registry entry.2 = .ok type) :
    define registry entry = (registry.registerType entry.1 type).1.map fun _ =>
      (registry.registerType entry.1 type).2 := by
  rw [define, compiled]
  rfl

/-- The types of a file are registered by defining its entries one by one. -/
theorem registerAll_eq_foldlM (registry : Registry) (entries : List (String × Value)) :
    (registerAll registry entries).mapError BuildError.error = entries.foldlM define registry := by
  induction entries generalizing registry with
  | nil => rfl
  | cons entry rest ih =>
      obtain ⟨name, schema⟩ := entry
      rw [List.foldlM_cons, registerAll]
      cases compiled : Schema.compile registry schema with
      | error error =>
          rw [define, compiled]
          rfl
      | ok type =>
          rw [define_of_compile compiled]
          dsimp only
          obtain ⟨-, made⟩ | ⟨-, -, made⟩ | ⟨-, -, made⟩ := registry.registerType_cases name type
          · rw [made]
            rfl
          · rw [made]
            rfl
          · rw [made]
            exact ih _

/-- A definition that is not refused adds its name, which is new. -/
theorem typeNames_of_define {registry result : Registry} {entry : String × Value}
    (defined : define registry entry = .ok result) :
    entry.1 ∉ registry.typeNames ∧ result.typeNames = registry.typeNames ++ [entry.1] := by
  obtain ⟨type, compiled, -⟩ := bind_eq_ok.mp defined
  rw [define_of_compile compiled] at defined
  obtain ⟨-, refused⟩ | ⟨-, -, refused⟩ | ⟨new, -, registered⟩ :=
    registry.registerType_cases entry.1 type
  · simp [refused, Except.map] at defined
  · simp [refused, Except.map] at defined
  · rw [registered] at defined
    obtain rfl := Except.ok.inj defined
    exact ⟨new, by simp [Registry.typeNames]⟩

/-- Definitions that are not refused have distinct names, and none that was there before. -/
theorem nodup_of_foldlM_define {registry result : Registry} {entries : List (String × Value)}
    (distinct : registry.typeNames.Nodup) (defined : entries.foldlM define registry = .ok result) :
    (registry.typeNames ++ entries.map Prod.fst).Nodup := by
  induction entries generalizing registry with
  | nil => simpa using distinct
  | cons entry rest ih =>
      rw [List.foldlM_cons] at defined
      obtain ⟨middle, first, others⟩ := bind_eq_ok.mp defined
      obtain ⟨new, names⟩ := typeNames_of_define first
      have nodup : middle.typeNames.Nodup := by
        rw [names]
        exact Registry.Session.nodup_append_of_notMem distinct new
      have all := ih nodup others
      rw [names] at all
      simpa using all

/-- Entries with a repeated name cannot all be defined. -/
theorem defineAll_fails {entries : List (String × Value)}
    (repeated : ¬(entries.map Prod.fst).Nodup) (standard : Bool) :
    ∃ error, defineAll standard entries = .error error := by
  cases defined : defineAll standard entries with
  | error error => exact ⟨error, rfl⟩
  | ok registry =>
      have none : Registry.typeNames (if standard then .standard else .empty) = [] := by
        cases standard <;> rfl
      have all := nodup_of_foldlM_define (none ▸ List.nodup_nil) defined
      rw [none, List.nil_append] at all
      exact absurd all repeated

/-- What a list's or an object's text is read as. -/
theorem items_eq_array {fuel depth : Nat} {done : List Value} {cursor after : Cursor}
    {value : Value} (read : Json.Reader.items fuel depth done cursor = .ok (value, after)) :
    ∃ values, value = .array values := by
  induction fuel generalizing done cursor with
  | zero => simp [Json.Reader.items, Cursor.failHere] at read
  | succ fuel ih =>
      unfold Json.Reader.items at read
      split at read
      · simp at read
      · split at read
        · simp at read
        · obtain ⟨rfl, rfl⟩ := Prod.mk.inj (Except.ok.inj read)
          exact ⟨_, rfl⟩
      · split at read
        · simp at read
        · exact ih read

/-- Members make an object. -/
theorem members_eq_object {fuel depth : Nat} {done : List (String × Value)}
    {cursor after : Cursor} {value : Value}
    (read : Json.Reader.members fuel depth done cursor = .ok (value, after)) :
    ∃ members, value = .object members := by
  induction fuel generalizing done cursor with
  | zero => simp [Json.Reader.members, Cursor.failHere] at read
  | succ fuel ih =>
      unfold Json.Reader.members at read
      split at read
      · simp at read
      · split at read
        · simp at read
        · obtain ⟨rfl, rfl⟩ := Prod.mk.inj (Except.ok.inj read)
          exact ⟨_, rfl⟩
      · split at read
        · simp at read
        · split at read
          · simp at read
          · exact ih read

/-- How a boolean or a string must start to be read as a value. -/
theorem scalar_of_value {fuel depth : Nat} {cursor after : Cursor} {value : Value}
    (read : Json.Reader.value (fuel + 1) depth cursor = .ok (value, after)) :
    (∀ standard, value = .boolean standard → readBoolean cursor = .ok (standard, after)) ∧
      (∀ text, value = .string text → ∃ chars, cursor.skipBlanks.rest = '"' :: chars ∧
        string cursor.skipBlanks.skip = .ok (text, after)) := by
  have scalar {Item : Type} {toValue : Item → Value}
      {result : Except Failure (Item × Cursor)}
      (read : (result >>= fun found => .ok (toValue found.1, found.2)) = .ok (value, after)) :
      ∃ item, value = toValue item ∧ result = .ok (item, after) := by
    obtain ⟨⟨item, _⟩, made, same⟩ := bind_eq_ok.mp read
    obtain ⟨rfl, rfl⟩ := Prod.mk.inj (Except.ok.inj same)
    exact ⟨item, rfl, made⟩
  unfold Json.Reader.value at read
  unfold readBoolean
  dsimp only at read ⊢
  split at read
  · simp [Cursor.failNext] at read
  · obtain ⟨_, -, same⟩ := bind_eq_ok.mp read
    obtain ⟨rfl, -⟩ := Prod.mk.inj (Except.ok.inj same)
    simp
  · rename_i start
    obtain ⟨_, letters, same⟩ := bind_eq_ok.mp read
    obtain ⟨rfl, rfl⟩ := Prod.mk.inj (Except.ok.inj same)
    simp [start, letters, Except.map]
  · rename_i start
    obtain ⟨_, letters, same⟩ := bind_eq_ok.mp read
    obtain ⟨rfl, rfl⟩ := Prod.mk.inj (Except.ok.inj same)
    simp [start, letters, Except.map]
  · obtain ⟨_, rfl, -⟩ := scalar read
    simp
  · rename_i start
    obtain ⟨_, rfl, made⟩ := scalar read
    simp [start, made]
  · split at read
    · simp [Cursor.failNext] at read
    · obtain ⟨_, rfl⟩ := items_eq_array read
      simp
  · split at read
    · simp [Cursor.failNext] at read
    · obtain ⟨_, rfl⟩ := members_eq_object read
      simp
  · split at read
    · obtain ⟨_, rfl, -⟩ := scalar read
      simp
    · simp [Cursor.failNext] at read

/-- One character is skipped. -/
theorem rest_skip_of_cons {char : Char} {rest : List Char} {cursor : Cursor}
    (ahead : cursor.rest = char :: rest) : cursor.skip.rest = rest := by
  simp [Cursor.skip, ahead]

/-- Blanks are skipped up to a mark. -/
theorem rest_skipBlanks_of_blank {left more : List Char} {mark : Char} {cursor : Cursor}
    (blank : Blank left) (visible : Cursor.isBlank mark = false)
    (ahead : cursor.rest = left ++ mark :: more) : cursor.skipBlanks.rest = mark :: more := by
  rw [Cursor.rest_skipBlanks, ahead, List.dropWhile_append_of_pos blank, List.dropWhile_cons,
    visible]
  simp

/-- What a text is read as alone it is read as before what ends it. -/
theorem value_of_reads {text more : List Char} {value : Value} {cursor : Cursor} {fuel : Nat}
    (reads : Reads text value) (enough : 2 * text.length + 2 ≤ fuel) (ends : Ends more)
    (ahead : cursor.rest = text ++ more) :
    ∃ after left, Json.Reader.value fuel depthLimit cursor = .ok (value, after) ∧ Blank left ∧
      after.rest = left ++ more := by
  obtain ⟨after, left, read⟩ := reads
  have common : Common [] more ⟨text, ⟨1, 0⟩⟩ cursor := ⟨text, (List.append_nil text).symm, ahead⟩
  obtain ⟨⟨_, past⟩, found, rfl, chars, ofAfter, ofPast⟩ :=
    (Json.Reader.carriedWith ⟨.blanks .nothing, ends⟩ _).value fuel depthLimit _ cursor enough common
      _ read
  refine ⟨past, after.rest, found, left, ?_⟩
  rw [ofPast, ofAfter, List.append_nil]

/-- A text of a truth value is read as one in a file. -/
theorem readBoolean_of_reads {text more : List Char} {standard : Bool} {cursor : Cursor}
    (reads : Reads text (.boolean standard)) (ends : Ends more)
    (ahead : cursor.rest = text ++ more) :
    ∃ after left, readBoolean cursor = .ok (standard, after) ∧ Blank left ∧
      after.rest = left ++ more := by
  obtain ⟨after, left, read, blank, rest⟩ := value_of_reads reads (Nat.le_refl _) ends ahead
  exact ⟨after, left, (scalar_of_value read).1 standard rfl, blank, rest⟩

/-- A text of a key is read as one in an object. -/
theorem string_of_reads {key more : List Char} {name : String} {cursor : Cursor}
    (reads : Reads key (.string name)) (ahead : cursor.rest = key ++ ':' :: more) :
    ∃ chars after past, cursor.skipBlanks.rest = '"' :: chars ∧
      string cursor.skipBlanks.skip = .ok (name, after) ∧
      colon after = .ok past ∧ past.rest = more := by
  obtain ⟨after, left, read, blank, rest⟩ :=
    value_of_reads reads (Nat.le_refl _) (.colon more) ahead
  obtain ⟨chars, quote, made⟩ := (scalar_of_value read).2 name rfl
  have mark := rest_skipBlanks_of_blank blank rfl rest
  refine ⟨chars, after, after.skipBlanks.skip, quote, made, ?_, ?_⟩
  · simp [colon, mark]
  · exact rest_skip_of_cons mark

/-- The next member starts past the marks that lead to it. -/
theorem nextMember_of_reads {first : Bool} {left key more : List Char} {name : String}
    {cursor : Cursor} (blank : Blank left) (start : first = true → left = [])
    (reads : Reads key (.string name))
    (ahead : cursor.rest = left ++ (lead first ++ (key ++ ':' :: more))) :
    ∃ after past, nextMember first cursor = .ok (some (name, after)) ∧
      colon after = .ok past ∧ past.rest = more := by
  cases first with
  | true =>
      obtain rfl := start rfl
      obtain ⟨chars, after, past, quote, made, atColon⟩ := string_of_reads reads ahead
      refine ⟨after, past, ?_, atColon⟩
      simp [nextMember, nextKey, quote, made]
  | false =>
      have comma := rest_skipBlanks_of_blank blank rfl ahead
      have later := rest_skip_of_cons comma
      obtain ⟨chars, after, past, quote, made, atColon⟩ := string_of_reads reads later
      refine ⟨after, past, ?_, atColon⟩
      simp [nextMember, nextKey, comma, quote, made]

/-- A brace behind blanks ends an object. -/
theorem endMembers_of_brace {left more : List Char} {cursor : Cursor} (blank : Blank left)
    (ahead : cursor.rest = left ++ '}' :: more) (first : Bool) :
    nextMember first cursor = .ok none ∧
      ∃ after, endMembers cursor = .ok after ∧ after.rest = more := by
  have brace := rest_skipBlanks_of_blank blank rfl ahead
  refine ⟨by simp [nextMember, nextKey, brace], cursor.skipBlanks.skip, ?_, ?_⟩
  · simp [endMembers, brace]
  · exact rest_skip_of_cons brace

/-- The rest of an object ends a value. -/
theorem ends_of_writes {entries : List (String × Value)} {text : List Char}
    (writes : WritesMembers false entries text) (more : List Char) :
    Ends (text ++ '}' :: more) := by
  cases writes with
  | last => exact .brace more
  | next => exact .comma _

/-- An object that is closed has the members that were read. -/
theorem members_of_brace {left more : List Char} {cursor : Cursor} (blank : Blank left)
    (ahead : cursor.rest = left ++ '}' :: more) (fuel depth : Nat)
    (done : List (String × Value)) :
    ∃ after, Json.Reader.members (fuel + 1) depth done cursor =
        .ok (.object (Json.setMembers done.reverse), after) ∧ after.rest = more := by
  obtain ⟨none, after, closed, rest⟩ := endMembers_of_brace blank ahead done.isEmpty
  exact ⟨after, by simp [Json.Reader.members, none, closed], rest⟩

/-- The members that are written are set in their order, after those read before. -/
theorem members_of_writes {first : Bool} {entries : List (String × Value)} {text : List Char}
    (writes : WritesMembers first entries text) (done : List (String × Value)) {fuel : Nat}
    {left more : List Char} {cursor : Cursor} (enough : 2 * text.length + 1 ≤ fuel)
    (isFirst : done.isEmpty = first) (blank : Blank left) (start : first = true → left = [])
    (ahead : cursor.rest = left ++ (text ++ '}' :: more)) :
    ∃ after, Json.Reader.members (fuel + 1) depthLimit done cursor =
        .ok (.object (Json.setMembers (done.reverse ++ entries)), after) ∧ after.rest = more := by
  induction writes generalizing fuel done left cursor with
  | none blanks =>
      obtain rfl := start rfl
      rw [List.append_nil]
      exact members_of_brace blanks ahead _ _ _
  | last =>
      rw [List.append_nil]
      exact members_of_brace blank ahead _ _ _
  | next keyReads valueReads others ih =>
      rename_i first name schema entries key value text
      -- a round costs one unit of fuel, and at least the comma or the colon of the text
      simp only [List.length_append, List.length_cons] at enough
      obtain ⟨less, rfl⟩ : ∃ less, fuel = less + 1 := ⟨fuel - 1, by omega⟩
      have enoughValue : 2 * value.length + 2 ≤ less + 1 := by omega
      have enoughOthers : 2 * text.length + 1 ≤ less := by omega
      obtain ⟨after, past, next, atColon, rest⟩ :=
        nextMember_of_reads blank start keyReads (by simpa using ahead)
      obtain ⟨read, spare, made, spareBlank, left⟩ :=
        value_of_reads valueReads enoughValue (ends_of_writes others more) rest
      obtain ⟨final, found, rest⟩ := ih ((name, schema) :: done) enoughOthers rfl spareBlank
        (by simp) left
      refine ⟨final, ?_, rest⟩
      simpa [Json.Reader.members, isFirst, next, atColon, made] using found

/-- Written types are read as they were written, the last schema for each name. -/
theorem readTypes_of_writes {entries : List (String × Value)} {before text more : List Char}
    {cursor : Cursor} (blank : Blank before) (writes : WritesMembers true entries text)
    (ahead : cursor.rest = before ++ '{' :: (text ++ '}' :: more)) :
    ∃ after, readTypes cursor = .ok (Json.setMembers entries, after) ∧ after.rest = more := by
  have brace := rest_skipBlanks_of_blank blank rfl ahead
  have inside : cursor.skipBlanks.skip.rest = [] ++ (text ++ '}' :: more) :=
    rest_skip_of_cons brace
  have enough : 2 * text.length + 1 ≤ 2 * ('{' :: (text ++ '}' :: more)).length + 1 := by
    rw [List.length_cons, List.length_append]
    omega
  obtain ⟨after, found, rest⟩ :=
    members_of_writes writes [] enough rfl blank_nil (by simp) inside
  refine ⟨after, ?_, rest⟩
  unfold readTypes
  dsimp only
  rw [brace]
  exact congrArg (Except.map _) found

/-- The field of types is read if it is the first one. -/
theorem readField_types {fields : Fields} {types : List (String × Value)}
    {cursor past after : Cursor} (absent : fields.types = none) (atColon : colon cursor = .ok past)
    (read : readTypes past = .ok (types, after)) :
    readField fields typesKey cursor = .ok ({ fields with types := some types }, after) := by
  have different : typesKey ≠ formatsKey := by decide
  rw [readField, if_neg different, if_pos rfl, absent, atColon]
  show (within _ (readTypes past) >>= _) = _
  rw [read]
  rfl

/-- The field of formats is read if it is the first one. -/
theorem readField_formats {fields : Fields} {standard : Bool} {cursor past after : Cursor}
    (absent : fields.standardFormats = none) (atColon : colon cursor = .ok past)
    (read : readBoolean past = .ok (standard, after)) :
    readField fields formatsKey cursor =
      .ok ({ fields with standardFormats := some standard }, after) := by
  rw [readField, if_pos rfl, absent, atColon]
  show (within _ (readBoolean past) >>= _) = _
  rw [read]
  rfl

/-- A round that reads the types. -/
theorem readFields_types {entries : List (String × Value)} (first : Bool)
    {left text more : List Char} {cursor : Cursor} (blank : Blank left)
    (start : first = true → left = []) (writes : WritesTypes entries text)
    (ahead : cursor.rest = left ++ (lead first ++ (text ++ more))) (fuel : Nat) (fields : Fields)
    (absent : fields.types = none) :
    ∃ after spare, readFields (fuel + 1) first fields cursor =
        readFields fuel false { fields with types := some (Json.setMembers entries) } after ∧
      Blank spare ∧ after.rest = spare ++ more := by
  cases writes with
  | member keyReads beforeBlank members afterBlank =>
      rename_i key before text spare
      obtain ⟨after, past, next, atColon, rest⟩ :=
        nextMember_of_reads blank start keyReads (by simpa using ahead)
      obtain ⟨final, read, rest⟩ := readTypes_of_writes beforeBlank members rest
      refine ⟨final, spare, ?_, afterBlank, rest⟩
      rw [readFields, next]
      dsimp only
      rw [readField_types absent atColon read]

/-- A round that reads whether the standard formats are wanted. -/
theorem readFields_formats {standard : Bool} (first : Bool) {left text more : List Char}
    {cursor : Cursor} (blank : Blank left)
    (start : first = true → left = []) (writes : WritesFormats standard text) (ends : Ends more)
    (ahead : cursor.rest = left ++ (lead first ++ (text ++ more))) (fuel : Nat) (fields : Fields)
    (absent : fields.standardFormats = none) :
    ∃ after spare, readFields (fuel + 1) first fields cursor =
        readFields fuel false { fields with standardFormats := some standard } after ∧
      Blank spare ∧ after.rest = spare ++ more := by
  cases writes with
  | member keyReads valueReads =>
      obtain ⟨after, past, next, atColon, rest⟩ :=
        nextMember_of_reads blank start keyReads (by simpa using ahead)
      obtain ⟨final, spare, read, spareBlank, rest⟩ := readBoolean_of_reads valueReads ends rest
      refine ⟨final, spare, ?_, spareBlank, rest⟩
      rw [readFields, next]
      dsimp only
      rw [readField_formats absent atColon read]

/-- A brace behind blanks ends the fields. -/
theorem readFields_brace {left more : List Char} {cursor : Cursor} (blank : Blank left)
    (ahead : cursor.rest = left ++ '}' :: more) (fuel : Nat) (first : Bool) (fields : Fields) :
    readFields (fuel + 1) first fields cursor =
      .ok ⟨fields.standardFormats.getD false, fields.types.getD []⟩ := by
  obtain ⟨none, after, closed, -⟩ := endMembers_of_brace blank ahead first
  simp [readFields, none, closed, Except.map]

/-- A file that starts with a brace is read field by field. -/
theorem read_of_brace {text : String} {before inside : List Char} (blank : Blank before)
    (ahead : text.toList = before ++ '{' :: inside) (some : inside ≠ []) :
    ∃ cursor fuel, cursor.rest = inside ∧
      read text = readFields (fuel + 3) true ⟨none, none⟩ cursor := by
  have start : (Cursor.start text).rest = before ++ '{' :: inside := ahead
  have brace := rest_skipBlanks_of_blank blank rfl start
  have rounds : ('{' :: inside).length + 1 = inside.length - 1 + 3 := by
    have positive := List.length_pos_iff.mpr some
    rw [List.length_cons]
    omega
  refine ⟨(Cursor.start text).skipBlanks.skip, inside.length - 1, rest_skip_of_cons brace, ?_⟩
  unfold read
  dsimp only
  rw [← rounds, ← brace]
  simp only [brace]

/-- The file that is read has the entries as far as one object can hold them. -/
theorem read_of_writes {standard : Bool} {entries : List (String × Value)} {text : String}
    (writes : WritesFile standard entries text.toList) :
    read text = .ok ⟨standard, Json.setMembers entries⟩ := by
  generalize same : text.toList = chars at writes
  cases writes with
  | types beforeBlank writesTypes =>
      rename_i before types more
      obtain ⟨cursor, fuel, ahead, asFields⟩ :=
        read_of_brace beforeBlank same (by simp)
      obtain ⟨after, spare, typesRead, blank, rest⟩ :=
        readFields_types true blank_nil (fun _ => rfl) writesTypes ahead (fuel + 2)
          ⟨none, none⟩ rfl
      rw [asFields, typesRead, readFields_brace blank rest]
      rfl
  | formatsTypes beforeBlank writesFormats writesTypes =>
      rename_i before formats types more
      obtain ⟨cursor, fuel, ahead, asFields⟩ :=
        read_of_brace beforeBlank same (by simp)
      obtain ⟨middle, spare, formatsRead, blank, rest⟩ :=
        readFields_formats true blank_nil (fun _ => rfl) writesFormats (.comma _) ahead (fuel + 2)
          ⟨none, none⟩ rfl
      obtain ⟨after, spare, typesRead, blank, rest⟩ :=
        readFields_types false blank (by simp) writesTypes rest (fuel + 1) ⟨some standard, none⟩ rfl
      rw [asFields, formatsRead, typesRead, readFields_brace blank rest]
      rfl
  | typesFormats beforeBlank writesTypes writesFormats =>
      rename_i before types formats more
      obtain ⟨cursor, fuel, ahead, asFields⟩ :=
        read_of_brace beforeBlank same (by simp)
      obtain ⟨middle, spare, typesRead, blank, rest⟩ :=
        readFields_types true blank_nil (fun _ => rfl) writesTypes ahead (fuel + 2)
          ⟨none, none⟩ rfl
      obtain ⟨after, spare, formatsRead, blank, rest⟩ :=
        readFields_formats false blank (by simp) writesFormats (.brace _) rest (fuel + 1)
          ⟨none, some (Json.setMembers entries)⟩ rfl
      rw [asFields, typesRead, formatsRead, readFields_brace blank rest]
      rfl

/--
A file with distinct names ends as the definition of its entries one by one. Where a name is
repeated, one by one fails, while the file defines that name once, by its last schema.
-/
theorem build_of_writes {standard : Bool} {entries : List (String × Value)} {text : String}
    (writes : WritesFile standard entries text.toList) :
    ∃ file, read text = .ok file ∧
      (∀ name, file.types.lookup name = entries.reverse.lookup name) ∧
      file.build.mapError BuildError.error = defineAll standard file.types ∧
      ((entries.map Prod.fst).Nodup →
        file.build.mapError BuildError.error = defineAll standard entries) ∧
      (¬(entries.map Prod.fst).Nodup →
        ∃ error, defineAll standard entries = .error error) := by
  have built : Except.mapError BuildError.error (build ⟨standard, Json.setMembers entries⟩) =
      defineAll standard (Json.setMembers entries) := registerAll_eq_foldlM _ _
  refine ⟨_, read_of_writes writes, ?_, built, ?_, ?_⟩
  · intro name
    exact Json.lookup_setMembers name entries
  · intro distinct
    rw [built, Json.setMembers_of_nodup distinct]
  · intro repeated
    exact defineAll_fails repeated standard

/-- The second type names the first one, and the standard formats are asked for last. -/
theorem build_of_written_days :
    let day := Value.object [("type", .string "string"), ("format", .string "date")]
    let days := Value.object [("type", .string "array"),
      ("items", .object [("type", .string "Day")])]
    let entries := [("Day", day), ("Days", days)]
    let text := " \x7b\"types\":\x7b\"Day\":\x7b\"type\":\"string\",\"format\":\"date\"\x7d,\n" ++
      "\"Days\" : \x7b\"type\":\"array\",\"items\":\x7b\"type\":\"Day\"\x7d\x7d\x7d," ++
      "\"standard_formats\":true\x7d\n"
    WritesFile true entries text.toList ∧ (entries.map Prod.fst).Nodup ∧
      ∃ file registry, read text = .ok file ∧
        file.build.mapError BuildError.error = .ok registry ∧
        defineAll true entries = .ok registry := by
  intro day days entries text
  have firstKey : Reads "\"Day\"".toList (.string "Day") := reads_of_rest blank_nil rfl rfl
  have first : Reads "\x7b\"type\":\"string\",\"format\":\"date\"\x7d".toList day :=
    reads_of_rest blank_nil rfl rfl
  have space : Blank [' '] := by simp [Blank, Cursor.isBlank]
  have secondKey : Reads "\n\"Days\" ".toList (.string "Days") := reads_of_rest space rfl rfl
  have second :
      Reads " \x7b\"type\":\"array\",\"items\":\x7b\"type\":\"Day\"\x7d\x7d".toList days :=
    reads_of_rest blank_nil rfl rfl
  have types : Reads "\"types\"".toList (.string typesKey) := reads_of_rest blank_nil rfl rfl
  have formats : Reads "\"standard_formats\"".toList (.string formatsKey) :=
    reads_of_rest blank_nil rfl rfl
  have yes : Reads "true".toList (.boolean true) := reads_of_rest blank_nil rfl rfl
  have distinct : (entries.map Prod.fst).Nodup := by decide
  have parts : WritesFile true entries ([' '] ++ '{' :: (_ ++ ',' :: (_ ++ '}' :: ['\n']))) :=
    .typesFormats space
      (.member types blank_nil (.next firstKey first (.next secondKey second .last)) blank_nil)
      (.member formats yes)
  have writes : WritesFile true entries text.toList := by simpa [text, lead] using parts
  obtain ⟨file, made, -, -, same, -⟩ := build_of_writes writes
  obtain ⟨registry, defined⟩ : ∃ registry, defineAll true entries = .ok registry :=
    ⟨_, rfl⟩
  exact ⟨writes, distinct, file, registry, made, by rw [same distinct, defined], defined⟩

/-- The first schema of a repeated name is lost, although one by one the second is refused. -/
theorem build_of_repeated_name :
    let text := "\x7b\"types\":\x7b\"A\":\x7b\"type\":\"string\"\x7d," ++
      "\"A\":\x7b\"type\":\"number\"\x7d\x7d\x7d"
    let entries := [("A", Value.object [("type", .string "string")]),
      ("A", Value.object [("type", .string "number")])]
    WritesFile false entries text.toList ∧
      (∃ file, read text = .ok file ∧
        file.build.mapError BuildError.error = .ok ⟨[], [("A", .primitive .number)]⟩) ∧
      defineAll false entries = .error (.duplicate .type "A") := by
  dsimp only
  have key : Reads "\"A\"".toList (.string "A") := reads_of_rest blank_nil rfl rfl
  have first : Reads "\x7b\"type\":\"string\"\x7d".toList (.object [("type", .string "string")]) :=
    reads_of_rest blank_nil rfl rfl
  have second : Reads "\x7b\"type\":\"number\"\x7d".toList (.object [("type", .string "number")]) :=
    reads_of_rest blank_nil rfl rfl
  have types : Reads "\"types\"".toList (.string typesKey) := reads_of_rest blank_nil rfl rfl
  refine ⟨?_, ⟨⟨false, [("A", .object [("type", .string "number")])]⟩, rfl, rfl⟩, rfl⟩
  exact .types blank_nil
    (.member types blank_nil (.next key first (.next key second .last)) blank_nil)

end TypedJson.RegistryFile
