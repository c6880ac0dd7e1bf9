import Mathlib.Data.List.Forall2
import Mathlib.Data.List.Nodup
import TypedJson.Json.Value

namespace TypedJson

/-- Without repetitions a list is no longer. -/
theorem length_eraseDups_le {Item : Type} [BEq Item] (items : List Item) :
    items.eraseDups.length ≤ items.length := by
  match items with
  | [] => simp
  | item :: rest =>
      have shorter := List.length_filter_le (fun other => !other == item) rest
      have fewer := length_eraseDups_le (rest.filter fun other => !other == item)
      rw [List.eraseDups_cons, List.length_cons, List.length_cons]
      omega
termination_by items.length
decreasing_by
  rw [List.length_cons]
  omega

/-- A list from which no repetition can be dropped has none. -/
theorem nodup_of_length_eraseDups {Item : Type} [BEq Item] [LawfulBEq Item] {items : List Item}
    (full : items.eraseDups.length = items.length) : items.Nodup := by
  induction items with
  | nil => simp
  | cons item rest ih =>
      have shorter := List.length_filter_le (fun other => !other == item) rest
      have fewer := length_eraseDups_le (rest.filter fun other => !other == item)
      rw [List.eraseDups_cons, List.length_cons, List.length_cons] at full
      have kept : (rest.filter fun other => !other == item).length = rest.length := by omega
      have others : ∀ other ∈ rest, (!other == item) = true :=
        List.length_filter_eq_length_iff.mp kept
      rw [List.filter_eq_self.mpr others] at full
      rw [List.nodup_cons]
      refine ⟨?_, ih (by omega)⟩
      intro again
      simpa using others item again

/-- A list keeps its length without repetitions just if it has none. -/
theorem length_eraseDups_eq_iff {Item : Type} [BEq Item] [LawfulBEq Item] {items : List Item} :
    items.eraseDups.length = items.length ↔ items.Nodup := by
  refine ⟨nodup_of_length_eraseDups, fun distinct => ?_⟩
  induction items with
  | nil => rfl
  | cons item rest ih =>
      rw [List.nodup_cons] at distinct
      have kept : rest.filter (fun other => !other == item) = rest := by
        rw [List.filter_eq_self]
        intro other inside
        have different : other ≠ item := fun same => distinct.1 (same ▸ inside)
        simpa using different
      rw [List.eraseDups_cons, kept, List.length_cons, List.length_cons, ih distinct.2]

/-- A row is found under its key. -/
theorem find?_key {Row : Type} (key : Row → String) {rows : List Row}
    (distinct : (rows.map key).Nodup) {row : Row} (inside : row ∈ rows) :
    (rows.find? fun other => key other == key row) = some row := by
  cases found : rows.find? fun other => key other == key row with
  | none =>
      have different := List.find?_eq_none.mp found row inside
      simp at different
  | some other =>
      have same : key other = key row := by simpa using List.find?_some found
      have within := List.mem_of_find?_eq_some found
      rw [List.inj_on_of_nodup_map distinct within inside same]

/-- A row is found exactly under its own key. -/
theorem find?_key_eq_some_iff {Row : Type} (key : Row → String) {rows : List Row}
    (distinct : (rows.map key).Nodup) {name : String} {row : Row} :
    (rows.find? fun other => key other == name) = some row ↔ row ∈ rows ∧ key row = name := by
  constructor
  · intro found
    exact ⟨List.mem_of_find?_eq_some found, by simpa using List.find?_some found⟩
  · intro found
    obtain ⟨inside, rfl⟩ := found
    exact find?_key key distinct inside

/-- To look up a name is to find its row. -/
theorem lookup_eq_find? {Item : Type} (name : String) (rows : List (String × Item)) :
    rows.lookup name = (rows.find? fun row => row.1 == name).map Prod.snd := by
  induction rows with
  | nil => rfl
  | cons row rest ih =>
      obtain ⟨key, item⟩ := row
      rw [List.lookup_cons, List.find?_cons, ih, Bool.beq_comm]
      cases key == name <;> rfl

/-- What is looked up stands in a row. -/
theorem mem_of_lookup {Item : Type} {rows : List (String × Item)} {name : String} {item : Item}
    (found : rows.lookup name = some item) : (name, item) ∈ rows := by
  rw [lookup_eq_find?, Option.map_eq_some_iff] at found
  obtain ⟨row, here, rfl⟩ := found
  have same : row.1 = name := by simpa using List.find?_some here
  exact same ▸ List.mem_of_find?_eq_some here

/-- An item is looked up exactly under its own key. -/
theorem lookup_eq_some_iff {Item : Type} {rows : List (String × Item)}
    (distinct : (rows.map Prod.fst).Nodup) {name : String} {item : Item} :
    rows.lookup name = some item ↔ (name, item) ∈ rows := by
  rw [lookup_eq_find?, Option.map_eq_some_iff]
  constructor
  · intro found
    obtain ⟨row, found, rfl⟩ := found
    obtain ⟨inside, rfl⟩ := (find?_key_eq_some_iff Prod.fst distinct).mp found
    exact inside
  · intro inside
    exact ⟨_, (find?_key_eq_some_iff Prod.fst distinct).mpr ⟨inside, rfl⟩, rfl⟩

/-- Nothing stands under a key that is missing. -/
theorem lookup_of_notMem {Item : Type} {rows : List (String × Item)} {key : String}
    (absent : key ∉ rows.map Prod.fst) : rows.lookup key = none := by
  rw [List.lookup_eq_none_iff]
  intro row inside
  rw [bne_iff_ne]
  rintro rfl
  exact absent (List.mem_map_of_mem inside)

section Middle

variable {Item : Type} {before after : List (String × Item)} {key : String} {item : Item}

/-- The first row of a key is the one that is looked up. -/
theorem lookup_middle (fresh : key ∉ before.map Prod.fst) :
    (before ++ (key, item) :: after).lookup key = some item := by
  rw [List.lookup_append, lookup_of_notMem fresh, Option.none_or, List.lookup_cons, BEq.rfl]

/-- Under another key the rows hold what they would hold without the one in the middle. -/
theorem lookup_middle_of_ne {name : String} (different : name ≠ key) :
    (before ++ (key, item) :: after).lookup name = (before ++ after).lookup name := by
  rw [List.lookup_append, List.lookup_append, List.lookup_cons, beq_false_of_ne different]

end Middle

namespace Json

/-- A member that was set is looked up. -/
theorem lookup_setMember {Item : Type} (key : String) (item : Item)
    (members : List (String × Item)) : (setMember key item members).lookup key = some item := by
  induction members with
  | nil => simp [setMember]
  | cons member rest ih =>
      obtain ⟨name, old⟩ := member
      by_cases same : name = key
      · simp [setMember, same]
      · simp [setMember, same, List.lookup_cons, beq_false_of_ne (Ne.symm same), ih]

/-- Setting a member leaves the others. -/
theorem lookup_setMember_of_ne {Item : Type} {key other : String} (different : other ≠ key)
    (item : Item) (members : List (String × Item)) :
    (setMember key item members).lookup other = members.lookup other := by
  induction members with
  | nil => simp [setMember, List.lookup_cons, beq_false_of_ne different]
  | cons member rest ih =>
      obtain ⟨name, old⟩ := member
      by_cases same : name = key
      · simp [setMember, same, List.lookup_cons, beq_false_of_ne different]
      · simp [setMember, same, List.lookup_cons, ih]

/-- Of two settings of one key the second stays. -/
theorem setMember_setMember {Item : Type} (key : String) (first second : Item)
    (members : List (String × Item)) :
    setMember key second (setMember key first members) = setMember key second members := by
  induction members with
  | nil => simp [setMember]
  | cons member rest ih =>
      obtain ⟨name, old⟩ := member
      by_cases same : name = key
      · simp [setMember, same]
      · simp [setMember, same, ih]

/-- A new member is put at the end. -/
theorem setMember_of_notMem {Item : Type} {key : String} {members : List (String × Item)}
    (new : key ∉ members.map Prod.fst) (item : Item) :
    setMember key item members = members ++ [(key, item)] := by
  induction members with
  | nil => rfl
  | cons member rest ih =>
      obtain ⟨name, old⟩ := member
      rw [List.map_cons, List.mem_cons, not_or] at new
      rw [setMember, if_neg (Ne.symm new.1), ih new.2, List.cons_append]

/-- Where no key is repeated, each member goes to the end. -/
theorem foldl_setMember_of_nodup {Item : Type} (done members : List (String × Item))
    (distinct : ((done ++ members).map Prod.fst).Nodup) :
    members.foldl (fun done member => setMember member.1 member.2 done) done = done ++ members := by
  induction members generalizing done with
  | nil => simp
  | cons member rest ih =>
      have new : member.1 ∉ done.map Prod.fst := by
        intro inside
        rw [List.map_append, List.nodup_append] at distinct
        exact distinct.2.2 member.1 inside member.1 (by simp) rfl
      have moved : done ++ member :: rest = done ++ [member] ++ rest := by simp
      rw [moved] at distinct ⊢
      rw [List.foldl_cons, setMember_of_notMem new]
      exact ih _ distinct

/-- Members with distinct keys are set as they are. -/
theorem setMembers_of_nodup {Item : Type} {members : List (String × Item)}
    (distinct : (members.map Prod.fst).Nodup) : setMembers members = members :=
  foldl_setMember_of_nodup [] members distinct

/-- Of members with the same key the last one is found. -/
theorem lookup_setMembers {Item : Type} (key : String) (members : List (String × Item)) :
    (setMembers members).lookup key = members.reverse.lookup key := by
  have after (done : List (String × Item)) :
      (members.foldl (fun done member => setMember member.1 member.2 done) done).lookup key =
        (members.reverse ++ done).lookup key := by
    induction members generalizing done with
    | nil => rfl
    | cons member rest ih =>
        have set : (setMember member.1 member.2 done).lookup key = (member :: done).lookup key := by
          rw [List.lookup_cons]
          by_cases same : key = member.1
          · rw [same, lookup_setMember, BEq.rfl]
          · rw [lookup_setMember_of_ne same, beq_false_of_ne same]
        rw [List.foldl_cons, ih, List.lookup_append, set, ← List.lookup_append]
        simp
  simpa [setMembers] using after []

end Json

end TypedJson
