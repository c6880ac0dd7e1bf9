import TypedJson.Proofs.Json.Members
import TypedJson.Registry.Basic

namespace TypedJson.Registry

/-- A call that changes a registry, or tries to. -/
inductive Call
  | registerFormat (format : Format)
  | registerType (name : String) (type : Descriptor)
  | resetFormats
  | resetTypes

namespace Call

/-- The table that a call is about. -/
def table : Call → Table
  | registerFormat _ => .format
  | registerType _ _ => .type
  | resetFormats => .format
  | resetTypes => .type

def isReset : Call → Bool
  | resetFormats => true
  | resetTypes => true
  | _ => false

/-- Whether a call is refused, and the registry that it leaves. -/
def perform (call : Call) (registry : Registry) : Except Error Unit × Registry :=
  match call with
  | registerFormat format => registry.registerFormat format
  | registerType name type => registry.registerType name type
  | resetFormats => (.ok (), registry.resetFormats)
  | resetTypes => (.ok (), registry.resetTypes)

end Call

/-- A call that was made, and why it was refused if it was. -/
structure Entry where
  call : Call
  refused? : Option Error

namespace Entry

def resets (table : Table) (entry : Entry) : Bool :=
  entry.call.isReset && entry.call.table == table

/-- The format that the call registered. -/
def format? : Entry → Option Format
  | ⟨.registerFormat format, none⟩ => some format
  | _ => none

/-- The type that the call registered, with its name. -/
def type? : Entry → Option (String × Descriptor)
  | ⟨.registerType name type, none⟩ => some (name, type)
  | _ => none

end Entry

/-- The calls after the last reset of a table. -/
def sinceReset (table : Table) (log : List Entry) : List Entry :=
  (log.reverse.takeWhile fun entry => !entry.resets table).reverse

/-- What was registered successfully since the last reset of a table, in order. -/
def registered {Item : Type} (table : Table) (item? : Entry → Option Item) (log : List Entry) :
    List Item :=
  (sinceReset table log).filterMap item?

def registeredFormats (log : List Entry) : List Format := registered .format Entry.format? log

def registeredTypes (log : List Entry) : List (String × Descriptor) :=
  registered .type Entry.type? log

/-- A registry in use, with a log of all calls. -/
structure Session where
  registry : Registry
  log : List Entry

namespace Session

def empty : Session := ⟨.empty, []⟩

/-- The standard formats count as registered one by one. -/
def standard : Session := ⟨.standard, Format.standard.map fun format => ⟨.registerFormat format, none⟩⟩

/-- Goes on with the registry that the call leaves, whether or not it is refused. -/
def make (session : Session) (call : Call) : Session :=
  match call.perform session.registry with
  | (.ok (), registry) => ⟨registry, session.log ++ [⟨call, none⟩]⟩
  | (.error error, registry) => ⟨registry, session.log ++ [⟨call, some error⟩]⟩

def run (session : Session) (calls : List Call) : Session := calls.foldl make session

/-- The tables are what the log says, and names are distinct and not reserved. -/
structure Kept (session : Session) : Prop where
  formats : session.registry.formats = registeredFormats session.log
  types : session.registry.types = registeredTypes session.log
  formatNames : session.registry.formatNames.Nodup
  typeNames : session.registry.typeNames.Nodup
  unreserved : ∀ name ∈ session.registry.typeNames, Schema.Kind.isReserved name = false

end Session

/-- A reset forgets the log of its table, and any other call is added. -/
theorem sinceReset_append (table : Table) (log : List Entry) (entry : Entry) :
    sinceReset table (log ++ [entry]) =
      if entry.resets table then [] else sinceReset table log ++ [entry] := by
  unfold sinceReset
  rw [List.reverse_append, List.reverse_singleton, List.singleton_append, List.takeWhile_cons]
  cases entry.resets table <;> simp

/-- A reset forgets what was registered, and a registration adds to it. -/
theorem registered_append {Item : Type} (table : Table) (item? : Entry → Option Item)
    (log : List Entry) (entry : Entry) :
    registered table item? (log ++ [entry]) =
      if entry.resets table then [] else registered table item? log ++ (item? entry).toList := by
  rw [registered, sinceReset_append]
  split
  · rfl
  · rw [List.filterMap_append]
    cases found : item? entry <;> simp [registered, found]

/-- A reset forgets the formats, and a registration adds one. -/
theorem registeredFormats_append (log : List Entry) (entry : Entry) :
    registeredFormats (log ++ [entry]) =
      if entry.resets .format then [] else registeredFormats log ++ entry.format?.toList :=
  registered_append .format Entry.format? log entry

/-- A reset forgets the types, and a registration adds one. -/
theorem registeredTypes_append (log : List Entry) (entry : Entry) :
    registeredTypes (log ++ [entry]) =
      if entry.resets .type then [] else registeredTypes log ++ entry.type?.toList :=
  registered_append .type Entry.type? log entry

/-- A format is found under the registered names. -/
theorem format?_isSome_iff (registry : Registry) (name : String) :
    (registry.format? name).isSome = true ↔ name ∈ registry.formatNames := by
  rw [format?, List.find?_isSome, formatNames, List.mem_map]
  simp

/-- A type is found under the registered names. -/
theorem type?_isSome_iff (registry : Registry) (name : String) :
    (registry.type? name).isSome = true ↔ name ∈ registry.typeNames := by
  rw [type?, lookup_eq_find?, Option.isSome_map, List.find?_isSome, typeNames, List.mem_map]
  simp

/-- The ways in which the registration of a format ends. -/
theorem registerFormat_cases (registry : Registry) (format : Format) :
    (format.name ∈ registry.formatNames ∧
      registry.registerFormat format = (.error (.duplicate .format format.name), registry)) ∨
    (format.name ∉ registry.formatNames ∧
      registry.registerFormat format =
        (.ok (), { registry with formats := registry.formats ++ [format] })) := by
  unfold registerFormat
  by_cases known : format.name ∈ registry.formatNames
  · rw [if_pos ((registry.format?_isSome_iff _).mpr known)]
    exact .inl ⟨known, rfl⟩
  · rw [if_neg (mt (registry.format?_isSome_iff _).mp known)]
    exact .inr ⟨known, rfl⟩

/-- The ways in which the registration of a type ends. -/
theorem registerType_cases (registry : Registry) (name : String) (type : Descriptor) :
    (name ∈ registry.typeNames ∧
      registry.registerType name type = (.error (.duplicate .type name), registry)) ∨
    (name ∉ registry.typeNames ∧ Schema.Kind.isReserved name = true ∧
      registry.registerType name type = (.error (.reserved name), registry)) ∨
    (name ∉ registry.typeNames ∧ Schema.Kind.isReserved name = false ∧
      registry.registerType name type =
        (.ok (), { registry with types := registry.types ++ [(name, type)] })) := by
  unfold registerType
  by_cases known : name ∈ registry.typeNames
  · rw [if_pos ((registry.type?_isSome_iff _).mpr known)]
    exact .inl ⟨known, rfl⟩
  · rw [if_neg (mt (registry.type?_isSome_iff _).mp known)]
    cases Schema.Kind.isReserved name with
    | true => exact .inr (.inl ⟨known, rfl, rfl⟩)
    | false => exact .inr (.inr ⟨known, rfl, rfl⟩)

namespace Call

/-- A refused call leaves both tables as they were. -/
theorem perform_of_refused {call : Call} {registry : Registry} {error : Error}
    (refused : (call.perform registry).1 = .error error) :
    (call.perform registry).2 = registry := by
  cases call with
  | registerFormat format =>
      rw [perform] at refused ⊢
      rcases registry.registerFormat_cases format with ⟨-, made⟩ | ⟨-, made⟩
      · rw [made]
      · simp [made] at refused
  | registerType name type =>
      rw [perform] at refused ⊢
      rcases registry.registerType_cases name type with
        ⟨-, made⟩ | ⟨-, -, made⟩ | ⟨-, -, made⟩
      · rw [made]
      · rw [made]
      · simp [made] at refused
  | resetFormats => simp [perform] at refused
  | resetTypes => simp [perform] at refused

/-- A call on the formats leaves the types as they were. -/
theorem types_perform {call : Call} (table : call.table = .format) (registry : Registry) :
    (call.perform registry).2.types = registry.types := by
  cases call with
  | registerFormat format =>
      rw [perform]
      rcases registry.registerFormat_cases format with ⟨-, made⟩ | ⟨-, made⟩
      · rw [made]
      · rw [made]
  | registerType name type => simp [Call.table] at table
  | resetFormats => rfl
  | resetTypes => simp [Call.table] at table

/-- A call on the types leaves the formats as they were. -/
theorem formats_perform {call : Call} (table : call.table = .type) (registry : Registry) :
    (call.perform registry).2.formats = registry.formats := by
  cases call with
  | registerFormat format => simp [Call.table] at table
  | registerType name type =>
      rw [perform]
      rcases registry.registerType_cases name type with
        ⟨-, made⟩ | ⟨-, -, made⟩ | ⟨-, -, made⟩
      · rw [made]
      · rw [made]
      · rw [made]
  | resetFormats => simp [Call.table] at table
  | resetTypes => rfl

end Call

namespace Session

/-- Distinct names with a new one are distinct. -/
theorem nodup_append_of_notMem {names : List String} (distinct : names.Nodup) {name : String}
    (new : name ∉ names) : (names ++ [name]).Nodup := by
  rw [List.nodup_append]
  refine ⟨distinct, List.nodup_singleton name, ?_⟩
  intro other inside _ last same
  obtain rfl := List.mem_singleton.mp last
  exact new (same ▸ inside)

/-- Before the first call nothing is registered. -/
theorem kept_empty : empty.Kept where
  formats := rfl
  types := rfl
  formatNames := List.nodup_nil
  typeNames := List.nodup_nil
  unreserved := by simp [empty, Registry.empty, Registry.typeNames]

/-- A refused registration changes neither the tables nor what counts as registered. -/
theorem Kept.refused {session : Session} (kept : session.Kept) {call : Call}
    (registers : call.isReset = false) (error : Error) :
    Kept ⟨session.registry, session.log ++ [⟨call, some error⟩]⟩ where
  formats := by
    rw [registeredFormats_append, ← kept.formats, Entry.resets, registers]
    cases call <;> exact (List.append_nil _).symm
  types := by
    rw [registeredTypes_append, ← kept.types, Entry.resets, registers]
    cases call <;> exact (List.append_nil _).symm
  formatNames := kept.formatNames
  typeNames := kept.typeNames
  unreserved := kept.unreserved

/-- A new format is kept with the others. -/
theorem Kept.registerFormat {session : Session} (kept : session.Kept) {format : Format}
    (new : format.name ∉ session.registry.formatNames) :
    Kept ⟨{ session.registry with formats := session.registry.formats ++ [format] },
      session.log ++ [⟨.registerFormat format, none⟩]⟩ where
  formats := by
    rw [registeredFormats_append, ← kept.formats]
    rfl
  types := by
    rw [registeredTypes_append, ← kept.types]
    exact (List.append_nil _).symm
  formatNames := by
    rw [Registry.formatNames, List.map_append]
    exact nodup_append_of_notMem kept.formatNames new
  typeNames := kept.typeNames
  unreserved := kept.unreserved

/-- A new type is kept with the others. -/
theorem Kept.registerType {session : Session} (kept : session.Kept) {name : String}
    (type : Descriptor) (new : name ∉ session.registry.typeNames)
    (free : Schema.Kind.isReserved name = false) :
    Kept ⟨{ session.registry with types := session.registry.types ++ [(name, type)] },
      session.log ++ [⟨.registerType name type, none⟩]⟩ where
  formats := by
    rw [registeredFormats_append, ← kept.formats]
    exact (List.append_nil _).symm
  types := by
    rw [registeredTypes_append, ← kept.types]
    rfl
  formatNames := kept.formatNames
  typeNames := by
    rw [Registry.typeNames, List.map_append]
    exact nodup_append_of_notMem kept.typeNames new
  unreserved := by
    intro other inside
    rw [Registry.typeNames, List.map_append, List.mem_append] at inside
    rcases inside with before | last
    · exact kept.unreserved other before
    · rw [List.mem_singleton.mp last]
      exact free

/-- A reset of the formats keeps the types. -/
theorem Kept.resetFormats {session : Session} (kept : session.Kept) :
    Kept ⟨session.registry.resetFormats, session.log ++ [⟨.resetFormats, none⟩]⟩ where
  formats := by
    rw [registeredFormats_append]
    rfl
  types := by
    rw [registeredTypes_append, ← kept.types]
    exact (List.append_nil _).symm
  formatNames := List.nodup_nil
  typeNames := kept.typeNames
  unreserved := kept.unreserved

/-- A reset of the types keeps the formats. -/
theorem Kept.resetTypes {session : Session} (kept : session.Kept) :
    Kept ⟨session.registry.resetTypes, session.log ++ [⟨.resetTypes, none⟩]⟩ where
  formats := by
    rw [registeredFormats_append, ← kept.formats]
    exact (List.append_nil _).symm
  types := by
    rw [registeredTypes_append]
    rfl
  formatNames := kept.formatNames
  typeNames := List.nodup_nil
  unreserved := by simp [Registry.resetTypes, Registry.typeNames]

/-- One call keeps the tables as the log says. -/
theorem Kept.make {session : Session} (kept : session.Kept) (call : Call) :
    (session.make call).Kept := by
  unfold Session.make
  cases call with
  | registerFormat format =>
      rw [Call.perform]
      rcases session.registry.registerFormat_cases format with ⟨-, made⟩ | ⟨new, made⟩
      · rw [made]
        exact kept.refused rfl _
      · rw [made]
        exact kept.registerFormat new
  | registerType name type =>
      rw [Call.perform]
      rcases session.registry.registerType_cases name type with
        ⟨-, made⟩ | ⟨-, -, made⟩ | ⟨new, free, made⟩
      · rw [made]
        exact kept.refused rfl _
      · rw [made]
        exact kept.refused rfl _
      · rw [made]
        exact kept.registerType type new free
  | resetFormats => exact kept.resetFormats
  | resetTypes => exact kept.resetTypes

/-- Any calls keep the tables as the log says. -/
theorem Kept.run {session : Session} (kept : session.Kept) (calls : List Call) :
    (session.run calls).Kept := by
  induction calls generalizing session with
  | nil => exact kept
  | cons call rest ih => exact ih (kept.make call)

/-- The standard formats can be registered one by one, since their names are distinct. -/
theorem standard_eq_run : standard = empty.run (Format.standard.map .registerFormat) := rfl

/-- The standard formats count as registered one by one. -/
theorem kept_standard : standard.Kept := by
  rw [standard_eq_run]
  exact kept_empty.run _

/-- A format is found under its name just if it was registered. -/
theorem Kept.format?_eq_some_iff {session : Session} (kept : session.Kept) (name : String)
    (format : Format) :
    session.registry.format? name = some format ↔
      format ∈ registeredFormats session.log ∧ format.name = name := by
  rw [Registry.format?, find?_key_eq_some_iff Format.name kept.formatNames, kept.formats]

/-- A type is found under its name just if it was registered. -/
theorem Kept.type?_eq_some_iff {session : Session} (kept : session.Kept) (name : String)
    (type : Descriptor) :
    session.registry.type? name = some type ↔ (name, type) ∈ registeredTypes session.log := by
  rw [Registry.type?, lookup_eq_some_iff kept.typeNames, kept.types]

/-- The registry of a session answers for its log: names are unique and in the order of
registration, a name finds what was registered under it since the last reset, and a call is refused
for its name alone, changes nothing if it is refused, and never touches the other table. -/
structure Faithful (session : Session) : Prop where
  formatNames_nodup : session.registry.formatNames.Nodup
  typeNames_nodup : session.registry.typeNames.Nodup
  unreserved : ∀ name ∈ session.registry.typeNames, Schema.Kind.isReserved name = false
  formatNames_eq : session.registry.formatNames = (registeredFormats session.log).map Format.name
  typeNames_eq : session.registry.typeNames = (registeredTypes session.log).map Prod.fst
  format?_eq_some_iff : ∀ name format, session.registry.format? name = some format ↔
    format ∈ registeredFormats session.log ∧ format.name = name
  type?_eq_some_iff : ∀ name type, session.registry.type? name = some type ↔
    (name, type) ∈ registeredTypes session.log
  registerFormat_refused_iff : ∀ format error,
    ((Call.registerFormat format).perform session.registry).1 = .error error ↔
      error = .duplicate .format format.name ∧ format.name ∈ session.registry.formatNames
  registerType_refused_iff : ∀ name type error,
    ((Call.registerType name type).perform session.registry).1 = .error error ↔
      (error = .duplicate .type name ∧ name ∈ session.registry.typeNames) ∨
        (error = .reserved name ∧ Schema.Kind.isReserved name = true)
  refused : ∀ call error, (call.perform session.registry).1 = .error error →
    (call.perform session.registry).2 = session.registry ∧
      (session.make call).registry = session.registry
  types_kept : ∀ call : Call, call.table = .format →
    (session.make call).registry.types = session.registry.types
  formats_kept : ∀ call : Call, call.table = .type →
    (session.make call).registry.formats = session.registry.formats

/-- A format is refused just if its name is registered. -/
theorem registerFormat_refused_iff (registry : Registry) (format : Format) (error : Error) :
    ((Call.registerFormat format).perform registry).1 = .error error ↔
      error = .duplicate .format format.name ∧ format.name ∈ registry.formatNames := by
  rw [Call.perform]
  rcases registry.registerFormat_cases format with ⟨known, made⟩ | ⟨new, made⟩
  · rw [made]
    simp [known, eq_comm]
  · rw [made]
    simp [new]

/-- No type has a reserved name, so which of the two tests comes first cannot be seen. -/
theorem Kept.registerType_refused_iff {session : Session} (kept : session.Kept) (name : String)
    (type : Descriptor) (error : Error) :
    ((Call.registerType name type).perform session.registry).1 = .error error ↔
      (error = .duplicate .type name ∧ name ∈ session.registry.typeNames) ∨
        (error = .reserved name ∧ Schema.Kind.isReserved name = true) := by
  rw [Call.perform]
  rcases session.registry.registerType_cases name type with
    ⟨known, made⟩ | ⟨new, reserved, made⟩ | ⟨new, free, made⟩
  · rw [made]
    simp [known, kept.unreserved name known, eq_comm]
  · rw [made]
    simp [new, reserved, eq_comm]
  · rw [made]
    simp [new, free]

/-- A session goes on with the registry that the call leaves. -/
theorem registry_make (session : Session) (call : Call) :
    (session.make call).registry = (call.perform session.registry).2 := by
  unfold make
  split
  · rename_i made
    rw [made]
  · rename_i made
    rw [made]

/-- A session that keeps what was registered is faithful. -/
theorem Kept.faithful {session : Session} (kept : session.Kept) : session.Faithful where
  formatNames_nodup := kept.formatNames
  typeNames_nodup := kept.typeNames
  unreserved := kept.unreserved
  formatNames_eq := congrArg (List.map Format.name) kept.formats
  typeNames_eq := congrArg (List.map Prod.fst) kept.types
  format?_eq_some_iff := kept.format?_eq_some_iff
  type?_eq_some_iff := kept.type?_eq_some_iff
  registerFormat_refused_iff := registerFormat_refused_iff session.registry
  registerType_refused_iff := kept.registerType_refused_iff
  refused call _ failed := by
    rw [registry_make]
    exact ⟨call.perform_of_refused failed, call.perform_of_refused failed⟩
  types_kept call table := by
    rw [registry_make]
    exact call.types_perform table session.registry
  formats_kept call table := by
    rw [registry_make]
    exact call.formats_perform table session.registry

/-- After any calls, whether from nothing or from the standard formats, the registry is faithful. -/
theorem faithful_run (calls : List Call) :
    (empty.run calls).Faithful ∧ (standard.run calls).Faithful :=
  ⟨(kept_empty.run calls).faithful, (kept_standard.run calls).faithful⟩

end Session

end TypedJson.Registry
