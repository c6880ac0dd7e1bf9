import Mathlib.Data.List.Forall2
import TypedJson.CommandLine.Run
import TypedJson.Proofs.Glob.Still
import TypedJson.Proofs.Json.Bytes

/-
This file says how work on a disk ends, if the disk stays as it is while it is looked at: with a
result that is right by what the disk shows, or with a problem that the disk shows. One rule for
each way to put work together carries this from reading a file to finding the type of a schema.
-/

namespace TypedJson.CommandLine

open Disk (Finds)
open Json (Value)

variable {State First Second : Type} {state : State}

/-- Work keeps the state, and ends with a result that is right or a problem that is there. -/
inductive Ends (state : State) (work : Work (StateM State) First) (right : First → Prop)
    (there : Problem → Prop) : Prop
  | done (result : First) (ran : work.run.run state = (.ok result, state)) (isRight : right result)
  | stopped (problem : Problem) (ran : work.run.run state = (.error problem, state))
    (isThere : there problem)

namespace Ends

variable {right middle : First → Prop} {after : Second → Prop} {there : Problem → Prop}

/-- Work that only gives a result ends with it. -/
theorem pure {result : First} (isRight : right result) :
    Ends state (Pure.pure result) right there := .done result rfl isRight

/-- Work that only fails ends with its problem. -/
theorem throw {problem : Problem} (isThere : there problem) :
    Ends state (MonadExcept.throw problem) right there := .stopped problem rfl isThere

theorem bind {work : Work (StateM State) First} {next : First → Work (StateM State) Second}
    (first : Ends state work middle there)
    (second : ∀ result, middle result → Ends state (next result) after there) :
    Ends state (work >>= next) after there := by
  cases first with
  | done result ran isMiddle =>
      have continued : (work >>= next).run.run state = (next result).run.run state := by
        rw [ExceptT.run_bind, StateT.run_bind, ran]
        rfl
      cases second result isMiddle with
      | done final ranNext isRight => exact .done final (continued.trans ranNext) isRight
      | stopped problem ranNext isThere => exact .stopped problem (continued.trans ranNext) isThere
  | stopped problem ran isThere =>
      refine .stopped problem ?_ isThere
      rw [ExceptT.run_bind, StateT.run_bind, ran]
      rfl

/-- What a result is right by may be said in weaker words. -/
theorem weaken {work : Work (StateM State) First} (ends : Ends state work middle there)
    (weaker : ∀ result, middle result → right result) : Ends state work right there := by
  cases ends with
  | done result ran isMiddle => exact .done result ran (weaker result isMiddle)
  | stopped problem ran isThere => exact .stopped problem ran isThere

/-- An action that cannot fail comes first. -/
theorem look {action : StateM State First} {found : Id First}
    {next : First → Work (StateM State) Second} (finds : Finds state action found)
    (second : Ends state (next found.run) after there) :
    Ends state (liftM action >>= next) after there := by
  have first : Ends state (liftM action) (· = found.run) there := by
    refine .done found.run ?_ rfl
    exact finds.bind fun _ => .pure _
  exact first.bind fun result same => same ▸ second

/-- A result that is required is had, or its failure is the problem. -/
theorem required {Failure : Type} {problem : Failure → Problem} {result : Except Failure First}
    (made : ∀ value, result = .ok value → right value)
    (failed : ∀ failure, result = .error failure → there (problem failure)) :
    Ends state (required problem result) right there := by
  cases result with
  | ok value => exact .done value rfl (made value rfl)
  | error failure => exact .stopped (problem failure) rfl (failed failure rfl)

/-- Work on a list ends right if the work on each of its items does. -/
theorem mapM {work : First → Work (StateM State) Second} {related : First → Second → Prop}
    {items : List First} (each : ∀ item ∈ items, Ends state (work item) (related item) there) :
    Ends state (items.mapM work) (List.Forall₂ related items) there := by
  induction items with
  | nil => exact .pure .nil
  | cons item rest ih =>
      rw [List.mapM_cons]
      apply (each item List.mem_cons_self).bind
      intro result isRelated
      apply (ih fun other inside => each other (List.mem_cons_of_mem _ inside)).bind
      intro others areRelated
      exact .pure (.cons isRelated areRelated)

end Ends

/-! ### Running work -/

/-- The bytes of a text are read as the text. -/
theorem textOf_toUTF8 (text : String) : Disk.textOf text.toUTF8 = .ok text := by
  rw [Disk.textOf, Utf8.fromUTF8?_eq_some_iff.mpr rfl]
  rfl

/-- Bytes are refused as a text for one reason only. -/
theorem textOf_cases (bytes : ByteArray) :
    (∃ text : String, bytes = text.toUTF8 ∧ Disk.textOf bytes = .ok text) ∨
      (∀ text : String, bytes ≠ text.toUTF8) ∧ Disk.textOf bytes = .error .notText := by
  cases found : String.fromUTF8? bytes with
  | some text =>
      obtain rfl := Utf8.fromUTF8?_eq_some_iff.mp found
      exact .inl ⟨text, rfl, textOf_toUTF8 text⟩
  | none =>
      refine .inr ⟨fun text same => ?_, by rw [Disk.textOf, found]; rfl⟩
      simp [Utf8.fromUTF8?_eq_some_iff.mpr same] at found

section

variable {disk : Disk (StateM State)} {after : State} {path text : String}

/-- After a result the work goes on. -/
theorem run_bind_of_ok {work : Work (StateM State) First} {result : First}
    (next : First → Work (StateM State) Second) (ran : work.run.run state = (.ok result, after)) :
    (work >>= next).run.run state = (next result).run.run after := by
  rw [ExceptT.run_bind, StateT.run_bind, ran]
  rfl

/-- After a problem the work ends. -/
theorem run_bind_of_error {work : Work (StateM State) First}
    {problem : Problem} (next : First → Work (StateM State) Second)
    (ran : work.run.run state = (.error problem, after)) :
    (work >>= next).run.run state = (.error problem, after) := by
  rw [ExceptT.run_bind, StateT.run_bind, ran]
  rfl

/-- Work that leaves the disk alone is done item by item without one. -/
theorem run_mapM {work : First → Work (StateM State) Second}
    {found : First → Except Problem Second}
    (same : ∀ item, (work item).run.run state = (found item, state)) (items : List First) :
    (items.mapM work).run.run state = (items.mapM found, state) := by
  induction items with
  | nil => rfl
  | cons item rest ih =>
      have first := same item
      rw [List.mapM_cons, List.mapM_cons]
      cases made : found item with
      | error problem =>
          rw [made] at first
          exact run_bind_of_error _ first
      | ok result =>
          rw [made] at first
          rw [run_bind_of_ok _ first]
          cases others : rest.mapM found with
          | error problem =>
              rw [others] at ih
              exact run_bind_of_error _ ih
          | ok results =>
              rw [others] at ih
              exact run_bind_of_ok _ ih

/-- A file that is read gives its bytes. -/
theorem run_readBytes {problem : Disk.Fault → Problem} {bytes : ByteArray}
    (read : (disk.read path).run state = (.ok bytes, after)) :
    (readBytes disk problem path).run.run state = (.ok bytes, after) := by
  have lifted : (liftM (disk.read path) : Work (StateM State) _).run.run state =
      (.ok (.ok bytes), after) := by
    change (disk.read path >>= fun found =>
      (pure (Except.ok found) : StateM State (Except Problem _))).run state = _
    rw [StateT.run_bind, read]
    rfl
  exact run_bind_of_ok _ lifted

/-- A file that is a text gives the text. -/
theorem run_readText (read : (disk.read path).run state = (.ok text.toUTF8, after)) :
    (readText disk path).run.run state = (.ok text, after) := by
  refine (run_bind_of_ok _ (run_readBytes read)).trans ?_
  rw [textOf_toUTF8]
  rfl

end

/-! ### What a disk holds -/

/-- A file holds a JSON document. -/
def HoldsJson (contents : Disk Id) (path : String) (document : Value) : Prop :=
  ∃ bytes, (contents.read path).run = .ok bytes ∧ Json.readBytes bytes = .ok document

/-- The node of a document that is the schema. -/
def Source.Selects (source : Source) (document node : Value) : Prop :=
  match source.pointer? with
  | none => node = document
  | some text =>
    ∃ pointer, Json.Pointer.ofText? text = some pointer ∧ pointer.follow document = some node

/-- The types that the schema may name. -/
def Source.Knows (contents : Disk Id) (source : Source) (registry : Registry) : Prop :=
  match source.registry? with
  | none => registry = .empty
  | some path =>
    ∃ bytes file, (contents.read path).run = .ok bytes ∧
      RegistryFile.readBytes bytes = .ok file ∧ file.build = .ok registry

/-- The type that the schema describes. -/
def Source.Gives (contents : Disk Id) (source : Source) (type : Descriptor) : Prop :=
  ∃ document node registry, HoldsJson contents source.path document ∧
    source.Selects document node ∧ source.Knows contents registry ∧
      Schema.compile registry node = .ok type

/-- A problem that stands between a source and its type. -/
inductive Source.Hinders (contents : Disk Id) (source : Source) : Problem → Prop
  | unread {fault : Disk.Fault} (read : (contents.read source.path).run = .error fault) :
    Hinders contents source (.unread source.path fault)
  | notJson {bytes : ByteArray} {failure : Json.Failure}
    (read : (contents.read source.path).run = .ok bytes)
    (isNot : Json.readBytes bytes = .error failure) :
    Hinders contents source (.notJson source.path failure)
  | noNode {document : Value} {text : String} (holds : HoldsJson contents source.path document)
    (asked : source.pointer? = some text)
    (leadsNowhere : ∀ pointer, Json.Pointer.ofText? text = some pointer →
      pointer.follow document = none) :
    Hinders contents source (.noSuchNode text source.path)
  | registryUnread {path : String} {fault : Disk.Fault} (asked : source.registry? = some path)
    (read : (contents.read path).run = .error fault) :
    Hinders contents source (.registryUnread path fault)
  | notRegistry {path : String} {bytes : ByteArray} {failure : Json.Failure}
    (asked : source.registry? = some path) (read : (contents.read path).run = .ok bytes)
    (isNot : RegistryFile.readBytes bytes = .error failure) :
    Hinders contents source (.notRegistry path failure)
  | typesRefused {path : String} {bytes : ByteArray} {file : RegistryFile}
    {error : RegistryFile.BuildError} (asked : source.registry? = some path)
    (read : (contents.read path).run = .ok bytes)
    (is : RegistryFile.readBytes bytes = .ok file) (refused : file.build = .error error) :
    Hinders contents source (.typesRefused error)
  | notType {document node : Value} {registry : Registry} {error : Error}
    (holds : HoldsJson contents source.path document) (selects : source.Selects document node)
    (knows : source.Knows contents registry)
    (isNot : Schema.compile registry node = .error error) :
    Hinders contents source (.notType source.path error)

section

variable {contents : Disk Id} {source : Source}

/-- A file whose text is a document holds it. -/
theorem HoldsJson.of_text {path text : String} {document : Value}
    (read : (contents.read path).run = .ok text.toUTF8) (parsed : Json.read text = .ok document) :
    HoldsJson contents path document :=
  ⟨_, read, by rw [Json.readBytes_toUTF8, parsed]⟩

/-- A file holds one document. -/
theorem HoldsJson.unique {path : String} {first second : Value}
    (holds : HoldsJson contents path first) (holdsToo : HoldsJson contents path second) :
    first = second := by
  obtain ⟨bytes, read, parsed⟩ := holds
  obtain ⟨other, readOther, parsedOther⟩ := holdsToo
  obtain rfl := Except.ok.inj (read.symm.trans readOther)
  exact Except.ok.inj (parsed.symm.trans parsedOther)

/-- A pointer selects one part of a document. -/
theorem Source.Selects.unique {document first second : Value}
    (selects : source.Selects document first) (selectsToo : source.Selects document second) :
    first = second := by
  unfold Selects at selects selectsToo
  cases asked : source.pointer? with
  | none =>
      rw [asked] at selects selectsToo
      exact selects.trans selectsToo.symm
  | some text =>
      rw [asked] at selects selectsToo
      obtain ⟨pointer, isPointer, follows⟩ := selects
      obtain ⟨other, isOther, followsOther⟩ := selectsToo
      obtain rfl := Option.some.inj (isPointer.symm.trans isOther)
      exact Option.some.inj (follows.symm.trans followsOther)

/-- A source knows one registry. -/
theorem Source.Knows.unique {first second : Registry} (knows : source.Knows contents first)
    (knowsToo : source.Knows contents second) : first = second := by
  unfold Knows at knows knowsToo
  cases asked : source.registry? with
  | none =>
      rw [asked] at knows knowsToo
      exact knows.trans knowsToo.symm
  | some path =>
      rw [asked] at knows knowsToo
      obtain ⟨bytes, file, read, is, built⟩ := knows
      obtain ⟨other, otherFile, readOther, isOther, builtOther⟩ := knowsToo
      obtain rfl := Except.ok.inj (read.symm.trans readOther)
      obtain rfl := Except.ok.inj (is.symm.trans isOther)
      exact Except.ok.inj (built.symm.trans builtOther)

/-- A source gives one type. -/
theorem Source.Gives.unique {first second : Descriptor} (gives : source.Gives contents first)
    (givesToo : source.Gives contents second) : first = second := by
  obtain ⟨document, node, registry, holds, selects, knows, compiled⟩ := gives
  obtain ⟨other, otherNode, otherRegistry, holdsToo, selectsToo, knowsToo, compiledToo⟩ := givesToo
  obtain rfl := holds.unique holdsToo
  obtain rfl := selects.unique selectsToo
  obtain rfl := knows.unique knowsToo
  exact Except.ok.inj (compiled.symm.trans compiledToo)

/-- A source that gives a type is not hindered. -/
theorem Source.Gives.not_hinders {type : Descriptor} (gives : source.Gives contents type)
    (problem : Problem) : ¬source.Hinders contents problem := by
  obtain ⟨document, node, registry, holds, selects, knows, compiled⟩ := gives
  intro hinders
  cases hinders with
  | unread unread =>
      obtain ⟨bytes, read, -⟩ := holds
      simp [read] at unread
  | notJson readSame isNot =>
      obtain ⟨bytes, read, parsed⟩ := holds
      obtain rfl := Except.ok.inj (read.symm.trans readSame)
      simp [parsed] at isNot
  | noNode holdsToo asked leadsNowhere =>
      obtain rfl := holds.unique holdsToo
      rw [Selects, asked] at selects
      obtain ⟨pointer, isPointer, follows⟩ := selects
      simp [leadsNowhere pointer isPointer] at follows
  | registryUnread asked unread =>
      rw [Knows, asked] at knows
      obtain ⟨bytes, file, read, -⟩ := knows
      simp [read] at unread
  | notRegistry asked readSame isNot =>
      rw [Knows, asked] at knows
      obtain ⟨bytes, file, read, is, -⟩ := knows
      obtain rfl := Except.ok.inj (read.symm.trans readSame)
      simp [is] at isNot
  | typesRefused asked readSame isFile refused =>
      rw [Knows, asked] at knows
      obtain ⟨bytes, file, read, is, built⟩ := knows
      obtain rfl := Except.ok.inj (read.symm.trans readSame)
      obtain rfl := Except.ok.inj (is.symm.trans isFile)
      simp [built] at refused
  | notType holdsToo selectsToo knowsToo isNot =>
      obtain rfl := holds.unique holdsToo
      obtain rfl := selects.unique selectsToo
      obtain rfl := knows.unique knowsToo
      simp [compiled] at isNot

end

/-! ### Reading -/

section

variable {disk : Disk (StateM State)} (still : disk.Still) {there : Problem → Prop}

include still

/-- Reading bytes ends with those of the file, or with the fault of the disk. -/
theorem readBytes_ends {problem : Disk.Fault → Problem} {path : String}
    (unread : ∀ fault, ((disk.shown state).read path).run = .error fault → there (problem fault)) :
    Ends state (readBytes disk problem path)
      (fun bytes => ((disk.shown state).read path).run = .ok bytes) there :=
  .look (still.finds_read state path) (.required (fun _ => id) unread)

/-- Reading a text ends with that of the file, unless the disk fails or the bytes are no text. -/
theorem readText_ends {path : String}
    (unread : ∀ fault, ((disk.shown state).read path).run = .error fault →
      there (.unread path fault))
    (notText : ∀ bytes, ((disk.shown state).read path).run = .ok bytes →
      (∀ text : String, bytes ≠ text.toUTF8) → there (.unread path .notText)) :
    Ends state (readText disk path)
      (fun text => ((disk.shown state).read path).run = .ok text.toUTF8) there := by
  refine (readBytes_ends still unread).bind fun bytes read => ?_
  obtain ⟨text, rfl, is⟩ | ⟨isNone, isNot⟩ := textOf_cases bytes
  · rw [is]
    exact .pure read
  · rw [isNot]
    exact .throw (notText bytes read isNone)

/-- Reading a document ends with that of the file, unless the disk or the reader fails. -/
theorem readJson_ends {path : String}
    (unread : ∀ fault, ((disk.shown state).read path).run = .error fault →
      there (.unread path fault))
    (notJson : ∀ bytes failure, ((disk.shown state).read path).run = .ok bytes →
      Json.readBytes bytes = .error failure → there (.notJson path failure)) :
    Ends state (readJson disk path) (HoldsJson (disk.shown state) path) there :=
  (readBytes_ends still unread).bind fun bytes read =>
    .required (fun _ parsed => ⟨bytes, read, parsed⟩) fun failure => notJson bytes failure read

/-- Reading the registry ends with the one that the source knows, or with what hinders. -/
theorem readRegistry_ends {source : Source}
    (hinders : ∀ problem, source.Hinders (disk.shown state) problem → there problem) :
    Ends state (source.readRegistry disk) (source.Knows (disk.shown state)) there := by
  unfold Source.readRegistry Source.Knows
  cases asked : source.registry? with
  | none => exact .pure rfl
  | some path =>
      apply (readBytes_ends still fun fault unread =>
        hinders _ (.registryUnread asked unread)).bind
      intro bytes read
      refine .bind (.required (fun _ => id) fun failure isNot =>
        hinders _ (.notRegistry asked read isNot)) fun file is => ?_
      exact .required (fun registry built => ⟨bytes, file, read, is, built⟩) fun error refused =>
        hinders _ (.typesRefused asked read is refused)

/-- The type of a schema is read, or something hinders it. -/
theorem readType_ends {source : Source}
    (hinders : ∀ problem, source.Hinders (disk.shown state) problem → there problem) :
    Ends state (source.readType disk) (source.Gives (disk.shown state)) there := by
  unfold Source.readType
  apply (readJson_ends still (fun fault unread => hinders _ (.unread unread))
    fun bytes failure read isNot => hinders _ (.notJson read isNot)).bind
  intro document holds
  have select : Ends state (required id (source.select document)) (source.Selects document)
      there := by
    unfold Source.select Source.Selects
    cases asked : source.pointer? with
    | none => exact .required (fun node same => (Except.ok.inj same).symm) (by simp)
    | some text =>
        dsimp only
        cases followed : (Json.Pointer.ofText? text).bind fun pointer =>
            pointer.follow document with
        | some node =>
            refine .pure ?_
            simpa [Option.bind_eq_some_iff] using followed
        | none =>
            refine .throw (hinders _ (.noNode holds asked ?_))
            simpa [Option.bind_eq_none_iff] using followed
  apply select.bind
  intro node selects
  apply (readRegistry_ends still hinders).bind
  intro registry knows
  exact .required (fun type compiled => ⟨document, node, registry, holds, selects, knows, compiled⟩)
    fun error isNot => hinders _ (.notType holds selects knows isNot)

end

end TypedJson.CommandLine
