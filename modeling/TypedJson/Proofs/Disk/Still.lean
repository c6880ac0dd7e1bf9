import TypedJson.Disk.Tree

namespace TypedJson.Disk

variable {State : Type}

/-- The answers of a disk in one state. -/
def shown (disk : Disk (StateM State)) (state : State) : Disk Id where
  read path := ((disk.read path).run state).1
  kind? path := ((disk.kind? path).run state).1
  names path := ((disk.names path).run state).1
  createFolder path := ((disk.createFolder path).run state).1
  write path text := ((disk.write path text).run state).1

/-- Looking at the disk leaves it as it is. -/
structure Still (disk : Disk (StateM State)) : Prop where
  read : ∀ path state, ((disk.read path).run state).2 = state
  kind? : ∀ path state, ((disk.kind? path).run state).2 = state
  names : ∀ path state, ((disk.names path).run state).2 = state

/-- A tree that is only looked at stays as it is. -/
theorem Tree.still_disk : Tree.disk.Still where
  read _ _ := rfl
  kind? _ _ := rfl
  names _ _ := rfl

/-- An action keeps the state, and its result is the one that is found without a state. -/
def Finds {Result : Type} (state : State) (action : StateM State Result) (found : Id Result) :
    Prop :=
  action.run state = (found.run, state)

section

variable {First Second : Type} {state : State}

/-- A result is found without looking. -/
theorem Finds.pure (result : First) : Finds state (Pure.pure result) (Pure.pure result) := rfl

theorem Finds.bind {action : StateM State First} {found : Id First}
    {next : First → StateM State Second} {nextFound : First → Id Second}
    (first : Finds state action found)
    (second : ∀ result, Finds state (next result) (nextFound result)) :
    Finds state (action >>= next) (found >>= nextFound) := by
  rw [Finds, StateT.run_bind, first]
  exact second found.run

end

section

variable {disk : Disk (StateM State)} (still : disk.Still) (state : State) (path : String)

include still

/-- A file is read as it is shown. -/
theorem Still.finds_read : Finds state (disk.read path) ((disk.shown state).read path) :=
  Prod.ext rfl (still.read path state)

/-- The kind of a path is as it is shown. -/
theorem Still.finds_kind? : Finds state (disk.kind? path) ((disk.shown state).kind? path) :=
  Prod.ext rfl (still.kind? path state)

/-- The names of a folder are as they are shown. -/
theorem Still.finds_names : Finds state (disk.names path) ((disk.shown state).names path) :=
  Prod.ext rfl (still.names path state)

/-- A path is a folder if it is shown as one. -/
theorem Still.finds_isFolder :
    Finds state (disk.isFolder path) ((disk.shown state).isFolder path) :=
  (still.finds_kind? state path).bind fun _ => .pure _

end

/-- The same for actions that a failure may end. -/
def Meets {Failure Result : Type} (state : State) (action : ExceptT Failure (StateM State) Result)
    (found : ExceptT Failure Id Result) : Prop :=
  Finds state action.run found.run

namespace Meets

variable {Failure First Second : Type} {state : State}

/-- A result is met without looking. -/
theorem pure (result : First) :
    Meets state (Pure.pure result : ExceptT Failure _ First) (Pure.pure result) := rfl

/-- A failure is met without looking. -/
theorem throw (failure : Failure) :
    Meets state (MonadExcept.throw failure : ExceptT Failure _ First)
      (MonadExcept.throw failure) := rfl

theorem bind {action : ExceptT Failure (StateM State) First} {found : ExceptT Failure Id First}
    {next : First → ExceptT Failure (StateM State) Second}
    {nextFound : First → ExceptT Failure Id Second} (first : Meets state action found)
    (second : ∀ result, Meets state (next result) (nextFound result)) :
    Meets state (action >>= next) (found >>= nextFound) := by
  rw [Meets, ExceptT.run_bind, ExceptT.run_bind]
  apply Finds.bind first
  intro result
  cases result with
  | ok result => exact second result
  | error failure => exact Finds.pure _

/-- An action that cannot fail comes first. -/
theorem after {action : StateM State First} {found : Id First}
    {next : First → ExceptT Failure (StateM State) Second}
    {nextFound : First → ExceptT Failure Id Second} (first : Finds state action found)
    (second : ∀ result, Meets state (next result) (nextFound result)) :
    Meets state (liftM action >>= next) (liftM found >>= nextFound) :=
  bind (first.bind fun _ => .pure _) second

theorem mapM {work : First → ExceptT Failure (StateM State) Second}
    {found : First → ExceptT Failure Id Second} (items : List First)
    (each : ∀ item, Meets state (work item) (found item)) :
    Meets state (items.mapM work) (items.mapM found) := by
  induction items with
  | nil => exact pure []
  | cons item rest ih =>
      rw [List.mapM_cons, List.mapM_cons]
      exact (each item).bind fun first => ih.bind fun others => pure (first :: others)

end Meets

end TypedJson.Disk
