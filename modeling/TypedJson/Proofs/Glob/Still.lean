import TypedJson.Glob.Expand
import TypedJson.Proofs.Disk.Still

namespace TypedJson.Glob

open Disk (Finds Meets)

variable {State : Type} {disk : Disk (StateM State)} (still : disk.Still) (state : State)

include still

/-- A name is there if it is shown. -/
theorem hasName_finds (folder name : String) :
    Finds state (hasName disk folder name) (hasName (disk.shown state) folder name) := by
  unfold hasName
  split
  · exact still.finds_isFolder state folder
  · exact (still.finds_kind? state _).bind fun _ => .pure _

/-- The names below a folder are those that are shown. -/
theorem sortedNames_meets (folder : String) :
    Meets state (sortedNames disk folder) (sortedNames (disk.shown state) folder) := by
  unfold sortedNames
  refine .after (still.finds_isFolder state folder) fun isFolder => ?_
  split
  · refine .after (still.finds_names state folder) fun names => ?_
    cases names with
    | ok names => exact .pure _
    | error fault => exact .throw _
  · exact .pure _

/-- A search from a name meets what is shown if the search below does. -/
theorem fromName_meets {below : List Part → String → ExceptT Unlisted (StateM State) (List String)}
    {belowShown : List Part → String → ExceptT Unlisted Id (List String)}
    (same : ∀ parts path, Meets state (below parts path) (belowShown parts path))
    (parts : List Part) (name path : String) :
    Meets state (fromName below disk parts name path)
      (fromName belowShown (disk.shown state) parts name path) := by
  have either (part : Part) (rest : List Part) : Meets state
      (if part.isMatch name then below rest path else pure [])
      (if part.isMatch name then belowShown rest path else pure []) := by
    split
    · exact same rest path
    · exact .pure []
  cases parts with
  | nil => exact .pure []
  | cons part rest =>
      cases part with
      | folders =>
          have deeper (parts : List Part) (own : List String) : Meets state
              (do return own ++ (← below parts path))
              (do return own ++ (← belowShown parts path)) :=
            (same parts path).bind fun _ => .pure _
          unfold fromName
          dsimp only
          cases afterFolders (.folders :: rest) with
          | nil =>
              refine .after (still.finds_isFolder state path) fun isFolder => ?_
              split
              · exact (Meets.pure [path]).bind (deeper _)
              · exact (Meets.pure []).bind (deeper _)
          | cons part after =>
              dsimp only
              split
              · exact (same after path).bind (deeper _)
              · exact (Meets.pure []).bind (deeper _)
      | name text => exact either (.name text) rest
      | tokens list => exact either (.tokens list) rest

/-- One round: the special names of a folder, and then those that are in it. -/
theorem below_meets (foldersOnly : Bool) (fuel : Nat) (parts : List Part) (path : String) :
    Meets state (below disk foldersOnly fuel parts path)
      (below (disk.shown state) foldersOnly fuel parts path) := by
  induction fuel generalizing parts path with
  | zero => exact .pure []
  | succ fuel ih =>
      cases parts with
      | nil =>
          unfold below
          refine .after (still.finds_isFolder state path) fun isFolder => ?_
          split <;> exact .pure _
      | cons part rest =>
          cases part with
          | name text =>
              unfold below
              refine .after (hasName_finds still state path text) fun found => ?_
              cases found with
              | false => exact .pure []
              | true => exact ih rest _
          | _ =>
              unfold below
              refine (sortedNames_meets still state path).bind fun names => ?_
              refine .after (still.finds_isFolder state path) fun isFolder => ?_
              have inside (part : Part) (special : List (List String)) :=
                (Meets.mapM names fun name => fromName_meets still state ih (part :: rest) name
                  (place path name)).bind fun inside => .pure (special.flatten ++ inside.flatten)
              cases isFolder with
              | false => exact (Meets.pure []).bind (inside _)
              | true => exact (Meets.mapM _ fun name => ih rest _).bind (inside _)

/-- The paths that a glob matches are those on the disk that is shown. -/
theorem expand_meets (glob : Glob) :
    Meets state (glob.expand disk) (glob.expand (disk.shown state)) :=
  below_meets still state _ _ _ _

end TypedJson.Glob
