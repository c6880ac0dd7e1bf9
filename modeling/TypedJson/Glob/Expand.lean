import TypedJson.Disk.Basic
import TypedJson.Disk.Path
import TypedJson.Glob.Basic

namespace TypedJson.Glob

variable {m : Type → Type} [Monad m]

/-- A folder whose names cannot be listed, and why. -/
structure Unlisted where
  folder : String
  fault : Disk.Fault

/-- Puts a name behind a path; the working folder itself is not named. -/
def place (folder name : String) : String :=
  if Path.isHere folder then name else Path.join folder name

/-- The names in a folder, in ascending order; there are none in a file. -/
def sortedNames (disk : Disk m) (folder : String) : ExceptT Unlisted m (List String) := do
  if ← disk.isFolder folder then
    match ← disk.names folder with
    | .ok names => return names.mergeSort fun first second => !(second < first)
    | .error fault => throw ⟨folder, fault⟩
  else return []

/-- The parts after the first ones that stand for folders. -/
def afterFolders : List Part → List Part
  | .folders :: rest => afterFolders rest
  | parts => parts

/-- Whether something of this name is in a folder; the names made of dots are in every folder. -/
def hasName (disk : Disk m) (folder name : String) : m Bool := do
  if name = "." ∨ name = ".." then disk.isFolder folder
  else return (← disk.kind? (place folder name)).isSome

/-- The special names that a part matches: it has to start with a dot itself. -/
def dotNames (part : Part) : List String :=
  match part with
  | .tokens (.char '.' :: _) => ["..", "."].filter part.isMatch
  | _ => []

/-- The matches that are reached from a name in a folder, where the first part is still to match;
`below` finds the matches below a path. -/
def fromName (below : List Part → String → ExceptT Unlisted m (List String)) (disk : Disk m)
    (parts : List Part) (name path : String) : ExceptT Unlisted m (List String) := do
  match parts with
  | [] => return []
  | .folders :: _ =>
    let rest := afterFolders parts
    let own ← match rest with
      | [] => if ← disk.isFolder path then pure [path] else pure []
      | part :: after => if part.isMatch name then below after path else pure []
    return own ++ (← below (.folders :: rest) path)
  | part :: rest => if part.isMatch name then below rest path else return []

/-- The matches below a path. -/
def below (disk : Disk m) (foldersOnly : Bool) :
    Nat → List Part → String → ExceptT Unlisted m (List String)
  | 0, _, _ => return []
  | _ + 1, [], path => do
    if foldersOnly && !(← disk.isFolder path) then return [] else return [path]
  | fuel + 1, .name name :: rest, folder => do
    if ← (hasName disk folder name : m Bool) then
      below disk foldersOnly fuel rest (place folder name)
    else return []
  | fuel + 1, part :: rest, folder => do
    let names ← sortedNames disk folder
    let special ← if ← disk.isFolder folder then
        (dotNames part).mapM fun name =>
          below disk foldersOnly fuel rest (Path.join folder name)
      else pure []
    let inside ← names.mapM fun name =>
      fromName (below disk foldersOnly fuel) disk (part :: rest) name (place folder name)
    return special.flatten ++ inside.flatten

/-- How many folders can lie in one another: a path has fewer bytes. -/
def depthLimit : Nat := 4096

/-- The paths that a glob matches. -/
def expand (disk : Disk m) (glob : Glob) : ExceptT Unlisted m (List String) :=
  below disk glob.foldersOnly (depthLimit + glob.parts.length) glob.parts
    (if glob.absolute then "/" else ".")

end TypedJson.Glob
