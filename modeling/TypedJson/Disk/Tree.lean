import TypedJson.Disk.Basic

namespace TypedJson.Disk

/-- A tree of files and folders, which are known by the names on the way to them from the root. -/
structure Tree where
  files : List (List String × ByteArray)
  folders : List (List String)
  /-- The way to the working folder. -/
  here : List String

namespace Tree

def kindAt? (tree : Tree) (way : List String) : Option Kind :=
  if way.isEmpty || tree.folders.contains way then some .folder
  else if (tree.files.lookup way).isSome then some .file
  else none

/-- The longest name, in bytes. -/
def nameLimit : Nat := 255

/-- The longest path, in bytes. -/
def pathLimit : Nat := 4095

/-- Takes one name; what was reached before has to be a folder. -/
def step (tree : Tree) (way : List String) (name : String) : Except Fault (List String) :=
  match tree.kindAt? way with
  | none => .error .missing
  | some .file => .error .notFolder
  | some .folder =>
    if name = "" ∨ name = "." then .ok way
    else if name = ".." then .ok way.dropLast
    else if nameLimit < name.utf8ByteSize then .error .nameTooLong
    else .ok (way ++ [name])

/-- Takes names from the root or the working folder. -/
def walk (tree : Tree) (path : String) (names : List String) : Except Fault (List String) :=
  if path.isEmpty then .error .missing
  else if pathLimit < path.utf8ByteSize then .error .nameTooLong
  else names.foldlM tree.step (if Path.isAbsolute path then [] else tree.here)

/-- The way that a path describes; its last name may be missing. -/
def wayOf (tree : Tree) (path : String) : Except Fault (List String) :=
  tree.walk path (slashParts path)

def kind? (tree : Tree) (path : String) : Option Kind :=
  match tree.wayOf path with
  | .ok way => tree.kindAt? way
  | .error _ => none

def read (tree : Tree) (path : String) : Except Fault ByteArray := do
  let way ← tree.wayOf path
  match tree.kindAt? way with
  | none => .error .missing
  | some .folder => .error .isFolder
  | some .file => return (tree.files.lookup way).getD .empty

/-- The names of the files and folders right below a way. -/
def namesBelow (tree : Tree) (way : List String) : List String :=
  ((tree.files.map Prod.fst ++ tree.folders).filter fun other =>
    other != [] && other.dropLast == way).filterMap List.getLast?

def names (tree : Tree) (path : String) : Except Fault (List String) := do
  let way ← tree.wayOf path
  match tree.kindAt? way with
  | none => .error .missing
  | some .file => .error .notFolder
  | some .folder => return tree.namesBelow way

/-- Writes a file; a slash at the end of the path asks for a folder instead. -/
def write (tree : Tree) (path text : String) : Except Fault Tree := do
  let names := slashParts path
  let before := (names.reverse.dropWhile (· == "")).reverse
  let way ← tree.walk path before
  if names.length ≠ before.length ∨ tree.kindAt? way = some .folder then .error .isFolder
  else return { tree with files := (way, text.toUTF8) :: tree.files.filter fun file => file.1 != way }

/-- Makes one folder. -/
def createFolder (tree : Tree) (path : String) : Except Fault Tree := do
  let way ← tree.wayOf path
  if (tree.kindAt? way).isSome then .error .present
  else return { tree with folders := way :: tree.folders }

/-- Keeps the tree that an operation made. -/
def keep (change : Tree → Except Fault Tree) : StateM Tree (Except Fault Unit) := fun tree =>
  match change tree with
  | .ok changed => (.ok (), changed)
  | .error fault => (.error fault, tree)

/-- The disk whose state is a tree. -/
def disk : Disk (StateM Tree) where
  read path := return (← get).read path
  kind? path := return (← get).kind? path
  names path := return (← get).names path
  createFolder path := keep fun tree => tree.createFolder path
  write path text := keep fun tree => tree.write path text

/-- An empty working folder. -/
def empty : Tree := ⟨[], [["work"]], ["work"]⟩

/-- Adds a file and the folders around it; leaves out one for which there is no place. -/
def addFile (tree : Tree) (path text : String) : Tree :=
  let (_, tree) := (disk.createFolders ((Path.parent? path).getD "")).run tree
  (tree.write path text).toOption.getD tree

/-- A working folder with files. -/
def ofFiles (files : List (String × String)) : Tree :=
  files.foldl (fun tree file => tree.addFile file.1 file.2) empty

end Tree

end TypedJson.Disk
