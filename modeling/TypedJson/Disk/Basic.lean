import TypedJson.Disk.Path

namespace TypedJson

namespace Disk

/-- Why an operation on a disk fails. -/
inductive Fault
  | missing
  | present
  | notFolder
  | isFolder
  | nameTooLong
  | notText
  | other (text : String)
deriving DecidableEq

def Fault.message : Fault → String
  | missing => "No such file or directory (os error 2)"
  | present => "File exists (os error 17)"
  | notFolder => "Not a directory (os error 20)"
  | isFolder => "Is a directory (os error 21)"
  | nameTooLong => "File name too long (os error 36)"
  | notText => "stream did not contain valid UTF-8"
  | other text => text

/-- The text that bytes are, unless they are none. -/
def textOf (bytes : ByteArray) : Except Fault String :=
  (String.fromUTF8? bytes).elim (.error .notText) .ok

inductive Kind
  | file
  | folder
deriving DecidableEq

end Disk

/-- What the program needs of a disk: the operations on files and folders, in any monad, and the
faults that they report. -/
structure Disk (m : Type → Type) where
  read : String → m (Except Disk.Fault ByteArray)
  kind? : String → m (Option Disk.Kind)
  /-- The names in a folder, in any order. -/
  names : String → m (Except Disk.Fault (List String))
  /-- Makes one folder in a folder that is there. -/
  createFolder : String → m (Except Disk.Fault Unit)
  write : String → String → m (Except Disk.Fault Unit)

namespace Disk

variable {m : Type → Type} [Monad m]

def isFolder (disk : Disk m) (path : String) : m Bool := do
  return (← disk.kind? path) = some .folder

/-- Makes one folder; it is no fault if it is there already. -/
def ensureFolder (disk : Disk m) (path : String) : m (Except Fault Unit) := do
  match ← disk.createFolder path with
  | .error .present => if ← disk.isFolder path then return .ok () else return .error .present
  | result => return result

/-- Makes a folder, given by its names from the last to the first, and those around it. -/
def createBackward (disk : Disk m) (absolute : Bool) : List String → m (Except Fault Unit)
  | [] => return .ok ()
  | last :: before => do
    let path := Path.ofParts absolute (last :: before).reverse
    match ← disk.ensureFolder path with
    | .error .missing =>
      match ← disk.createBackward absolute before with
      | .ok () => disk.ensureFolder path
      | result => return result
    | result => return result

/-- Makes a folder and those around it, where they are missing. -/
def createFolders (disk : Disk m) (path : String) : m (Except Fault Unit) :=
  disk.createBackward (Path.isAbsolute path) (Path.parts path).reverse

end Disk

end TypedJson
