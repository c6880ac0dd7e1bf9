import TypedJson.CommandLine.Run

namespace TypedJson.CommandLine

/-- The fault of an error code, which may be given with its sign changed. -/
def faultOf (code : UInt32) (error : IO.Error) : Disk.Fault :=
  let number := if code < 0x80000000 then code else 0 - code
  if number = 2 then .missing
  else if number = 17 then .present
  else if number = 20 then .notFolder
  else if number = 21 then .isFolder
  else if number = 36 then .nameTooLong
  else .other error.toString

def codeOf : IO.Error → UInt32
  | .noFileOrDirectory _ code _ => code
  | .alreadyExists _ code _ => code
  | .inappropriateType _ code _ => code
  | .invalidArgument _ code _ => code
  | _ => 0

/-- The result of an action, or the fault that ended it. -/
def attempt {Result : Type} (action : IO Result) : IO (Except Disk.Fault Result) := do
  match ← action.toBaseIO with
  | .ok result => return .ok result
  | .error error => return .error (faultOf (codeOf error) error)

def kindOnMachine? (path : String) : IO (Option Disk.Kind) := do
  if ← (System.mkFilePath [path]).isDir then return some .folder
  else if ← (System.mkFilePath [path]).pathExists then return some .file
  else return none

def readOnMachine (path : String) : IO (Except Disk.Fault ByteArray) := do
  if (← kindOnMachine? path) = some .folder then return .error .isFolder
  else attempt (IO.FS.readBinFile path)

/-- The disk of the machine. -/
def machine : Disk IO where
  read := readOnMachine
  kind? := kindOnMachine?
  names path := attempt do
    return (← (System.mkFilePath [path]).readDir).toList.map fun entry => entry.fileName
  createFolder path := attempt (IO.FS.createDir path)
  write path text := attempt (IO.FS.writeFile path text)

def usage : String :=
  "Usage: typed-json [-v] describe -s FILE [--json-pointer TEXT] [--registry FILE] [-o FILE]\n" ++
  "       typed-json [-v] check -s FILE [--json-pointer TEXT] [--registry FILE] [--ndjson] " ++
  "-i FILE...\n"

end TypedJson.CommandLine

open TypedJson.CommandLine in
def main (words : List String) : IO UInt32 := do
  match Request.ofWords words with
  | .error stop =>
    if stop = .helpWanted then IO.print usage else IO.eprint usage
    return stop.code.toUInt32
  | .ok request =>
    let outcome ← request.run machine
    IO.print outcome.output
    IO.eprint outcome.errors
    return outcome.code.toUInt32
