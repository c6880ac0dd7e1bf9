import TypedJson.CommandLine.Command
import TypedJson.CommandLine.Problem
import TypedJson.Descriptor.Describe
import TypedJson.Descriptor.Report
import TypedJson.Glob.Expand
import TypedJson.Json.Reader
import TypedJson.Unicode.Blank

namespace TypedJson.CommandLine

open Json (Value)

variable {m : Type → Type} [Monad m]

/-- Work on a disk that a problem may end. -/
abbrev Work (m : Type → Type) (Result : Type) : Type := ExceptT Problem m Result

/-- What a command prints, on both streams, and its exit code. -/
structure Outcome where
  code : Nat
  output : String
  errors : String
deriving DecidableEq

/-- A document with the result of its validation. -/
structure Report where
  origin : String
  result : Except (List Violation) Unit

/-- Continues with a result or ends with the problem that its failure is. -/
def required {Failure Result : Type} (problem : Failure → Problem)
    (result : Except Failure Result) : Work m Result :=
  ExceptT.mk (pure (result.mapError problem))

def readBytes (disk : Disk m) (problem : Disk.Fault → Problem) (path : String) :
    Work m ByteArray := do
  required problem (← disk.read path)

/-- Reads a file that has to be a text. -/
def readText (disk : Disk m) (path : String) : Work m String := do
  let bytes ← readBytes disk (.unread path) path
  required (.unread path) (Disk.textOf bytes)

def readJson (disk : Disk m) (path : String) : Work m Value := do
  required (.notJson path) (Json.readBytes (← readBytes disk (.unread path) path))

namespace Source

/-- The node of a document that a pointer leads to, or the document itself. -/
def select (source : Source) (document : Value) : Except Problem Value :=
  match source.pointer? with
  | none => .ok document
  | some text =>
    match (Json.Pointer.ofText? text).bind fun pointer => pointer.follow document with
    | some node => .ok node
    | none => .error (.noSuchNode text source.path)

def readRegistry (disk : Disk m) (source : Source) : Work m Registry := do
  match source.registry? with
  | none => return .empty
  | some path =>
    let bytes ← readBytes disk (.registryUnread path) path
    let file ← required (.notRegistry path) (RegistryFile.readBytes bytes)
    required .typesRefused file.build

/-- The type of the schema. -/
def readType (disk : Disk m) (source : Source) : Work m Descriptor := do
  let document ← readJson disk source.path
  let node ← required id (source.select document)
  let registry ← source.readRegistry disk
  required (.notType source.path) (Schema.compile registry node)

end Source

/-- The text that describes a type by its name and its structure. -/
def description (type : Descriptor) : String :=
  (Value.object [("name", .string type.name), ("descriptor", type.describe)]).linesText 0

/-- Writes a text to a file in a folder that is made if it is missing. -/
def writeText (disk : Disk m) (path text : String) : Work m Unit := do
  match Path.parent? path with
  | none => pure ()
  | some folder => required .unwritten (← disk.createFolders folder)
  required .unwritten (← disk.write path text)

/-- The paths that an input names: itself, or, for a glob, those that match. -/
def resolve (disk : Disk m) (input : String) : Work m (List String) := do
  if Glob.isGlob input then
    let glob ← required .badGlob (Glob.ofText input)
    let found ← (glob.expand disk).run
    let paths ← required (fun unlisted => .unlisted unlisted.folder unlisted.fault) found
    if paths.isEmpty then throw (.noMatch input) else return paths
  else return [input]

/-- The lines of a text that are not blank, with their numbers from one. -/
def documentLines (text : String) : List (Nat × String) :=
  ((lines text).zipIdx 1).filterMap fun (line, number) =>
    if line.toList.all Unicode.isBlank then none else some (number, line)

def lineOrigin (path : String) (number : Nat) : String := path ++ ":" ++ toString number

/-- Reads the documents of a file with their origins: the whole file, or each line. -/
def readDocuments (disk : Disk m) (byLine : Bool) (path : String) :
    Work m (List (String × Value)) := do
  if byLine then
    let text ← readText disk path
    (documentLines text).mapM fun (number, line) => do
      let origin := lineOrigin path number
      return (origin, ← required (.lineNotJson origin) (Json.read line))
  else return [(path, ← readJson disk path)]

/-- Checks the documents of a file. -/
def checkFile (disk : Disk m) (type : Descriptor) (byLine : Bool) (path : String) :
    Work m (List Report) := do
  return (← readDocuments disk byLine path).map fun (origin, value) =>
    ⟨origin, type.validate value⟩

namespace Report

/-- Whether the document belongs to the type. -/
def isAccepted (report : Report) : Bool := report.result.isOk

/-- A line that says whether a document is accepted, and an indented line for each violation. -/
def text (report : Report) : String :=
  match report.result with
  | .ok () => "\u2705 " ++ report.origin ++ "\n"
  | .error violations =>
    "\u274c " ++ report.origin ++ "\n" ++
      String.join (violations.map fun violation => "    " ++ violation.text ++ "\n")

end Report

/-- What is printed about documents; the exit code is one if any of them is rejected. -/
def reportsOutcome (reports : List Report) : Outcome :=
  ⟨if reports.all Report.isAccepted then 0 else 1, "", String.join (reports.map Report.text)⟩

/-- Makes known the type of the schema, where that is wanted. -/
def note (verbose : Bool) (type : Descriptor) : String :=
  if verbose then "compiled schema " ++ type.name ++ "\n" else ""

/-- Prints the description of a type or writes it to a file. -/
def describe (disk : Disk m) (source : Source) (out? : Option String) (verbose : Bool) :
    Work m Outcome := do
  let type ← source.readType disk
  match out? with
  | some path =>
    writeText disk path (description type)
    return ⟨0, "", note verbose type⟩
  | none => return ⟨0, description type ++ "\n", note verbose type⟩

/-- Checks the documents that the inputs name, in their order. All of them are read before any is
reported on, so that a problem leaves no report behind. -/
def check (disk : Disk m) (source : Source) (byLine : Bool) (inputs : List String)
    (verbose : Bool) : Work m Outcome := do
  let type ← source.readType disk
  let paths ← inputs.mapM (resolve disk)
  let reports ← paths.flatten.mapM (checkFile disk type byLine)
  let outcome := reportsOutcome reports.flatten
  return { outcome with errors := note verbose type ++ outcome.errors }

/-- A problem is named on the second stream, and the exit code is two. -/
def Problem.outcome (problem : Problem) : Outcome :=
  ⟨2, "", "error: " ++ problem.message ++ "\n"⟩

/-- The exit code where there is nothing to run. -/
def Stop.code : Stop → Nat
  | helpWanted => 0
  | badUsage => 2

namespace Request

/-- The work of a command, with what it makes known. -/
def work (disk : Disk m) (request : Request) : Work m Outcome :=
  match request.command with
  | .describe source out? => CommandLine.describe disk source out? request.verbose
  | .check source byLine inputs => CommandLine.check disk source byLine inputs request.verbose

/-- Carries out a request on a disk. -/
def run (disk : Disk m) (request : Request) : m Outcome := do
  match ← (request.work disk).run with
  | .ok outcome => return outcome
  | .error problem => return problem.outcome

end Request

end TypedJson.CommandLine
