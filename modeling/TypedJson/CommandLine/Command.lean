import TypedJson.CommandLine.Switch

namespace TypedJson.CommandLine

/-- The file of a schema, the place of the schema in it, and the file of the types it may name. -/
structure Source where
  path : String
  pointer? : Option String
  registry? : Option String
deriving DecidableEq

/-- What is to be done with a schema. -/
inductive Command
  /-- Prints the type of a schema or writes it to a file. -/
  | describe (source : Source) (out? : Option String)
  /-- Checks documents, of which each line of an input may be one. -/
  | check (source : Source) (byLine : Bool) (inputs : List String)
deriving DecidableEq

/-- A command with the switches before its name. -/
structure Request where
  verbose : Bool
  command : Command
deriving DecidableEq

namespace Switch

def verbose : Switch := ⟨"verbose", some 'v', .nothing⟩

def schema : Switch := ⟨"schema", some 's', .path⟩

def pointer : Switch := ⟨"json-pointer", none, .text⟩

def registry : Switch := ⟨"registry", none, .path⟩

def out : Switch := ⟨"out", some 'o', .path⟩

def byLine : Switch := ⟨"ndjson", none, .nothing⟩

def input : Switch := ⟨"input", some 'i', .texts⟩

/-- The switches before the name of a command. -/
def general : List Switch := [help, verbose]

def ofSource : List Switch := general ++ [schema, pointer, registry]

def ofDescribe : List Switch := ofSource ++ [out]

def ofCheck : List Switch := ofSource ++ [byLine, input]

end Switch

namespace Reading

def source (reading : Reading) : Except Stop Source :=
  match reading.value? Switch.schema.name with
  | none => .error .badUsage
  | some path =>
    .ok ⟨path, reading.value? Switch.pointer.name, reading.value? Switch.registry.name⟩

end Reading

namespace Request

/-- Reads the words behind the name of a command; no other word may remain. -/
def readCommand (switches : List Switch) (words : List String)
    (command : Reading → Except Stop Command) : Except Stop Request := do
  let (reading, rest) ← Reading.start.readWords switches words
  if rest.isEmpty then return ⟨reading.isGiven Switch.verbose.name, ← command reading⟩
  else throw .badUsage

def describe (words : List String) : Except Stop Request :=
  readCommand Switch.ofDescribe words fun reading => do
    return .describe (← reading.source) (reading.value? Switch.out.name)

def check (words : List String) : Except Stop Request :=
  readCommand Switch.ofCheck words fun reading => do
    let source ← reading.source
    let inputs := reading.values Switch.input.name
    if inputs.isEmpty then throw .badUsage
    else return .check source (reading.isGiven Switch.byLine.name) inputs

/-- The word that asks for help about the command named after it, if any. -/
def readHelp : List String → Stop
  | [] => .helpWanted
  | [name] => if ["describe", "check", "help"].contains name then .helpWanted else .badUsage
  | _ => .badUsage

/-- Reads the words of a command line. -/
def ofWords (words : List String) : Except Stop Request := do
  let (reading, rest) ← Reading.start.readWords Switch.general words
  let request ← match rest with
    | "describe" :: rest => describe rest
    | "check" :: rest => check rest
    | "help" :: rest => throw (readHelp rest)
    | _ => throw .badUsage
  return { request with verbose := request.verbose || reading.isGiven Switch.verbose.name }

end Request

end TypedJson.CommandLine
