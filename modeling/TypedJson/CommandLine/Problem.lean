import TypedJson.Disk.Basic
import TypedJson.Glob.Basic
import TypedJson.Registry.File

namespace TypedJson.CommandLine

/-- A reason for which a command cannot do its work. -/
inductive Problem
  | unread (path : String) (fault : Disk.Fault)
  | notJson (path : String) (failure : Json.Failure)
  /-- A line of a file is no document. -/
  | lineNotJson (origin : String) (failure : Json.Failure)
  | noSuchNode (pointer path : String)
  | registryUnread (path : String) (fault : Disk.Fault)
  | notRegistry (path : String) (failure : Json.Failure)
  | typesRefused (error : RegistryFile.BuildError)
  | notType (path : String) (error : Error)
  | badGlob (failure : Glob.Failure)
  | noMatch (glob : String)
  | unlisted (folder : String) (fault : Disk.Fault)
  | unwritten (fault : Disk.Fault)

def Problem.message : Problem → String
  | unread path fault => "failed to read " ++ path ++ ": " ++ fault.message
  | notJson path failure => "failed to parse JSON file " ++ path ++ ": " ++ failure.message
  | lineNotJson origin failure => "failed to parse " ++ origin ++ ": " ++ failure.message
  | noSuchNode pointer path => "json pointer " ++ pointer ++ " not found in " ++ path
  | registryUnread path fault =>
    "failed to read registry file " ++ path ++ ": " ++ fault.message
  | notRegistry path failure =>
    "invalid registry file " ++ path ++ ": " ++ RegistryFile.failureText failure
  | typesRefused error => error.message
  | notType path error => "failed to compile " ++ path ++ ": " ++ error.message
  | badGlob failure => failure.message
  | noMatch glob => "glob pattern matched no files: " ++ glob
  | unlisted folder fault =>
    "attempting to read \x60" ++ folder ++ "\x60 resulted in an error: " ++ fault.message
  | unwritten fault => fault.message

end TypedJson.CommandLine
