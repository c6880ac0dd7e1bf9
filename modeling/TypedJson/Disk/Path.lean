import TypedJson.Text.Split

namespace TypedJson.Path

def isAbsolute (path : String) : Bool := path.toList.head? == some '/'

/-- The names of a path, between its slashes. A dot counts only where a relative path starts with
it. -/
def parts (path : String) : List String :=
  match slashParts path with
  | "." :: rest => "." :: names rest
  | all => names all
where
  names (all : List String) : List String := all.filter fun name => name != "" && name != "."

/-- Puts a name behind a path. -/
def join (path name : String) : String :=
  if path.isEmpty || path.toList.getLast? == some '/' then path ++ name
  else path ++ "/" ++ name

def ofParts (absolute : Bool) (names : List String) : String :=
  (if absolute then "/" else "") ++ "/".intercalate names

/-- The path without its last name; nothing for a path without names. -/
def parent? (path : String) : Option String :=
  match parts path with
  | [] => none
  | first :: rest => some (ofParts (isAbsolute path) (first :: rest).dropLast)

/-- The path leads to the working folder by a dot alone. -/
def isHere (path : String) : Bool := parts path == ["."]

end TypedJson.Path
