namespace TypedJson.CommandLine

/-- What follows a switch; a path is not empty, and texts are one or more. -/
inductive Takes
  | nothing
  | text
  | path
  | texts
deriving DecidableEq

/-- A switch is given by its name behind two hyphens or by its letter behind one. -/
structure Switch where
  name : String
  letter? : Option Char
  takes : Takes
deriving DecidableEq

/-- Why there is nothing to run. -/
inductive Stop
  | helpWanted
  | badUsage
deriving DecidableEq

def Switch.help : Switch := ⟨"help", some 'h', .nothing⟩

/-- The switches read so far with their values, and the switch that still takes values. -/
structure Reading where
  given : List (String × List String)
  taking? : Option (Switch × List String)

namespace Reading

def start : Reading := ⟨[], none⟩

def values (reading : Reading) (name : String) : List String :=
  (reading.given.filter fun entry => entry.1 == name).flatMap Prod.snd

def value? (reading : Reading) (name : String) : Option String := (reading.values name).head?

def isGiven (reading : Reading) (name : String) : Bool := (reading.given.lookup name).isSome

/-- The number of values is right. -/
def countFits (takes : Takes) (values : List String) : Bool :=
  match takes with
  | .nothing => values.isEmpty
  | .text | .path => values.length = 1
  | .texts => !values.isEmpty

/-- Takes a switch with all its values; only texts may be given again. -/
def add (reading : Reading) (switch : Switch) (values : List String) : Except Stop Reading :=
  if !countFits switch.takes values then .error .badUsage
  else if switch.takes = .path ∧ values = [""] then .error .badUsage
  else if switch.takes ≠ .texts ∧ reading.isGiven switch.name then .error .badUsage
  else if switch = .help then .error .helpWanted
  else .ok ⟨reading.given ++ [(switch.name, values)], none⟩

/-- Ends the values of the last switch. -/
def close (reading : Reading) : Except Stop Reading :=
  match reading.taking? with
  | none => .ok reading
  | some (switch, values) => { reading with taking? := none }.add switch values

/-- Meets a switch, perhaps with a value in the same word. -/
def meet (reading : Reading) (switch : Switch) (attached? : Option String) :
    Except Stop Reading := do
  let reading ← reading.close
  match switch.takes, attached? with
  | .nothing, none => reading.add switch []
  | .nothing, some _ => throw .badUsage
  | _, some value => reading.add switch [value]
  | _, none => return { reading with taking? := some (switch, []) }

/-- Gives a value to the switch that takes one. -/
def give (reading : Reading) (switch : Switch) (values : List String) (value : String) :
    Except Stop Reading :=
  if switch.takes = .texts then
    .ok { reading with taking? := some (switch, values ++ [value]) }
  else { reading with taking? := none }.add switch (values ++ [value])

/-- Meets letters behind one hyphen; the rest of the word is the value of one that takes any. -/
def meetLetters (switches : List Switch) (reading : Reading) :
    List Char → Except Stop Reading
  | [] => .ok reading
  | letter :: rest =>
    match switches.find? fun switch => switch.letter? == some letter with
    | none => .error .badUsage
    | some switch =>
      match switch.takes, rest with
      | .nothing, rest => do (← reading.meet switch none).meetLetters switches rest
      | _, [] => reading.meet switch none
      | _, '=' :: value => reading.meet switch (some (String.ofList value))
      | _, value => reading.meet switch (some (String.ofList value))

/-- Meets a name behind two hyphens, perhaps with an equals sign and a value. -/
def meetName (switches : List Switch) (reading : Reading) (word : List Char) :
    Except Stop Reading :=
  let name := String.ofList (word.takeWhile (· != '='))
  match switches.find? fun switch => switch.name == name with
  | none => .error .badUsage
  | some switch =>
    match word.dropWhile (· != '=') with
    | [] => reading.meet switch none
    | _ :: value => reading.meet switch (some (String.ofList value))

/-- Reads words up to the first that is neither a switch nor a value of one; that word is answered
with those after it. Nothing may follow a word of two hyphens alone. -/
def readWords (switches : List Switch) (reading : Reading) :
    List String → Except Stop (Reading × List String)
  | [] => do return (← reading.close, [])
  | word :: rest =>
    match word.toList, reading.taking? with
    | ['-', '-'], _ =>
      if rest.isEmpty then do return (← reading.close, []) else .error .badUsage
    | '-' :: '-' :: name, _ => do (← reading.meetName switches name).readWords switches rest
    | '-' :: letter :: letters, _ => do
      (← reading.meetLetters switches (letter :: letters)).readWords switches rest
    | _, some (switch, values) => do
      (← reading.give switch values word).readWords switches rest
    | _, none => .ok (reading, word :: rest)

end Reading

end TypedJson.CommandLine
