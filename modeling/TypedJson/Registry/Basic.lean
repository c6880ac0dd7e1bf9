import TypedJson.Descriptor.Basic
import TypedJson.Schema.Node

namespace TypedJson

/-- The formats and types that schemas may name, in the order of registration. -/
structure Registry where
  formats : List Format
  types : List (String × Descriptor)

namespace Registry

def empty : Registry := ⟨[], []⟩

def standard : Registry := ⟨Format.standard, []⟩

def format? (registry : Registry) (name : String) : Option Format :=
  registry.formats.find? fun format => format.name == name

def type? (registry : Registry) (name : String) : Option Descriptor :=
  registry.types.lookup name

def formatNames (registry : Registry) : List String := registry.formats.map Format.name

def typeNames (registry : Registry) : List String := registry.types.map Prod.fst

/-- Adds a format at the end of its table; gives the registry that there is after the call. -/
def registerFormat (registry : Registry) (format : Format) : Except Error Unit × Registry :=
  if (registry.format? format.name).isSome then
    (.error (.duplicate .format format.name), registry)
  else (.ok (), { registry with formats := registry.formats ++ [format] })

/-- Adds a type at the end of its table; gives the registry that there is after the call. -/
def registerType (registry : Registry) (name : String) (type : Descriptor) :
    Except Error Unit × Registry :=
  if (registry.type? name).isSome then (.error (.duplicate .type name), registry)
  else if Schema.Kind.isReserved name then (.error (.reserved name), registry)
  else (.ok (), { registry with types := registry.types ++ [(name, type)] })

def resetFormats (registry : Registry) : Registry := { registry with formats := [] }

def resetTypes (registry : Registry) : Registry := { registry with types := [] }

end Registry

end TypedJson
