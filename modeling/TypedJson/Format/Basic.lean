import TypedJson.Format.Address
import TypedJson.Format.Calendar
import TypedJson.Format.Regular

namespace TypedJson

/-- A named check of texts. -/
structure Format where
  name : String
  check : String → Bool

namespace Format

/-- What a format says about days and times. -/
inductive Temporal
  | date
  | dateTime
  | time
deriving DecidableEq

def Temporal.name : Temporal → String
  | date => "date"
  | dateTime => "datetime"
  | time => "time"

/-- Only the name of a format decides. -/
def temporal? (format : Format) : Option Temporal :=
  if format.name = "date" then some .date
  else if format.name = "date-time" then some .dateTime
  else if format.name = "time" then some .time
  else none

/-- The formats that are commonly wanted. -/
def standard : List Format :=
  [ ⟨"date", Calendar.isDate⟩,
    ⟨"date-time", Calendar.isDateTime⟩,
    ⟨"time", Calendar.isTime⟩,
    ⟨"email", isMailAddress⟩,
    ⟨"uri", isResourceIdentifier⟩,
    ⟨"ipv4", Address.isVersion4⟩,
    ⟨"ipv6", Address.isVersion6⟩,
    ⟨"uuid", isUniqueIdentifier⟩ ]

end Format

end TypedJson
