import TypedJson.Regex.Reach

namespace TypedJson.Format

open TypedJson.Regex (CharSet)

/-- A whole text, of parts in a row. -/
def wholeText (parts : List Regex) : Regex :=
  .seq (.look .textStart :: parts ++ [.look .textEnd])

def oneOrMore (set : CharSet) : Regex := .rounds (.one set) 1 none true

/-- Characters that are neither blank nor the sign between name and host. -/
def mailChar : CharSet := .complement (.union .blank (.single '@'))

/-- A name, a sign and a host with a dot inside it. -/
def mailAddress : Regex :=
  wholeText [oneOrMore mailChar, .literal '@', oneOrMore mailChar, .literal '.',
    oneOrMore mailChar]

def letter : CharSet := .union (.between 'A' 'Z') (.between 'a' 'z')

def schemeChar : CharSet :=
  .unionAll [.between 'A' 'Z', .between 'a' 'z', .between '0' '9', .single '+', .single '.',
    .single '-']

/-- A scheme, a colon and anything without blanks. -/
def resourceIdentifier : Regex :=
  wholeText [.one letter, .rounds (.one schemeChar) 0 none true, .literal ':',
    .rounds (.one (.complement .blank)) 0 none true]

def hexDigit : CharSet :=
  .union (.between '0' '9') (.union (.between 'a' 'f') (.between 'A' 'F'))

def hexDigits (count : Nat) : Regex := .rounds (.one hexDigit) count (some count) true

/-- Groups of 8, 4, 4, 4 and 12 hexadecimal digits with hyphens between them. -/
def uniqueIdentifier : Regex :=
  wholeText [hexDigits 8, .literal '-', hexDigits 4, .literal '-', hexDigits 4, .literal '-',
    hexDigits 4, .literal '-', hexDigits 12]

def isMailAddress (text : String) : Bool := mailAddress.isMatch text.toList

def isResourceIdentifier (text : String) : Bool := resourceIdentifier.isMatch text.toList

def isUniqueIdentifier (text : String) : Bool := uniqueIdentifier.isMatch text.toList

end TypedJson.Format
