import TypedJson.Unicode.AgeTable
import TypedJson.Unicode.Blank
import TypedJson.Unicode.BreakTable
import TypedJson.Unicode.CategoryTable
import TypedJson.Unicode.ExtensionTable
import TypedJson.Unicode.PropertyTable
import TypedJson.Unicode.Recent
import TypedJson.Unicode.ScriptTable

namespace TypedJson.Unicode

/-- The numbers of a text in which other characters separate them. -/
def numbers (text : String) : List Nat :=
  (text.toList.foldr collect ([], none)) |> finish
where
  /-- Adds a character on the left; the pending number carries its place value. -/
  collect (char : Char) : List Nat × Option (Nat × Nat) → List Nat × Option (Nat × Nat)
    | (done, pending) =>
      if char.isDigit then
        let digit := char.toNat - '0'.toNat
        match pending with
        | none => (done, some (digit, 10))
        | some (value, weight) => (done, some (value + digit * weight, weight * 10))
      else
        match pending with
        | none => (done, none)
        | some (value, _) => (value :: done, none)
  finish : List Nat × Option (Nat × Nat) → List Nat
    | (done, none) => done
    | (done, some (value, _)) => value :: done

/-- The ranges of runs that alternately lack and have a property. -/
def alternateRanges (start : Nat) : List Nat → Ranges
  | without :: having :: rest =>
    (start + without, start + without + having - 1) ::
      alternateRanges (start + without + having) rest
  | _ => []

/-- Splits labelled runs such as `65Cc26Lu` into lengths and labels. -/
def labelledRuns (text : String) : List (Nat × String) :=
  let (done, length, label) := text.toList.foldl step ([], 0, [])
  (finish done length label).reverse
where
  finish (done : List (Nat × String)) (length : Nat) (label : List Char) :
      List (Nat × String) :=
    if label.isEmpty then done else (length, String.ofList label.reverse) :: done
  step : List (Nat × String) × Nat × List Char → Char → List (Nat × String) × Nat × List Char
    | (done, length, label), char =>
      if char.isDigit then
        let digit := char.toNat - '0'.toNat
        if label.isEmpty then (done, length * 10 + digit, [])
        else (finish done length label, digit, [])
      else if char.isAlpha then (done, length, char :: label)
      else (done, length, label)

/-- The ranges of the runs whose label is wanted, adjacent ranges joined. -/
def labelRanges (wanted : String → Bool) (start : Nat) : List (Nat × String) → Ranges
  | [] => []
  | (length, label) :: rest =>
    let more := labelRanges wanted (start + length) rest
    if wanted label then
      match more with
      | (first, last) :: others =>
        if first = start + length then (start, last) :: others
        else (start, start + length - 1) :: more
      | [] => [(start, start + length - 1)]
    else more

/-- Names of general categories and the short names that they stand for. -/
def categoryNames : List (List String × List String) :=
  [ (["c", "other"], ["C"]),
    (["cc", "control", "cntrl"], ["Cc"]),
    (["cf", "format"], ["Cf"]),
    (["cn", "unassigned"], ["Cn"]),
    (["co", "privateuse"], ["Co"]),
    (["l", "letter"], ["L"]),
    (["lc", "casedletter"], ["Lu", "Ll", "Lt"]),
    (["ll", "lowercaseletter"], ["Ll"]),
    (["lm", "modifierletter"], ["Lm"]),
    (["lo", "otherletter"], ["Lo"]),
    (["lt", "titlecaseletter"], ["Lt"]),
    (["lu", "uppercaseletter"], ["Lu"]),
    (["m", "mark", "combiningmark"], ["M"]),
    (["mc", "spacingmark"], ["Mc"]),
    (["me", "enclosingmark"], ["Me"]),
    (["mn", "nonspacingmark"], ["Mn"]),
    (["n", "number"], ["N"]),
    (["nd", "decimalnumber", "digit"], ["Nd"]),
    (["nl", "letternumber"], ["Nl"]),
    (["no", "othernumber"], ["No"]),
    (["p", "punctuation", "punct"], ["P"]),
    (["pc", "connectorpunctuation"], ["Pc"]),
    (["pd", "dashpunctuation"], ["Pd"]),
    (["pe", "closepunctuation"], ["Pe"]),
    (["pf", "finalpunctuation"], ["Pf"]),
    (["pi", "initialpunctuation"], ["Pi"]),
    (["po", "otherpunctuation"], ["Po"]),
    (["ps", "openpunctuation"], ["Ps"]),
    (["s", "symbol"], ["S"]),
    (["sc", "currencysymbol"], ["Sc"]),
    (["sk", "modifiersymbol"], ["Sk"]),
    (["sm", "mathsymbol"], ["Sm"]),
    (["so", "othersymbol"], ["So"]),
    (["z", "separator"], ["Z"]),
    (["zl", "lineseparator"], ["Zl"]),
    (["zp", "paragraphseparator"], ["Zp"]),
    (["zs", "spaceseparator"], ["Zs"])]

/-- The binary properties with their names. -/
def propertyNames : List (List String × String) :=
  [ (["ahex", "asciihexdigit"], asciiHexDigitRuns),
    (["alpha", "alphabetic"], alphabeticRuns),
    (["bidic", "bidicontrol"], bidiControlRuns),
    (["bidim", "bidimirrored"], bidiMirroredRuns),
    (["ci", "caseignorable"], caseIgnorableRuns),
    (["cased"], casedRuns),
    (["cwcf", "changeswhencasefolded"], changesWhenCasefoldedRuns),
    (["cwcm", "changeswhencasemapped"], changesWhenCasemappedRuns),
    (["cwl", "changeswhenlowercased"], changesWhenLowercasedRuns),
    (["cwt", "changeswhentitlecased"], changesWhenTitlecasedRuns),
    (["cwu", "changeswhenuppercased"], changesWhenUppercasedRuns),
    (["dash"], dashRuns),
    (["di", "defaultignorablecodepoint"], defaultIgnorableCodePointRuns),
    (["dep", "deprecated"], deprecatedRuns),
    (["dia", "diacritic"], diacriticRuns),
    (["emoji"], emojiRuns),
    (["ecomp", "emojicomponent"], emojiComponentRuns),
    (["emod", "emojimodifier"], emojiModifierRuns),
    (["ebase", "emojimodifierbase"], emojiModifierBaseRuns),
    (["epres", "emojipresentation"], emojiPresentationRuns),
    (["extpict", "extendedpictographic"], extendedPictographicRuns),
    (["ext", "extender"], extenderRuns),
    (["grbase", "graphemebase"], graphemeBaseRuns),
    (["grext", "graphemeextend"], graphemeExtendRuns),
    (["grlink", "graphemelink"], graphemeLinkRuns),
    (["hex", "hexdigit"], hexDigitRuns),
    (["hyphen"], hyphenRuns),
    (["idsb", "idsbinaryoperator"], idsBinaryOperatorRuns),
    (["idst", "idstrinaryoperator"], idsTrinaryOperatorRuns),
    (["idsu", "idsunaryoperator"], idsUnaryOperatorRuns),
    (["idcompatmathcontinue"], idCompatMathContinueRuns),
    (["idcompatmathstart"], idCompatMathStartRuns),
    (["idc", "idcontinue"], idContinueRuns),
    (["ids", "idstart"], idStartRuns),
    (["ideo", "ideographic"], ideographicRuns),
    (["joinc", "joincontrol"], joinControlRuns),
    (["loe", "logicalorderexception"], logicalOrderExceptionRuns),
    (["lower", "lowercase"], lowercaseRuns),
    (["math"], mathRuns),
    (["mcm", "modifiercombiningmark"], modifierCombiningMarkRuns),
    (["nchar", "noncharactercodepoint"], noncharacterCodePointRuns),
    (["oalpha", "otheralphabetic"], otherAlphabeticRuns),
    (["odi", "otherdefaultignorablecodepoint"], otherDefaultIgnorableCodePointRuns),
    (["ogrext", "othergraphemeextend"], otherGraphemeExtendRuns),
    (["oidc", "otheridcontinue"], otherIdContinueRuns),
    (["oids", "otheridstart"], otherIdStartRuns),
    (["olower", "otherlowercase"], otherLowercaseRuns),
    (["omath", "othermath"], otherMathRuns),
    (["oupper", "otheruppercase"], otherUppercaseRuns),
    (["patsyn", "patternsyntax"], patternSyntaxRuns),
    (["patws", "patternwhitespace"], patternWhiteSpaceRuns),
    (["pcm", "prependedconcatenationmark"], prependedConcatenationMarkRuns),
    (["qmark", "quotationmark"], quotationMarkRuns),
    (["radical"], radicalRuns),
    (["ri", "regionalindicator"], regionalIndicatorRuns),
    (["sterm", "sentenceterminal"], sentenceTerminalRuns),
    (["sd", "softdotted"], softDottedRuns),
    (["term", "terminalpunctuation"], terminalPunctuationRuns),
    (["uideo", "unifiedideograph"], unifiedIdeographRuns),
    (["upper", "uppercase"], uppercaseRuns),
    (["vs", "variationselector"], variationSelectorRuns),
    (["xidc", "xidcontinue"], xidContinueRuns),
    (["xids", "xidstart"], xidStartRuns)]

/-- The code points whose short category starts with one of the given names. -/
def categoryRanges (names : List String) : Ranges :=
  labelRanges (fun label => names.any fun name => name.isPrefixOf label) 0
    (labelledRuns categoryRuns)

/-- A name without case, separators and a leading `is`. -/
def looseName (name : List Char) : String :=
  let (afterIs, hadIs) :=
    match name with
    | 'i' :: 's' :: rest => (rest, true)
    | 'i' :: 'S' :: rest => (rest, true)
    | 'I' :: 's' :: rest => (rest, true)
    | 'I' :: 'S' :: rest => (rest, true)
    | _ => (name, false)
  let kept := afterIs.filter fun char =>
    char.toNat < 0x80 && char != ' ' && char != '_' && char != '-'
  let folded := String.ofList (kept.map Char.toLower)
  if hadIs && folded == "c" then "isc" else folded

def category? (name : String) : Option Ranges :=
  if name = "any" then some [(0, lastCode)]
  else if name = "assigned" then
    some (labelRanges (fun label => label != "Cn") 0 (labelledRuns categoryRuns))
  else if name = "ascii" then some [(0, 0x7F)]
  else (categoryNames.find? fun entry => entry.1.contains name).map (categoryRanges ·.2)

/-- The short name of a script. -/
def scriptLabel? (name : String) : Option String :=
  (scriptNames.find? fun entry => (entry.1 :: entry.2).any fun other =>
    looseName other.toList == name).map (·.1)

def scriptRanges (label : String) : Ranges :=
  labelRanges (· == label) 0 (labelledRuns scriptRuns)

def script? (name : String) : Option Ranges := (scriptLabel? name).map scriptRanges

/-- Whether a short name of four letters is one of those in a row. -/
def isListed (label : List Char) : Nat → List Char → Bool
  | 0, _ => false
  | fuel + 1, listed =>
    listed.take 4 == label || isListed label fuel (listed.drop 4)

/-- The code points that are used with a script, their own or not. -/
def scriptExtension? (name : String) : Option Ranges :=
  (scriptLabel? name).map fun label =>
    let runs := labelledRuns extensionRuns
    let listed (labels : String) : Bool := isListed label.toList labels.length labels.toList
    union (difference (scriptRanges label) (labelRanges (· != "x") 0 runs))
      (labelRanges listed 0 runs)

/-- The code points that were assigned in some version or earlier. -/
def age? (name : String) : Option Ranges :=
  let names (version : String) := [version, "v" ++ String.ofList (version.toList.filter (· != '.'))]
  let later := versionLetters.dropWhile fun entry => !(names entry.1).contains name
  if later.isEmpty then none
  else
    let excluded := "x" :: (later.drop 1).map (·.2)
    some (labelRanges (fun label => !excluded.contains label) 0 (labelledRuns ageRuns))

/-- The syllables of Hangul that end in a vowel: the first of every 28. -/
def openSyllables : Ranges :=
  (List.range 399).map fun index => (0xAC00 + 28 * index, 0xAC00 + 28 * index)

/-- The syllables of Hangul. -/
def syllables : Ranges := [(0xAC00, 0xD7A3)]

/-- The code points with a value, given the names of the values and the runs. -/
def boundaryValue? (values : List (List String × String)) (runs : String) (name : String) :
    Option Ranges :=
  (values.find? fun entry => entry.1.contains name).map fun entry =>
    labelRanges (· == entry.2) 0 (labelledRuns runs)

def graphemeBreak? (name : String) : Option Ranges :=
  if name = "lv" then some openSyllables
  else if name = "lvt" then some (difference syllables openSyllables)
  else boundaryValue? graphemeBreakValues graphemeBreakRuns name

def binary? (name : String) : Option Ranges :=
  if name = "whitespace" || name = "wspace" || name = "space" then some blankRanges
  else (propertyNames.find? fun entry => entry.1.contains name).map fun entry =>
    alternateRanges 0 (numbers entry.2)

/-- The code points of a property that is given by one name. -/
def property? (name : List Char) : Option Ranges :=
  let name := looseName name
  let binary := if name = "cf" || name = "sc" || name = "lc" then none else binary? name
  binary.orElse fun _ => (category? name).orElse fun _ => script? name

/-- The code points with a value of a property that has several values. -/
def propertyValue? (name value : List Char) : Option Ranges :=
  let value := looseName value
  match looseName name with
  | "gc" => category? value
  | "generalcategory" => category? value
  | "sc" => script? value
  | "script" => script? value
  | "scx" => scriptExtension? value
  | "scriptextensions" => scriptExtension? value
  | "age" => age? value
  | "gcb" => graphemeBreak? value
  | "graphemeclusterbreak" => graphemeBreak? value
  | "wb" => boundaryValue? wordBreakValues wordBreakRuns value
  | "wordbreak" => boundaryValue? wordBreakValues wordBreakRuns value
  | "sb" => boundaryValue? sentenceBreakValues sentenceBreakRuns value
  | "sentencebreak" => boundaryValue? sentenceBreakValues sentenceBreakRuns value
  | _ => none

/-- The decimal digits of all scripts. -/
def digitRanges : Ranges := categoryRanges ["Nd"]

/-- Letters, marks, decimal digits, connectors and joiners. -/
def wordRanges : Ranges :=
  alternateRanges 0 (numbers alphabeticRuns) ++ categoryRanges ["M", "Nd", "Pc"] ++
    alternateRanges 0 (numbers joinControlRuns)

/-- Whether a character is alphabetic, also if it is recent. -/
def isAlphabetic (char : Char) : Bool :=
  if char.toNat < 0x80 then char.isAlpha
  else inRanges (alternateRanges 0 (numbers alphabeticRuns)) char.toNat ||
    inRanges recentAlphabeticRanges char.toNat

/-- Whether a character is alphabetic or a number, also if it is recent. -/
def isAlphanumeric (char : Char) : Bool :=
  if char.toNat < 0x80 then char.isAlphanum
  else isAlphabetic char || inRanges (categoryRanges ["N"]) char.toNat ||
    inRanges recentNumberRanges char.toNat

end TypedJson.Unicode
