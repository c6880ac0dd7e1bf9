import TypedJson.Proofs.CommandLine.Check
import TypedJson.Proofs.Json.Common
import TypedJson.Proofs.Text.Split

namespace TypedJson

open Json (Value)

namespace Unicode

/-- A character that starts a value is not white space. -/
theorem isBlank_of_digit {char : Char} (digit : '0' ≤ char ∧ char ≤ '9') :
    isBlank char = false := by
  obtain ⟨least, greatest⟩ := digit
  have least : 48 ≤ char.toNat := least
  have greatest : char.toNat ≤ 57 := greatest
  simp only [isBlank, inRanges, blankRanges, List.any_cons, List.any_nil, Bool.or_false,
    Bool.or_eq_false_iff, Bool.and_eq_false_iff, decide_eq_false_iff_not]
  omega

end Unicode

namespace CommandLine

/-! ### Lines of a text -/

/-- How a line ends. -/
inductive LineEnd
  | feed
  | returnFeed

def LineEnd.text : LineEnd → String
  | feed => "\n"
  | returnFeed => "\r\n"

/-- A text of lines, of which each but the last has an end. The last one may be empty. -/
inductive Lines : List String → String → Prop
  | last {line : String} (single : '\n' ∉ line.toList) : Lines [line] line
  | next {line text : String} {others : List String} (lineEnd : LineEnd)
      (single : '\n' ∉ line.toList) (rest : Lines others text) :
      Lines (line :: others) (line ++ lineEnd.text ++ text)

def IsBlank (line : String) : Prop := ∀ char ∈ line.toList, Unicode.isBlank char = true

def IsDocument (line : String) : Prop := ∃ value, Json.read line = .ok value

/-- The documents among lines, with their numbers from a first one; the other lines are blank. -/
inductive Documents : Nat → List String → List (Nat × String) → Prop
  | none (number : Nat) : Documents number [] []
  | blank {number : Nat} {line : String} {lines : List String} {documents : List (Nat × String)}
      (isBlank : IsBlank line) (rest : Documents (number + 1) lines documents) :
      Documents number (line :: lines) documents
  | document {number : Nat} {line : String} {lines : List String}
      {documents : List (Nat × String)} (isDocument : IsDocument line)
      (rest : Documents (number + 1) lines documents) :
      Documents number (line :: lines) ((number, line) :: documents)

/-- A line as it is read: a carriage return before its line feed may be taken off. -/
inductive Shown (line : String) : String → Prop
  | whole : Shown line line
  | shorter {chars : List Char} (ends : line.toList = chars ++ ['\r']) :
      Shown line (String.ofList chars)

namespace Shown

variable {line shown : String}

/-- The return makes no difference to whether a line is blank. -/
theorem isBlank_iff (shows_ : Shown line shown) : IsBlank shown ↔ IsBlank line := by
  cases shows_ with
  | whole => rfl
  | shorter ends =>
      have back : Unicode.isBlank '\r' = true := by decide
      rw [IsBlank, IsBlank, ends, String.toList_ofList, List.forall_mem_append]
      simp [back]

/-- The return makes no difference to what a line is read as. -/
theorem read_iff (shows_ : Shown line shown) (value : Value) :
    Json.read shown = .ok value ↔ Json.read line = .ok value := by
  cases shows_ with
  | whole => rfl
  | shorter ends =>
      rw [← Json.read_append_blanks (.back .nothing), ← ends, String.ofList_toList]

/-- The return makes no difference to whether a line is a document. -/
theorem isDocument_iff (shows_ : Shown line shown) : IsDocument shown ↔ IsDocument line := by
  simp only [IsDocument, shows_.read_iff]

end Shown

/-- The lines that are read of lines: those that are not blank, with their numbers. -/
inductive Filled : Nat → List String → List (Nat × String) → Prop
  | none (number : Nat) : Filled number [] []
  | blank {number : Nat} {line : String} {lines : List String} {found : List (Nat × String)}
      (isBlank : IsBlank line) (rest : Filled (number + 1) lines found) :
      Filled number (line :: lines) found
  | filled {number : Nat} {line shown : String} {lines : List String}
      {found : List (Nat × String)} (notBlank : ¬IsBlank line) (shows_ : Shown line shown)
      (rest : Filled (number + 1) lines found) :
      Filled number (line :: lines) ((number, shown) :: found)

/-- The lines from a number on that are not blank. -/
def filledFrom (number : Nat) (lines : List String) : List (Nat × String) :=
  (lines.zipIdx number).filterMap fun line =>
    if line.1.toList.all Unicode.isBlank then none else some (line.2, line.1)

/-- Lines that are not blank keep their numbers. -/
theorem filledFrom_cons (number : Nat) (line : String) (lines : List String) :
    filledFrom number (line :: lines) =
      if line.toList.all Unicode.isBlank then filledFrom (number + 1) lines
      else (number, line) :: filledFrom (number + 1) lines := by
  rw [filledFrom, List.zipIdx_cons, List.filterMap_cons]
  split <;> simp_all [filledFrom]

/-- A line of blanks is blank. -/
theorem all_isBlank_iff (line : String) :
    line.toList.all Unicode.isBlank = true ↔ IsBlank line := List.all_eq_true

theorem Filled.cons {number : Nat} {line shown : String} {lines others : List String}
    (shows_ : Shown line shown)
    (rest : Filled (number + 1) lines (filledFrom (number + 1) others)) :
    Filled number (line :: lines) (filledFrom number (shown :: others)) := by
  rw [filledFrom_cons]
  split
  · rename_i isBlank
    rw [all_isBlank_iff, shows_.isBlank_iff] at isBlank
    exact .blank isBlank rest
  · rename_i notBlank
    rw [all_isBlank_iff, shows_.isBlank_iff] at notBlank
    exact .filled notBlank shows_ rest

/-- Each line but the last loses its return. -/
theorem endLines_cons {line : List Char} {rest : List (List Char)} (nonempty : rest ≠ []) :
    endLines (line :: rest) = dropReturn line :: endLines rest := by
  cases rest with
  | nil => contradiction
  | cons second others => rfl

/-- A line without its return is the line as it may be read. -/
theorem shown_dropReturn (line : String) : Shown line (String.ofList (dropReturn line.toList)) := by
  unfold dropReturn
  split
  · rename_i back
    exact .shorter (List.dropLast_append_getLast? _ back).symm
  · rw [String.ofList_toList]
    exact .whole

/-- A return at the end is dropped. -/
theorem dropReturn_back (chars : List Char) : dropReturn (chars ++ ['\r']) = chars := by
  simp [dropReturn]

/-- The text of a line with its end splits before the line feed. -/
theorem lines_next {line : String} (single : '\n' ∉ line.toList) (lineEnd : LineEnd)
    (text : String) :
    ∃ shown, Shown line shown ∧ lines (line ++ lineEnd.text ++ text) = shown :: lines text := by
  have nonempty := splitAt_ne_nil '\n' text.toList
  cases lineEnd with
  | feed =>
      refine ⟨_, shown_dropReturn line, ?_⟩
      have chars : (line ++ LineEnd.feed.text ++ text).toList =
          line.toList ++ '\n' :: text.toList := by simp [LineEnd.text]
      rw [lines, chars, splitAt_append single, endLines_cons nonempty]
      rfl
  | returnFeed =>
      refine ⟨line, .whole, ?_⟩
      have chars : (line ++ LineEnd.returnFeed.text ++ text).toList =
          (line.toList ++ ['\r']) ++ '\n' :: text.toList := by simp [LineEnd.text]
      have single : '\n' ∉ line.toList ++ ['\r'] := by simpa using single
      rw [lines, chars, splitAt_append single, endLines_cons nonempty, dropReturn_back]
      simp [lines]

/-- What has no line feed is one line, if it is anything. -/
theorem lines_last {line : String} (single : '\n' ∉ line.toList) :
    lines line = if line.toList.isEmpty then [] else [line] := by
  rw [lines, splitAt_of_notMem single, endLines]
  split <;> simp

/-- Reading takes the lines that are not blank off a text, and counts all. -/
theorem filled_documentLines {all : List String} {text : String} (written : Lines all text) :
    Filled 1 all (documentLines text) := by
  have from_ (number : Nat) : Filled number all (filledFrom number (lines text)) := by
    -- an empty end of the text is no line for the program, and here it is a blank one
    induction written generalizing number with
    | last single =>
        rename_i line
        rw [lines_last single]
        split
        · rename_i empty
          exact .blank (by simp [IsBlank, List.isEmpty_iff.mp empty]) (.none _)
        · exact .cons .whole (.none _)
    | next lineEnd single rest ih =>
        obtain ⟨shown, shows_, same⟩ := lines_next single lineEnd _
        rw [same]
        exact .cons shows_ (ih (number + 1))
  exact from_ 1

/-! ### Documents of lines -/

/-- A value starts with a character that is no white space. -/
theorem exists_visible_of_value {fuel depth : Nat} {cursor : Json.Cursor}
    {found : Value × Json.Cursor}
    (read : Json.Reader.value fuel depth cursor = .ok found) :
    ∃ char ∈ cursor.rest, Unicode.isBlank char = false := by
  have inside {char : Char} {rest : List Char} (ahead : cursor.skipBlanks.rest = char :: rest)
      (visible : Unicode.isBlank char = false) :
      ∃ char ∈ cursor.rest, Unicode.isBlank char = false := by
    have reached : char :: rest <:+ cursor.rest := ahead ▸ Json.Cursor.Reaches.skipBlanks cursor
    exact ⟨char, reached.subset List.mem_cons_self, visible⟩
  cases fuel with
  | zero => simp [Json.Reader.value, Json.Cursor.failHere] at read
  | succ fuel =>
      unfold Json.Reader.value at read
      dsimp only at read
      split at read
      · simp [Json.Cursor.failNext] at read
      case h_9 =>
        rename_i ahead
        split at read
        · rename_i digit
          exact inside ahead (Unicode.isBlank_of_digit digit)
        · simp [Json.Cursor.failNext] at read
      all_goals
        rename_i ahead
        exact inside ahead (by decide)

/-- A blank line is no document. -/
theorem IsDocument.not_isBlank {line : String} (isDocument : IsDocument line) : ¬IsBlank line := by
  obtain ⟨value, read⟩ := isDocument
  obtain ⟨after, leading, -⟩ := Json.read_eq_ok_iff.mp read
  obtain ⟨char, inside, visible⟩ := exists_visible_of_value leading
  intro blank
  simp [blank char inside] at visible

/-- A line with its number, read as a document with its origin. -/
def readLine (path : String) (line : Nat × String) : Except Problem (String × Value) :=
  ((Json.read line.2).mapError (.lineNotJson (lineOrigin path line.1))).map
    (lineOrigin path line.1, ·)

/-- Where all lines are blank or documents, the documents are read from the lines shown. -/
theorem Filled.documents {number : Nat} {all : List String} {found documents : List (Nat × String)}
    (filled : Filled number all found) (given : Documents number all documents) (path : String) :
    ∃ results, List.Forall₂ (fun line result => readLine path line = .ok result) found results ∧
      List.Forall₂ (fun document result => result.1 = lineOrigin path document.1 ∧
        Json.read document.2 = .ok result.2) documents results := by
  induction given generalizing found with
  | none number =>
      cases filled
      exact ⟨[], .nil, .nil⟩
  | blank isBlank rest ih =>
      cases filled with
      | blank _ others => exact ih others
      | filled notBlank _ _ => exact absurd isBlank notBlank
  | @document number _ _ _ isDocument rest ih =>
      cases filled with
      | blank isBlank _ => exact absurd isBlank isDocument.not_isBlank
      | filled _ shows_ others =>
          obtain ⟨value, read⟩ := isDocument
          obtain ⟨results, lines, documents⟩ := ih others
          refine ⟨(lineOrigin path number, value) :: results, .cons ?_ lines,
            .cons ⟨rfl, read⟩ documents⟩
          rw [readLine, (shows_.read_iff value).mpr read]
          rfl

/-- The first line that is neither blank nor a document is met after documents only. -/
theorem Filled.first_bad {number : Nat} {before after : List String} {bad : String}
    {found : List (Nat × String)} (filled : Filled number (before ++ bad :: after) found)
    (fine : ∀ line ∈ before, IsBlank line ∨ IsDocument line) (notBlank : ¬IsBlank bad)
    (notDocument : ¬IsDocument bad) (path : String) :
    ∃ earlier line later failure, found = earlier ++ line :: later ∧
      (∀ other ∈ earlier, ∃ document, readLine path other = .ok document) ∧
      readLine path line =
        .error (.lineNotJson (lineOrigin path (number + before.length)) failure) := by
  induction before generalizing number found with
  | nil =>
      cases filled with
      | blank isBlank _ => exact absurd isBlank notBlank
      | @filled _ _ shown _ later _ shows_ _ =>
          cases read : Json.read shown with
          | ok value => exact absurd (shows_.isDocument_iff.mp ⟨value, read⟩) notDocument
          | error failure =>
              refine ⟨[], _, later, failure, rfl, by simp, ?_⟩
              simp [readLine, read, Except.mapError, Except.map]
  | cons line others ih =>
      obtain ⟨lineFine, othersFine⟩ := List.forall_mem_cons.mp fine
      have count : number + (line :: others).length = number + 1 + others.length := by
        rw [List.length_cons]
        omega
      rw [count]
      cases filled with
      | blank _ rest => exact ih rest othersFine
      | @filled _ _ shown _ _ lineFilled shows_ rest =>
          obtain ⟨earlier, bad, later, failure, rfl, earlierFine, failed⟩ := ih rest othersFine
          obtain ⟨value, read⟩ := shows_.isDocument_iff.mpr (lineFine.resolve_left lineFilled)
          have document : readLine path (number, shown) = .ok (lineOrigin path number, value) := by
            rw [readLine, read]
            rfl
          exact ⟨(number, shown) :: earlier, bad, later, failure, rfl,
            List.forall_mem_cons.mpr ⟨⟨_, document⟩, earlierFine⟩, failed⟩

/-! ### Checking by lines -/

section

variable {State : Type} {disk : Disk (StateM State)} {state after : State} {path text : String}

/-- By lines, a file is checked without a further look at the disk. -/
theorem run_checkFile_lines (type : Descriptor)
    (read : (disk.read path).run state = (.ok text.toUTF8, after)) :
    (checkFile disk type true path).run.run state =
      (((documentLines text).mapM (readLine path)).map (List.map (reportOn type)), after) := by
  have each (line : Nat × String) :
      (do return (lineOrigin path line.1,
          ← required (.lineNotJson (lineOrigin path line.1)) (Json.read line.2)) :
        Work (StateM State) (String × Value)).run.run after = (readLine path line, after) := by
    rw [readLine]
    cases Json.read line.2 <;> rfl
  have documents : (readDocuments disk true path).run.run state =
      ((documentLines text).mapM (readLine path), after) :=
    (run_bind_of_ok _ (run_readText read)).trans (run_mapM each _)
  cases made : (documentLines text).mapM (readLine path) with
  | error problem =>
      rw [made] at documents
      exact run_bind_of_error _ documents
  | ok found =>
      rw [made] at documents
      exact run_bind_of_ok _ documents

/-- A file that is one document gives one report. -/
theorem run_checkFile_whole (type : Descriptor) {value : Value}
    (read : (disk.read path).run state = (.ok text.toUTF8, after))
    (made : Json.read text = .ok value) :
    (checkFile disk type false path).run.run state =
      (.ok [⟨path, type.validate value⟩], after) := by
  have document : (readJson disk path).run.run state = (.ok value, after) := by
    refine (run_bind_of_ok _ (run_readBytes read)).trans ?_
    rw [Json.readBytes_toUTF8, made]
    rfl
  have documents : (readDocuments disk false path).run.run state =
      (.ok [(path, value)], after) := run_bind_of_ok _ document
  exact run_bind_of_ok _ documents

end

/-- The result of a text alone: a file that holds it gives one report, with this result. -/
def ChecksAlone (type : Descriptor) (text : String) (result : Except (List Violation) Unit) :
    Prop :=
  ∀ {State : Type} (disk : Disk (StateM State)) (state after : State) (path : String),
    (disk.read path).run state = (.ok text.toUTF8, after) →
      (checkFile disk type false path).run.run state = (.ok [⟨path, result⟩], after)

/--
A file of lines that are blank or documents has one report for each document, in order: with the
result of the document alone, and with the path and the number of the line for its origin. A first
line that is neither ends the work with a problem that names it.
-/
theorem checkFile_lines {State : Type} {disk : Disk (StateM State)} {state after : State}
    {path text : String} {all : List String} (type : Descriptor) (written : Lines all text)
    (read : (disk.read path).run state = (.ok text.toUTF8, after)) :
    (∀ documents, Documents 1 all documents → ∃ reports : List Report,
        (checkFile disk type true path).run.run state = (.ok reports, after) ∧
        List.Forall₂ (fun document report =>
          report.origin = path ++ ":" ++ toString document.1 ∧
            ChecksAlone type document.2 report.result) documents reports) ∧
      ∀ before bad rest, all = before ++ bad :: rest →
        (∀ line ∈ before, IsBlank line ∨ IsDocument line) → ¬IsBlank bad → ¬IsDocument bad →
          ∃ failure, (checkFile disk type true path).run.run state =
            (.error (.lineNotJson (path ++ ":" ++ toString (before.length + 1)) failure),
              after) := by
  have filled := filled_documentLines written
  have run := run_checkFile_lines type read
  constructor
  · intro documents given
    obtain ⟨results, lines, each⟩ := filled.documents given path
    refine ⟨results.map (reportOn type), ?_, ?_⟩
    · rw [run, mapM_eq_ok.mpr lines]
      rfl
    · rw [List.forall₂_map_right_iff]
      apply each.imp
      intro document result here
      refine ⟨here.1, ?_⟩
      intro _ other _ _ _ holds
      exact run_checkFile_whole type holds here.2
  · rintro before bad rest rfl fine notBlank notDocument
    obtain ⟨earlier, line, later, failure, found, earlierFine, failed⟩ :=
      filled.first_bad fine notBlank notDocument path
    refine ⟨failure, ?_⟩
    rw [run, found, mapM_of_first_error earlierFine failed, Nat.add_comm]
    rfl

/-- Two documents among blank lines, and a file whose second line is cut off. -/
def twoFiles : Disk.Tree where
  files := [(["good"], "\r\n1\r\n \t\n\"x\"".toUTF8), (["bad"], "1\n[\n".toUTF8)]
  folders := []
  here := []

/-- One file has documents in its second and fourth line, the other fails in its second. -/
theorem checkFile_twoFiles :
    (∃ reports, (checkFile Disk.Tree.disk (.primitive .string) true "good").run.run twoFiles =
        (.ok reports, twoFiles) ∧ reports.map Report.origin = ["good:2", "good:4"]) ∧
      ∃ failure, (checkFile Disk.Tree.disk (.primitive .string) true "bad").run.run twoFiles =
        (.error (.lineNotJson "bad:2" failure), twoFiles) := by
  have number : IsDocument "1" := ⟨_, rfl⟩
  have text : IsDocument "\"x\"" := ⟨_, rfl⟩
  have blank : IsBlank " \t" := by
    rw [← all_isBlank_iff]
    decide
  have empty : IsBlank "" := by simp [IsBlank]
  constructor
  · have written : Lines ["", "1", " \t", "\"x\""] "\r\n1\r\n \t\n\"x\"" :=
      .next .returnFeed (by decide) (.next .returnFeed (by decide)
        (.next .feed (by decide) (.last (by decide))))
    have given : Documents 1 ["", "1", " \t", "\"x\""] [(2, "1"), (4, "\"x\"")] :=
      .blank empty (.document number (.blank blank (.document text (.none 5))))
    have read : (Disk.Tree.disk.read "good").run twoFiles =
        (.ok "\r\n1\r\n \t\n\"x\"".toUTF8, twoFiles) := rfl
    obtain ⟨reports, ran, each⟩ := (checkFile_lines (.primitive .string) written read).1 _ given
    refine ⟨reports, ran, ?_⟩
    cases each with
    | cons first others =>
        cases others with
        | cons second others =>
            cases others
            simp [first.1, second.1]
            decide
  · have written : Lines ["1", "[", ""] "1\n[\n" :=
      .next .feed (by decide) (.next .feed (by decide) (.last (by decide)))
    have filled : ¬IsBlank "[" := by
      rw [← all_isBlank_iff]
      decide
    have cut : ¬IsDocument "[" := by
      rintro ⟨value, read⟩
      cases read
    have read : (Disk.Tree.disk.read "bad").run twoFiles = (.ok "1\n[\n".toUTF8, twoFiles) := rfl
    exact (checkFile_lines (.primitive .string) written read).2 ["1"] "[" [""] rfl
      (by simpa using .inr number) filled cut

end CommandLine

end TypedJson
